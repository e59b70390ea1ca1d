import RtcConfig.Text.Quoted
import RtcConfig.Url.Basic

/-! # Errors of a configuration

The causes for which settings are rejected. Each carries the text that witnesses it as it was
given, and its message shows that text quoted, except for the URL of a TURN server without
credentials.
-/

namespace RtcConfig

inductive ConfigError where
  | invalidPortRange (first last : UInt16)
  | incompletePortRange
  | invalidNodeIp (text : String)
  | externalIpWithoutNodeIp
  | invalidIpFilter (entry : String)
  | invalidIceServerUrl (url : String)
  | turnServerMissingHost
  | turnServerMissingCredentials (url : String)
  | unsupportedTurnProtocol (protocol : String)
  | malformedUrl (cause : UrlError)
  deriving DecidableEq, Repr

def ConfigError.message : ConfigError → String
  | .invalidPortRange first last =>
    "rtc config: port range start " ++ toString first.toNat ++ " is greater than end " ++
      toString last.toNat
  | .incompletePortRange => "rtc config: port range requires both start and end"
  | .invalidNodeIp text => "rtc config: invalid node ip " ++ Text.quote text
  | .externalIpWithoutNodeIp => "rtc config: use_external_ip requires node_ip"
  | .invalidIpFilter entry => "rtc config: invalid ip filter " ++ Text.quote entry
  | .invalidIceServerUrl url => "rtc config: invalid ice server url " ++ Text.quote url
  | .turnServerMissingHost => "rtc config: turn server requires a host"
  | .turnServerMissingCredentials url =>
    "rtc config: turn server " ++ url ++ " requires username and credential"
  | .unsupportedTurnProtocol protocol =>
    "rtc config: unsupported turn protocol " ++ Text.quote protocol
  | .malformedUrl cause => "url parse: " ++ cause.message

end RtcConfig
