import RtcConfig.Ice.Endpoint
import RtcConfig.Json.Decode

/-! # ICE servers

An ICE server is a list of URLs that share a user name and a credential. It is valid when every
URL names an endpoint and none of them is a TURN endpoint unless both user name and credential
are given.
-/

namespace RtcConfig

structure IceServer where
  urls : List String
  username : String
  credential : String
  deriving DecidableEq, Repr

namespace IceServer

def hasCredentials (s : IceServer) : Bool := !(s.username.isEmpty || s.credential.isEmpty)

/-- The endpoint of one of the URLs. -/
def endpoint (s : IceServer) (url : String) : Except ConfigError IceEndpoint :=
  match IceEndpoint.ofText url with
  | .error e => .error e
  | .ok e =>
    if e.isTurn && !s.hasCredentials then .error (.turnServerMissingCredentials url) else .ok e

/-- The endpoints of all URLs in order, or the error of the first that has one. -/
def endpoints (s : IceServer) : Except ConfigError (List IceEndpoint) :=
  s.urls.mapM s.endpoint

def ofMembers? (ms : Json.Members) : Option IceServer := do
  let urls ← ms.field "urls" (Json.list? Json.string?) none
  let username ← ms.field "username" Json.string? none
  let credential ← ms.field "credential" Json.string? none
  some ⟨urls, username, credential⟩

def ofItems? (items : List Json) : Option IceServer := do
  let (urls, items) ← Json.next items (Json.list? Json.string?) none
  let (username, items) ← Json.next items Json.string? none
  let (credential, items) ← Json.next items Json.string? none
  Json.done items ⟨urls, username, credential⟩

def ofJson? : Json → Option IceServer := Json.record? ofMembers? ofItems?

def toJson (s : IceServer) : Json := .object [
  ("urls", .array (s.urls.map .string)),
  ("username", .string s.username),
  ("credential", .string s.credential)]

end IceServer

end RtcConfig
