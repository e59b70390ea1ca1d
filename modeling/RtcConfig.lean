import RtcConfig.Address.Basic
import RtcConfig.Address.Network
import RtcConfig.Address.Reader
import RtcConfig.Address.Writer
import RtcConfig.Buffer.Pool
import RtcConfig.Buffer.Sizing
import RtcConfig.Capability.Basic
import RtcConfig.Capability.Session
import RtcConfig.Double
import RtcConfig.Duration
import RtcConfig.Engine.Basic
import RtcConfig.Engine.Desk
import RtcConfig.Engine.Mode
import RtcConfig.Engine.NetworkType
import RtcConfig.Engine.Outline
import RtcConfig.Error
import RtcConfig.Filter
import RtcConfig.Ice.Endpoint
import RtcConfig.Ice.Server
import RtcConfig.Json.Basic
import RtcConfig.Json.Decode
import RtcConfig.Json.Reader
import RtcConfig.Json.Writer
import RtcConfig.Log
import RtcConfig.Media.Feedback
import RtcConfig.Media.HeaderExtension
import RtcConfig.Media.Kind
import RtcConfig.Profile.Basic
import RtcConfig.Profile.Direction
import RtcConfig.Profile.Negotiation
import RtcConfig.Profile.Strategy
import RtcConfig.Proofs.Address.Reader
import RtcConfig.Proofs.Alike
import RtcConfig.Proofs.Capability.Assembly
import RtcConfig.Proofs.Capability.Fleet
import RtcConfig.Proofs.Capability.Lineage
import RtcConfig.Proofs.Capability.Secrets
import RtcConfig.Proofs.Capability.Session
import RtcConfig.Proofs.Ice.Endpoint
import RtcConfig.Proofs.Ice.Grammar
import RtcConfig.Proofs.Ice.RoundTrip
import RtcConfig.Proofs.Json.Held
import RtcConfig.Proofs.Json.Number
import RtcConfig.Proofs.Json.RoundTrip
import RtcConfig.Proofs.Json.String
import RtcConfig.Proofs.Profile.Selection
import RtcConfig.Proofs.Profile.WellFormed
import RtcConfig.Proofs.Report
import RtcConfig.Proofs.Settings.Flatten
import RtcConfig.Proofs.Settings.RoundTrip
import RtcConfig.Proofs.Settings.UdpPlace
import RtcConfig.Proofs.Text.Classes
import RtcConfig.Proofs.Text.Digits
import RtcConfig.Proofs.Text.Lowercase
import RtcConfig.Proofs.Text.Split
import RtcConfig.Proofs.Transport.Faults
import RtcConfig.Proofs.Transport.PortState
import RtcConfig.Proofs.Transport.Servers
import RtcConfig.Proofs.Transport.StunEntry
import RtcConfig.Proofs.Transport.StunUrl
import RtcConfig.Proofs.Transport.TurnEndpoint
import RtcConfig.Proofs.Transport.TurnUrl
import RtcConfig.Proofs.Url.Authority
import RtcConfig.Proofs.Url.Path
import RtcConfig.Proofs.Url.Reader
import RtcConfig.Proofs.Url.RegName
import RtcConfig.Settings.Basic
import RtcConfig.Settings.Reader
import RtcConfig.Settings.Writer
import RtcConfig.Text.Cased
import RtcConfig.Text.Digits
import RtcConfig.Text.Lowercase
import RtcConfig.Text.Outline
import RtcConfig.Text.Quoted
import RtcConfig.Text.Unprintable
import RtcConfig.Transport.Basic
import RtcConfig.Transport.IceServers
import RtcConfig.Url.Authority
import RtcConfig.Url.Basic
import RtcConfig.Url.Host
import RtcConfig.Url.Path
import RtcConfig.Url.Percent
import RtcConfig.Url.Query
import RtcConfig.Url.Reader
import RtcConfig.Proofs.Address.Bits
import RtcConfig.Proofs.Address.Notation
import RtcConfig.Proofs.Transport.Ports
import RtcConfig.Proofs.Address.Entry
import RtcConfig.Proofs.Transport.IpFilter
import RtcConfig.Proofs.Ice.WellFormed
import RtcConfig.Proofs.Address.RoundTrip
import RtcConfig.Proofs.Transport.NodeAddress
import RtcConfig.Proofs.Media.Vocabulary
import RtcConfig.Proofs.Profile.Negotiation
import RtcConfig.Proofs.Profile.Agreement
import RtcConfig.Proofs.Capability.Rejection
import RtcConfig.Proofs.Engine.Setters
import RtcConfig.Proofs.Settings.Fields
import RtcConfig.Proofs.Settings.Restated
import RtcConfig.Proofs.Settings.PortRange
import RtcConfig.Proofs.Ice.Server
import RtcConfig.Proofs.Names
import RtcConfig.Proofs.Media.Attribute
import RtcConfig.Proofs.Settings.Positional
import RtcConfig.Proofs.Settings.Within
