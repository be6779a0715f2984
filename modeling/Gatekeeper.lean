import Gatekeeper.Main
import Gatekeeper.Proofs.Config.Accepted
import Gatekeeper.Proofs.Proxy.Dispatch
import Gatekeeper.Proofs.Template.Constant
import Gatekeeper.Proofs.Config.TargetAgreement
import Gatekeeper.Proofs.Proxy.Flight
import Gatekeeper.Proofs.Proxy.Check
import Gatekeeper.Proofs.Proxy.Forward
import Gatekeeper.Proofs.Proxy.FailClosed
import Gatekeeper.Proofs.Proxy.ForwardingFields
import Gatekeeper.Proofs.Proxy.World
import Gatekeeper.Proofs.Proxy.Reload
import Gatekeeper.Proofs.Except
import Gatekeeper.Proofs.Text.Bytes
import Gatekeeper.Proofs.Text.Utf8
import Gatekeeper.Proofs.Text.Visible
import Gatekeeper.Proofs.Net.Address
import Gatekeeper.Proofs.Http.Header
import Gatekeeper.Proofs.Text.Pieces
import Gatekeeper.Proofs.Form
import Gatekeeper.Proofs.Uri.Target
import Gatekeeper.Proofs.Uri.Form
import Gatekeeper.Proofs.Uri.PlainHttp
import Gatekeeper.Proofs.Uri.BlankStart
import Gatekeeper.Proofs.Config.ControlUrl
import Gatekeeper.Proofs.Check.Query
import Gatekeeper.Proofs.Dict
import Gatekeeper.Proofs.Text.LowerCase
import Gatekeeper.Proofs.Config.Routing
import Gatekeeper.Proofs.Proxy.Hostname
import Gatekeeper.Proofs.Proxy.Reachable
import Gatekeeper.Proofs.Table.Updates
import Gatekeeper.Proofs.Proxy.Influence
import Gatekeeper.Proofs.Check.Destination
import Gatekeeper.Proofs.Config.Redirect
import Gatekeeper.Proofs.Proxy.Reply
import Gatekeeper.Proofs.Server.Session
import Gatekeeper.Proofs.Template.Segment
import Gatekeeper.Proofs.Template.Scanner
import Gatekeeper.Proofs.Template.Substitution
import Gatekeeper.Proofs.Template.Parts
import Gatekeeper.Proofs.Template.QueryArguments
import Gatekeeper.Proofs.Template.Host
import Gatekeeper.Proofs.Config.RuleSet
import Gatekeeper.Proofs.Config.Report
import Gatekeeper.Proofs.Config.Iteration
import Gatekeeper.Proofs.Redirect.Canonical
import Gatekeeper.Proofs.Proxy.Frame
import Gatekeeper.Proofs.Json.RoundTrip
import Gatekeeper.Proofs.ErrorReply
import Gatekeeper.Proofs.Server.Inspection
