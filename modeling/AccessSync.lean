import AccessSync.Config.Draft
import AccessSync.Config.Reader
import AccessSync.Connector
import AccessSync.Peer
import AccessSync.Proofs.Program.Trace
import AccessSync.Proofs.Text.Cutting
import AccessSync.Proofs.Text.Encoding
import AccessSync.Proofs.Text.Unescaping
import AccessSync.Proofs.Transport.Exchange
import AccessSync.Proofs.RuleSet.Calls
import AccessSync.Proofs.Client.Calls
import AccessSync.Proofs.RuleSet.Session
import AccessSync.Proofs.Principal.Name
import AccessSync.Proofs.Rule.RoleMatch
import AccessSync.Proofs.Rule.Edit
import AccessSync.Proofs.Rule.Grant
import AccessSync.Proofs.Rule.Meaning
import AccessSync.Proofs.RuleSet.Revocation
import AccessSync.Proofs.RuleSet.Granting
import AccessSync.Proofs.Program.Interleaving
import AccessSync.Proofs.RuleSet.Keeper
import AccessSync.Proofs.RuleSet.Sharing
import AccessSync.Proofs.RuleSet.Serialization
import AccessSync.Proofs.Rule.Refinement
import AccessSync.Proofs.RuleSet.Frame
import AccessSync.Proofs.Program.Running
import AccessSync.Proofs.Client.Lookup
import AccessSync.Proofs.Resource.GroupPath
import AccessSync.Proofs.Sync.Holders
import AccessSync.Proofs.RuleSet.Serving
import AccessSync.Proofs.Sync.Keeping
import AccessSync.Proofs.Sync.Visibility
import AccessSync.Proofs.Text.Integer
import AccessSync.Proofs.Json.Tokens
import AccessSync.Proofs.Json.Rereading
import AccessSync.Proofs.Page.Stack
import AccessSync.Proofs.Page.Window
import AccessSync.Proofs.Sync.Paging
import AccessSync.Proofs.Sync.Enumeration
import AccessSync.Proofs.Sync.RoleWalk
import AccessSync.Proofs.Principal.Record
import AccessSync.Proofs.Principal.Attributes
import AccessSync.Proofs.Client.Replacement
import AccessSync.Proofs.Sync.Replacement
import AccessSync.Proofs.Client.Makeup
import AccessSync.Proofs.Sync.Operations
import AccessSync.Proofs.Client.Writing
import AccessSync.Proofs.Sync.Atomicity
import AccessSync.Proofs.Transport.Failure
import AccessSync.Proofs.Sync.Failure
import AccessSync.Proofs.Sync.Runs
import AccessSync.Proofs.Sync.Members
import AccessSync.Proofs.Sync.Transparency
import AccessSync.Proofs.Program.Course
import AccessSync.Proofs.Sync.Provisioning
import AccessSync.Proofs.Connector.Tasks
import AccessSync.Proofs.Transport.Calendar
import AccessSync.Proofs.Connector.Conclusion
import AccessSync.Proofs.Client.Scoping
import AccessSync.Proofs.Connector.Confinement
import AccessSync.Proofs.Connector.Signing
import AccessSync.Proofs.Connector.Availability
import AccessSync.Proofs.Url.Reading
import AccessSync.Proofs.Url.Leading
import AccessSync.Proofs.Url.Segment
import AccessSync.Proofs.Transport.Naming
import AccessSync.Proofs.Client.Addressing
import AccessSync.Proofs.Client.Wire
import AccessSync.Proofs.Transport.Reuse
import AccessSync.Proofs.Page.Sequence
import AccessSync.Proofs.Connector.Probing
import AccessSync.Proofs.Sync.RolePermission
import AccessSync.Proofs.Sync.Withdrawal
import AccessSync.Proofs.Text.Tables
import AccessSync.Proofs.Text.Composing
import AccessSync.Proofs.Url.Lettering
import AccessSync.Proofs.Url.Written
import AccessSync.Proofs.Url.Hosting
import AccessSync.Proofs.Client.Hostname
import AccessSync.Proofs.Sync.GroupScope
import AccessSync.Proofs.Sync.Drift
import AccessSync.Proofs.Sync.Creation
import AccessSync.Proofs.Resource.Keys
import AccessSync.Proofs.Sync.RuleEdits
import AccessSync.Proofs.Principal.Grammar
