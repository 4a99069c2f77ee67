import SettingsConsole.Catalog
import SettingsConsole.Config.Basic
import SettingsConsole.Config.Files
import SettingsConsole.Config.Resolve
import SettingsConsole.Decimal
import SettingsConsole.Dict
import SettingsConsole.Domain.Excluded
import SettingsConsole.Domain.Label
import SettingsConsole.Domain.Mapping
import SettingsConsole.Domain.Name
import SettingsConsole.Domain.Punycode
import SettingsConsole.Domain.Replacement
import SettingsConsole.Entity.HypervisorCapability
import SettingsConsole.Entity.LdapServer
import SettingsConsole.Entity.Row
import SettingsConsole.Entity.Setting
import SettingsConsole.Json.Basic
import SettingsConsole.Json.Decode
import SettingsConsole.Json.Parser
import SettingsConsole.Json.Printer
import SettingsConsole.Main
import SettingsConsole.Panel.Basic
import SettingsConsole.Panel.Descriptor
import SettingsConsole.Panel.Failure
import SettingsConsole.Panel.Hypervisors
import SettingsConsole.Panel.Input
import SettingsConsole.Panel.Ldap
import SettingsConsole.Panel.Message
import SettingsConsole.Panel.Outcome
import SettingsConsole.Panel.Registry
import SettingsConsole.Panel.Resource
import SettingsConsole.Panel.Settings
import SettingsConsole.Proofs.Config.Layers
import SettingsConsole.Proofs.Entity.Reading
import SettingsConsole.Proofs.Entity.Rows
import SettingsConsole.Proofs.Json.Numeric
import SettingsConsole.Proofs.Json.Order
import SettingsConsole.Proofs.Json.Printer
import SettingsConsole.Proofs.Json.RoundTrip
import SettingsConsole.Proofs.Panel.Acceptance
import SettingsConsole.Proofs.Panel.Calls
import SettingsConsole.Proofs.Panel.Failure
import SettingsConsole.Proofs.Panel.Input
import SettingsConsole.Proofs.Panel.InputGrammar
import SettingsConsole.Proofs.Panel.Registry
import SettingsConsole.Proofs.Remote.Decoding
import SettingsConsole.Proofs.Remote.Masking
import SettingsConsole.Proofs.Remote.Paging
import SettingsConsole.Proofs.Remote.Params
import SettingsConsole.Proofs.Remote.Query
import SettingsConsole.Proofs.Remote.Redaction
import SettingsConsole.Proofs.Remote.Request
import SettingsConsole.Proofs.Remote.Response
import SettingsConsole.Proofs.Server.Answers
import SettingsConsole.Proofs.Server.Calls
import SettingsConsole.Proofs.Server.Directory
import SettingsConsole.Proofs.Server.Editing
import SettingsConsole.Proofs.Server.Lifecycle
import SettingsConsole.Proofs.Server.Listing
import SettingsConsole.Proofs.Server.Lookup
import SettingsConsole.Proofs.Server.Unchanged
import SettingsConsole.Proofs.Service.Agreement
import SettingsConsole.Proofs.Service.Calls
import SettingsConsole.Proofs.Service.Consent
import SettingsConsole.Proofs.Service.Detail
import SettingsConsole.Proofs.Service.Gates
import SettingsConsole.Proofs.Service.Interleaving
import SettingsConsole.Proofs.Service.Rows
import SettingsConsole.Proofs.Service.Run
import SettingsConsole.Proofs.Terminal.Alignment
import SettingsConsole.Proofs.Terminal.Console
import SettingsConsole.Proofs.Terminal.Hidden
import SettingsConsole.Proofs.Terminal.Identifier
import SettingsConsole.Proofs.Terminal.Table
import SettingsConsole.Proofs.Terminal.Values
import SettingsConsole.Proofs.Text.Blank
import SettingsConsole.Proofs.Text.Excerpt
import SettingsConsole.Proofs.Text.Numeral
import SettingsConsole.Proofs.Text.NumeralValue
import SettingsConsole.Proofs.Text.Percent
import SettingsConsole.Proofs.Text.Split
import SettingsConsole.Proofs.Url.Parts
import SettingsConsole.Proofs.Url.WellFormed
import SettingsConsole.Remote.Client
import SettingsConsole.Remote.Endpoint
import SettingsConsole.Remote.Envelope
import SettingsConsole.Remote.Failure
import SettingsConsole.Remote.Operation
import SettingsConsole.Remote.Paging
import SettingsConsole.Remote.Params
import SettingsConsole.Remote.Redaction
import SettingsConsole.Remote.Response
import SettingsConsole.Server
import SettingsConsole.Service.Basic
import SettingsConsole.Service.Navigation
import SettingsConsole.Service.Sequence
import SettingsConsole.Terminal.Arguments
import SettingsConsole.Terminal.Command
import SettingsConsole.Terminal.Confirmation
import SettingsConsole.Terminal.Console
import SettingsConsole.Terminal.Layout
import SettingsConsole.Terminal.Program
import SettingsConsole.Text.Ascii
import SettingsConsole.Text.Blank
import SettingsConsole.Text.Excerpt
import SettingsConsole.Text.Numeral
import SettingsConsole.Text.Percent
import SettingsConsole.Text.Quoted
import SettingsConsole.Text.Split
import SettingsConsole.Text.Unprintable
import SettingsConsole.Toml.Basic
import SettingsConsole.Toml.Parser
import SettingsConsole.Toml.Scalar
import SettingsConsole.Unicode.CodeRange
import SettingsConsole.Unicode.CombiningClass
import SettingsConsole.Unicode.Composite
import SettingsConsole.Unicode.Composition
import SettingsConsole.Unicode.Direction
import SettingsConsole.Unicode.Joining
import SettingsConsole.Unicode.Mark
import SettingsConsole.Url.Basic
import SettingsConsole.Url.Host
import SettingsConsole.Url.Parser
