import HandlerChain.Action.Builder
import HandlerChain.Action.Definition
import HandlerChain.Action.Meaning
import HandlerChain.Action.Plan
import HandlerChain.Action.Validation
import HandlerChain.Action.WellFormed
import HandlerChain.CommandLine.Address
import HandlerChain.CommandLine.Arguments
import HandlerChain.CommandLine.Program
import HandlerChain.Decimal.Binary
import HandlerChain.Decimal.Shortest
import HandlerChain.Decode.FromValue
import HandlerChain.Decode.Mismatch
import HandlerChain.Handler.Binding
import HandlerChain.Handler.Logic
import HandlerChain.Http.Message
import HandlerChain.Http.Percent
import HandlerChain.Json.Access
import HandlerChain.Json.Basic
import HandlerChain.Json.Cursor
import HandlerChain.Json.Reader
import HandlerChain.Json.Token
import HandlerChain.Logging.Filter
import HandlerChain.Logging.Level
import HandlerChain.Logging.Router
import HandlerChain.Logging.Section
import HandlerChain.Main
import HandlerChain.Notes.Actions
import HandlerChain.Notes.Desk
import HandlerChain.Notes.Store
import HandlerChain.Proofs.Acceptance
import HandlerChain.Proofs.Batches
import HandlerChain.Proofs.Captures
import HandlerChain.Proofs.Compilation
import HandlerChain.Proofs.Conflicts
import HandlerChain.Proofs.Defaults
import HandlerChain.Proofs.DocumentPaths
import HandlerChain.Proofs.DocumentedParameters
import HandlerChain.Proofs.Documents
import HandlerChain.Proofs.Encoding
import HandlerChain.Proofs.Entries
import HandlerChain.Proofs.Environment
import HandlerChain.Proofs.FileLimits
import HandlerChain.Proofs.FileRouting
import HandlerChain.Proofs.GeneratedIds
import HandlerChain.Proofs.Immediate
import HandlerChain.Proofs.Inputs
import HandlerChain.Proofs.Interleaving
import HandlerChain.Proofs.LetterCase
import HandlerChain.Proofs.ListingOrder
import HandlerChain.Proofs.Matching
import HandlerChain.Proofs.MediaTypes
import HandlerChain.Proofs.Mismatches
import HandlerChain.Proofs.ModuleFiles
import HandlerChain.Proofs.Normalization
import HandlerChain.Proofs.NoteRequests
import HandlerChain.Proofs.Overlay
import HandlerChain.Proofs.Overrides
import HandlerChain.Proofs.Placeholders
import HandlerChain.Proofs.Plan
import HandlerChain.Proofs.PlanOrder
import HandlerChain.Proofs.ProblemDocuments
import HandlerChain.Proofs.Registration
import HandlerChain.Proofs.Registry
import HandlerChain.Proofs.Requiredness
import HandlerChain.Proofs.Results
import HandlerChain.Proofs.RouteValues
import HandlerChain.Proofs.Router
import HandlerChain.Proofs.RouterTable
import HandlerChain.Proofs.Serving
import HandlerChain.Proofs.Shapes
import HandlerChain.Proofs.SharedSlots
import HandlerChain.Proofs.SideEffects
import HandlerChain.Proofs.Soundness
import HandlerChain.Proofs.Spelling
import HandlerChain.Proofs.Stages
import HandlerChain.Proofs.Synthesis
import HandlerChain.Proofs.Threading
import HandlerChain.Proofs.Twins
import HandlerChain.Proofs.Validation
import HandlerChain.Proofs.Verdicts
import HandlerChain.Report.Run
import HandlerChain.Report.Site
import HandlerChain.Route.Table
import HandlerChain.Route.Template
import HandlerChain.Samples.Bench
import HandlerChain.Samples.FileTree
import HandlerChain.Samples.Handlers
import HandlerChain.Samples.Script
import HandlerChain.Samples.Surroundings
import HandlerChain.Settings.Actions
import HandlerChain.Settings.Config
import HandlerChain.Settings.FromYaml
import HandlerChain.Settings.Load
import HandlerChain.Settings.Setting
import HandlerChain.Settings.Variable
import HandlerChain.Site.Basic
import HandlerChain.Site.Document
import HandlerChain.Site.Inputs
import HandlerChain.Site.Operation
import HandlerChain.Site.Problem
import HandlerChain.Site.Response
import HandlerChain.Site.Router
import HandlerChain.Text.CharClass
import HandlerChain.Text.LowerCase
import HandlerChain.Text.Quoted
import HandlerChain.Text.Utf8
import HandlerChain.Unit.Compiler
import HandlerChain.Unit.Dispatch
import HandlerChain.Unit.Floor
import HandlerChain.Unit.Registry
import HandlerChain.Unit.Synthesis
import HandlerChain.Unit.View
import HandlerChain.Value.Dyn
import HandlerChain.Value.FromForm
import HandlerChain.Value.FromJson
import HandlerChain.Value.FromText
import HandlerChain.Value.IntKind
import HandlerChain.Value.Ty
import HandlerChain.Value.Uuid
import HandlerChain.Yaml.Atom
import HandlerChain.Yaml.Cursor
import HandlerChain.Yaml.Event
import HandlerChain.Yaml.Fault
import HandlerChain.Yaml.Layout
import HandlerChain.Yaml.Node
import HandlerChain.Yaml.Printer
import HandlerChain.Yaml.ReadError
import HandlerChain.Yaml.Scalar
import HandlerChain.Yaml.Tag
import HandlerChain.Yaml.Token
import HandlerChain.Yaml.Value
