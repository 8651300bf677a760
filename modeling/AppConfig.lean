import AppConfig.Command.Check
import AppConfig.Command.Help
import AppConfig.Command.Invocation
import AppConfig.Command.Serve
import AppConfig.Command.Start
import AppConfig.Decimal.Binary64
import AppConfig.Decimal.Shortest
import AppConfig.Editor.Completion
import AppConfig.Editor.Diagnostic
import AppConfig.Editor.Documents
import AppConfig.Editor.Encode
import AppConfig.Editor.Hover
import AppConfig.Editor.Position
import AppConfig.Editor.Worker
import AppConfig.Error
import AppConfig.Files
import AppConfig.Finding
import AppConfig.Json.Basic
import AppConfig.Json.Parse
import AppConfig.Json.Print
import AppConfig.Json.Sorted
import AppConfig.Locate
import AppConfig.Log
import AppConfig.Main
import AppConfig.Net.Address
import AppConfig.Net.Endpoint
import AppConfig.Net.Punycode
import AppConfig.Net.Url
import AppConfig.Net.Url.Escape
import AppConfig.Net.Url.Host
import AppConfig.Net.Url.Path
import AppConfig.Power
import AppConfig.Program
import AppConfig.Report
import AppConfig.Rpc.Capability
import AppConfig.Rpc.Connection
import AppConfig.Rpc.Decoder
import AppConfig.Rpc.Header
import AppConfig.Rpc.Message
import AppConfig.Rpc.Method
import AppConfig.Rpc.Server
import AppConfig.Rpc.Shape
import AppConfig.Schema
import AppConfig.Settings.EnvFile
import AppConfig.Settings.Environment
import AppConfig.Settings.Headers
import AppConfig.Settings.LogFilter
import AppConfig.Settings.Server
import AppConfig.Settings.Telemetry
import AppConfig.Text.Digits
import AppConfig.Text.Line
import AppConfig.Text.Quoted
import AppConfig.Text.Split
import AppConfig.Text.Units
import AppConfig.Text.Utf8
import AppConfig.Text.Visible
import AppConfig.Text.White
import AppConfig.Text.Word
import AppConfig.Validate
import AppConfig.Web.Http
import AppConfig.Web.Socket
import AppConfig.Wire.Frame
import AppConfig.Yaml.Cursor
import AppConfig.Yaml.Event
import AppConfig.Yaml.Failure
import AppConfig.Yaml.Fault
import AppConfig.Yaml.Grammar
import AppConfig.Yaml.Lexeme.Block
import AppConfig.Yaml.Lexeme.Directive
import AppConfig.Yaml.Lexeme.Folding
import AppConfig.Yaml.Lexeme.Name
import AppConfig.Yaml.Lexeme.Plain
import AppConfig.Yaml.Lexeme.Quoted
import AppConfig.Yaml.Lexeme.Tag
import AppConfig.Yaml.Lexer
import AppConfig.Yaml.Read
import AppConfig.Yaml.Scalar
import AppConfig.Yaml.Source
import AppConfig.Yaml.Token
import AppConfig.Yaml.Tree
import AppConfig.Yaml.Value
import AppConfig.Yaml.Write
import AppConfig.Proofs.Editor.Forecast
import AppConfig.Proofs.Editor.Convergence
import AppConfig.Proofs.Editor.Snapshot
import AppConfig.Proofs.Editor.Timeline
import AppConfig.Proofs.Editor.Isolation
import AppConfig.Proofs.Editor.Edits
import AppConfig.Proofs.Editor.Debounce
import AppConfig.Proofs.Editor.Quiet
import AppConfig.Proofs.Editor.Delivery
import AppConfig.Proofs.Text.Pieces
import AppConfig.Proofs.Text.Utf8
import AppConfig.Proofs.Wire.Reading
import AppConfig.Proofs.Wire.RoundTrip
import AppConfig.Proofs.Decimal.Sign
import AppConfig.Proofs.Yaml.Content
import AppConfig.Proofs.Validation.Acceptance
import AppConfig.Proofs.Wire.Cut
import AppConfig.Proofs.Web.Bridge
import AppConfig.Proofs.Command.Verdict
import AppConfig.Proofs.Locate.Declaration
import AppConfig.Proofs.Validation.Placement
import AppConfig.Proofs.Editor.Hover
import AppConfig.Proofs.Validation.Footprint
import AppConfig.Proofs.Editor.Latest
import AppConfig.Proofs.Yaml.Keeps
import AppConfig.Proofs.Yaml.Scanning
import AppConfig.Proofs.Yaml.Failing
import AppConfig.Proofs.Yaml.ReadBack
import AppConfig.Proofs.Command.Agreement
import AppConfig.Proofs.Wire.Grammar
import AppConfig.Proofs.Locate.Pattern
import AppConfig.Proofs.Editor.KeyLine
import AppConfig.Proofs.Editor.LineRange
import AppConfig.Proofs.Editor.Endings
import AppConfig.Proofs.Editor.Mark
import AppConfig.Proofs.Json.RoundTrip
import AppConfig.Proofs.Command.Lossless
import AppConfig.Proofs.Command.YamlReport
import AppConfig.Proofs.Editor.Completion
import AppConfig.Proofs.Settings.HeaderList
import AppConfig.Proofs.Wire.Progress
import AppConfig.Proofs.Command.TextReport
