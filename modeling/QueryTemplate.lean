import QueryTemplate.Text.Basic
import QueryTemplate.Text.CodeRange
import QueryTemplate.Text.Blank
import QueryTemplate.Text.Extending
import QueryTemplate.Text.Ignorable
import QueryTemplate.Text.Invisible
import QueryTemplate.Text.Numeral
import QueryTemplate.Text.Quoted
import QueryTemplate.Text.Escape
import QueryTemplate.Decimal.Binary64
import QueryTemplate.Decimal.Shortest
import QueryTemplate.Calendar.Date
import QueryTemplate.Value.Basic
import QueryTemplate.Document.Basic
import QueryTemplate.Document.Merge
import QueryTemplate.Template.SyntaxError
import QueryTemplate.Template.Token
import QueryTemplate.Template.Basic
import QueryTemplate.Template.Nesting
import QueryTemplate.Bind.EvaluationError
import QueryTemplate.Bind.Registry
import QueryTemplate.Template.Render
import QueryTemplate.Path.Basic
import QueryTemplate.Path.Parse
import QueryTemplate.Path.Select
import QueryTemplate.Path.Bind
import QueryTemplate.Json.Number
import QueryTemplate.Json.Lexeme
import QueryTemplate.Json.Reader
import QueryTemplate.Json.Writer
import QueryTemplate.Settings.Basic
import QueryTemplate.Settings.Decode
import QueryTemplate.Settings.Environment
import QueryTemplate.Toml.Moment
import QueryTemplate.Toml.Value
import QueryTemplate.Toml.Table
import QueryTemplate.Toml.Strings
import QueryTemplate.Toml.Scalar
import QueryTemplate.Toml.Reader
import QueryTemplate.Settings.Load
import QueryTemplate.Engine.Cache
import QueryTemplate.Engine.Statement
import QueryTemplate.Engine.Basic
import QueryTemplate.Engine.Session
import QueryTemplate.Proofs.TagForm
import QueryTemplate.Proofs.TokenGrammar
import QueryTemplate.Proofs.Flattening
import QueryTemplate.Proofs.PositionScan
import QueryTemplate.Proofs.RoundTrip
import QueryTemplate.Proofs.Resolution
import QueryTemplate.Proofs.ClosedLookup
import QueryTemplate.Proofs.Evaluation
import QueryTemplate.Proofs.Quotes
import QueryTemplate.Proofs.Escaping
import QueryTemplate.Proofs.FlatReading
import QueryTemplate.Proofs.PathGrammar
import QueryTemplate.Proofs.SinglePass
import QueryTemplate.Proofs.Addresses
import QueryTemplate.Proofs.Selection
import QueryTemplate.Proofs.Retention
import QueryTemplate.Proofs.FreshReading
import QueryTemplate.Proofs.Blame
import QueryTemplate.Proofs.Rounding
import QueryTemplate.Proofs.WholeNumbers
import QueryTemplate.Proofs.PathUnion
import QueryTemplate.Proofs.PathComposition
import QueryTemplate.Proofs.BlamedSteps
import QueryTemplate.Proofs.InsertedBlanks
import QueryTemplate.Proofs.BlockMatching
import QueryTemplate.Proofs.ReadTables
import QueryTemplate.Proofs.Merging
import QueryTemplate.Proofs.RecordFields
import QueryTemplate.Proofs.Decoding
import QueryTemplate.Proofs.Precedence
import QueryTemplate.Proofs.SourceParts
import QueryTemplate.Proofs.BlamedTags
import QueryTemplate.Proofs.Repair
import QueryTemplate.Proofs.RenderingParts
import QueryTemplate.Proofs.Stopping
import QueryTemplate.Proofs.Joining
import QueryTemplate.Proofs.Questions
import QueryTemplate.Proofs.CountedQuestions
import QueryTemplate.Proofs.BlockLaws
import QueryTemplate.Proofs.TagNames
import QueryTemplate.Proofs.BareValues
import QueryTemplate.Proofs.NumberOrder
import QueryTemplate.Proofs.NearestNumbers
import QueryTemplate.Proofs.WrittenNumbers
import QueryTemplate.Proofs.Leaves
import QueryTemplate.Proofs.Shapes
import QueryTemplate.Proofs.StoredSettings
import QueryTemplate.Proofs.Untagged
import QueryTemplate.Proofs.RegistrationOrder
