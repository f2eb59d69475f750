import EventSieve.Coercion.Basic
import EventSieve.Coercion.Numeral
import EventSieve.Command.Arguments
import EventSieve.Command.Run
import EventSieve.Comparator
import EventSieve.Config.Basic
import EventSieve.Config.Decode
import EventSieve.Event.Aspect
import EventSieve.Event.Basic
import EventSieve.Filter.Basic
import EventSieve.Filter.Compile
import EventSieve.Filter.Error
import EventSieve.Filter.Grammar
import EventSieve.Filter.Json
import EventSieve.Filter.Phrase
import EventSieve.Filter.Render
import EventSieve.Filter.Token
import EventSieve.Instant.Calendar
import EventSieve.Instant.Fields
import EventSieve.Instant.Rfc3339
import EventSieve.Instant.Template
import EventSieve.Json.Basic
import EventSieve.Json.Lenient
import EventSieve.Json.Numeral
import EventSieve.Json.Strict
import EventSieve.Main
import EventSieve.Number.Basic
import EventSieve.Number.Binary64
import EventSieve.Number.Digits
import EventSieve.Number.Layout
import EventSieve.Number.Read
import EventSieve.Number.Shortest
import EventSieve.Operator
import EventSieve.Pattern.Basic
import EventSieve.Pattern.Bracket
import EventSieve.Pattern.Class
import EventSieve.Pattern.Escape
import EventSieve.Pattern.Expression
import EventSieve.Pattern.Footprint
import EventSieve.Pattern.Group
import EventSieve.Pattern.Plan
import EventSieve.Pattern.Reader
import EventSieve.Pattern.Regex
import EventSieve.Pattern.Spelling
import EventSieve.Predicate
import EventSieve.Proofs.Branches
import EventSieve.Record
import EventSieve.RecordFile
import EventSieve.Report.Explain
import EventSieve.Report.Table
import EventSieve.Text.Age
import EventSieve.Text.Blank
import EventSieve.Text.Break
import EventSieve.Text.CaseFold
import EventSieve.Text.Category
import EventSieve.Text.CharWidth
import EventSieve.Text.CodeSet
import EventSieve.Text.Letter
import EventSieve.Text.Lowercase
import EventSieve.Text.Property
import EventSieve.Text.Script
import EventSieve.Text.Width
import EventSieve.Toml.Basic
import EventSieve.Toml.Reader
import EventSieve.Toml.Scalar
import EventSieve.Tree.Assemble
import EventSieve.Tree.Basic
import EventSieve.Tree.Branch
import EventSieve.Tree.Edit
import EventSieve.Tree.Generate
import EventSieve.Tree.Node
import EventSieve.Tree.Outline
import EventSieve.Value
import EventSieve.Proofs.Growth
import EventSieve.Proofs.Generation
import EventSieve.Proofs.Anything
import EventSieve.Proofs.Agreement
import EventSieve.Proofs.Meaning
import EventSieve.Proofs.Grammar
import EventSieve.Proofs.Lexing
import EventSieve.Proofs.Writing
import EventSieve.Proofs.Rereading
import EventSieve.Proofs.AnyField
import EventSieve.Proofs.Recognition
import EventSieve.Proofs.Calls
import EventSieve.Proofs.Turnover
import EventSieve.Proofs.Removal
import EventSieve.Proofs.Staleness
import EventSieve.Proofs.Copies
import EventSieve.Proofs.Soundness
import EventSieve.Proofs.Consistency
import EventSieve.Proofs.Placement
import EventSieve.Proofs.Assembly
import EventSieve.Proofs.Quoting
import EventSieve.Proofs.Numerals
import EventSieve.Proofs.RecordLines
import EventSieve.Proofs.OwnNumber
import EventSieve.Proofs.Integers
import EventSieve.Proofs.Order
import EventSieve.Proofs.Locality
import EventSieve.Proofs.Effects
import EventSieve.Proofs.Moves
import EventSieve.Proofs.Rounding
import EventSieve.Proofs.ShortestDigits
import EventSieve.Proofs.Decimals
import EventSieve.Proofs.PlainTexts
import EventSieve.Proofs.Calendar
import EventSieve.Proofs.Timestamps
import EventSieve.Proofs.Trichotomy
import EventSieve.Proofs.Compiling
import EventSieve.Proofs.Scaling
import EventSieve.Proofs.CodePoints
import EventSieve.Proofs.Spellings
import EventSieve.Proofs.IgnoringCase
import EventSieve.Proofs.DecimalRounding
import EventSieve.Proofs.UnitNumerals
import EventSieve.Proofs.ExactNumerals
import EventSieve.Proofs.AllOrNothing
import EventSieve.Proofs.Segments
import EventSieve.Proofs.Flattening
import EventSieve.Proofs.Headers
import EventSieve.Proofs.EntrySets
import EventSieve.Proofs.LineByLine
import EventSieve.Proofs.HeaderInstants
import EventSieve.Proofs.InstantOrder
import EventSieve.Proofs.LeafChanges
import EventSieve.Coercion.Machine
import EventSieve.Proofs.MachineReading
import EventSieve.Proofs.SpacedNames
import EventSieve.Proofs.HalfwayEdits
import EventSieve.Proofs.QuotedOperands
import EventSieve.Proofs.Renderings
import EventSieve.Proofs.Walks
import EventSieve.Proofs.GeneratedShapes
import EventSieve.Proofs.Registrations
import EventSieve.Proofs.ArenaRuns
import EventSieve.Proofs.Links
