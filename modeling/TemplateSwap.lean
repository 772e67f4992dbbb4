import TemplateSwap.Application
import TemplateSwap.CommandLine.Cell
import TemplateSwap.CommandLine.Request
import TemplateSwap.CommandLine.Run
import TemplateSwap.CommandLine.Styled
import TemplateSwap.CommandLine.Table
import TemplateSwap.CommandLine.Usage
import TemplateSwap.ConfigError
import TemplateSwap.Configuration
import TemplateSwap.Decimal.Reading
import TemplateSwap.Decimal.Shortest
import TemplateSwap.Descriptor
import TemplateSwap.Environment
import TemplateSwap.Failure
import TemplateSwap.Fragments
import TemplateSwap.Kinds
import TemplateSwap.Location
import TemplateSwap.Markup.Fault
import TemplateSwap.Markup.Lexer
import TemplateSwap.Markup.Meaning
import TemplateSwap.Markup.Node
import TemplateSwap.Markup.Printer
import TemplateSwap.Markup.Scalar
import TemplateSwap.Markup.Tag
import TemplateSwap.Markup.Token
import TemplateSwap.PathFilter.Basic
import TemplateSwap.PathFilter.Glob
import TemplateSwap.Pattern.Accepts
import TemplateSwap.Pattern.Basic
import TemplateSwap.Pattern.Builder
import TemplateSwap.Pattern.CharSet
import TemplateSwap.Pattern.Compile
import TemplateSwap.Pattern.Error
import TemplateSwap.Pattern.Escape
import TemplateSwap.Pattern.Match
import TemplateSwap.Pattern.Source
import TemplateSwap.Replacer.Basic
import TemplateSwap.Replacer.Composite
import TemplateSwap.Spec
import TemplateSwap.Template.Basic
import TemplateSwap.Template.Reader
import TemplateSwap.Text.Alphanumeric
import TemplateSwap.Text.Blank
import TemplateSwap.Text.CellWidth
import TemplateSwap.Text.CharacterName
import TemplateSwap.Text.Codes
import TemplateSwap.Text.Decimal
import TemplateSwap.Text.Encoding
import TemplateSwap.Text.Identifier
import TemplateSwap.Text.Integer
import TemplateSwap.Text.LetterCase
import TemplateSwap.Text.Lines
import TemplateSwap.Text.Printable
import TemplateSwap.Text.Quoted
import TemplateSwap.Text.RangeTable
import TemplateSwap.Text.StrictUtf8
import TemplateSwap.Transformation
import TemplateSwap.Tree.Basic
import TemplateSwap.Tree.Path
import TemplateSwap.Tree.Resolve
import TemplateSwap.Tree.Walk
import TemplateSwap.Value.Basic
import TemplateSwap.Value.Display
import TemplateSwap.Value.Order
import TemplateSwap.Main
import TemplateSwap.Proofs.Matching.Outcomes
import TemplateSwap.Proofs.Matching.Progress
import TemplateSwap.Proofs.Matching.Scan
import TemplateSwap.Proofs.Matching.Renumbering
import TemplateSwap.Proofs.Reading.Extension
import TemplateSwap.Proofs.Reading.Placement
import TemplateSwap.Proofs.Reading.Steps
import TemplateSwap.Proofs.Reading.Simulation
import TemplateSwap.Proofs.Reading.Compiled
import TemplateSwap.Proofs.Composite.Symbols
import TemplateSwap.Proofs.Composite.Weave
import TemplateSwap.Proofs.Composite.Matching
import TemplateSwap.Proofs.Replacement.Captures
import TemplateSwap.Proofs.Replacement.Edits
import TemplateSwap.Proofs.Replacement.Rewriting
import TemplateSwap.Proofs.Replacement.Instances
import TemplateSwap.Proofs.Replacement.Standalone
import TemplateSwap.Proofs.Composite.Names
import TemplateSwap.Proofs.Replacement.Reversal
import TemplateSwap.Proofs.Running.Stopping
import TemplateSwap.Proofs.Running.HalfApplied
import TemplateSwap.Proofs.Replacement.Swapping
import TemplateSwap.Proofs.Replacement.Closed
import TemplateSwap.Proofs.Replacement.Undoing
import TemplateSwap.Proofs.Replacement.Origins
import TemplateSwap.Proofs.Running.Applying
import TemplateSwap.Proofs.Descriptor.Fields
import TemplateSwap.Proofs.Descriptor.Writing
import TemplateSwap.Proofs.Running.Inverse
import TemplateSwap.Proofs.Descriptor.Building
import TemplateSwap.Proofs.Running.Emptying
import TemplateSwap.Proofs.Running.Aborting
import TemplateSwap.Proofs.Tree.Linking
import TemplateSwap.Proofs.Running.Repeating
import TemplateSwap.Proofs.Running.Containing
import TemplateSwap.Proofs.Running.Reporting
import TemplateSwap.Proofs.Running.Retracing
import TemplateSwap.Proofs.Running.Escaping
import TemplateSwap.Proofs.Reading.Lines
import TemplateSwap.Proofs.Matching.OneLine
import TemplateSwap.Proofs.Replacement.Modes
import TemplateSwap.Proofs.Template.Renaming
import TemplateSwap.Proofs.Replacement.Labels
import TemplateSwap.Proofs.Running.Surviving
import TemplateSwap.Proofs.Text.StrictUtf8
import TemplateSwap.Proofs.Markup.Meaning
import TemplateSwap.Proofs.Markup.Parsing
import TemplateSwap.Proofs.Running.Loading
import TemplateSwap.Proofs.Template.Defects
import TemplateSwap.Proofs.Replacement.Validity
import TemplateSwap.Proofs.Text.Substitution
import TemplateSwap.Proofs.Replacement.Literal
import TemplateSwap.Proofs.Running.Visiting
import TemplateSwap.Proofs.Running.Outcome
import TemplateSwap.Proofs.Replacement.Locality
import TemplateSwap.Proofs.Replacement.LineEndings
import TemplateSwap.Proofs.Replacement.FirstMatch
import TemplateSwap.Proofs.Matching.Languages
import TemplateSwap.Proofs.PathFilter.Globs
import TemplateSwap.Proofs.PathFilter.Filters
import TemplateSwap.Proofs.PathFilter.Everything
import TemplateSwap.Proofs.Tree.Ordering
import TemplateSwap.Proofs.Descriptor.Reading
import TemplateSwap.Proofs.Replacement.Reordering
import TemplateSwap.Proofs.PathFilter.Characters
import TemplateSwap.Proofs.Descriptor.Spellings
import TemplateSwap.Proofs.Descriptor.Groups
import TemplateSwap.Proofs.Markup.Saying
import TemplateSwap.Proofs.Running.Placing
import TemplateSwap.Proofs.Running.Composing
import TemplateSwap.Proofs.Composite.Table
