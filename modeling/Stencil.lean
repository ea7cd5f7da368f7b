import Stencil.Binary.Nearest
import Stencil.Host.Record
import Stencil.Template
import Stencil.Proofs.Sequencing
import Stencil.Proofs.Template.Built
import Stencil.Proofs.Render.Reading
import Stencil.Proofs.Render.Related
import Stencil.Proofs.Render.Kept
import Stencil.Proofs.Render.Visiting
import Stencil.Proofs.Render.Frame
import Stencil.Proofs.Render.Structured
import Stencil.Proofs.Render.Caching
import Stencil.Proofs.Render.Nesting
import Stencil.Proofs.Render.Dependence
import Stencil.Proofs.Template.Spans
import Stencil.Proofs.Render.Containment
import Stencil.Proofs.Render.Counting
import Stencil.Proofs.Render.Failing
import Stencil.Proofs.Template.Outline
import Stencil.Proofs.Template.WellNested
import Stencil.Proofs.Text.Numerals
import Stencil.Proofs.Markup.Lexing
import Stencil.Proofs.Markup.Printing
import Stencil.Proofs.Markup.RoundTrip
import Stencil.Proofs.Decimal.Order
import Stencil.Proofs.Markup.Conditions
import Stencil.Proofs.Render.Windows
import Stencil.Proofs.Host.Conversions
import Stencil.Proofs.Render.Sparing
import Stencil.Proofs.Render.Moments
import Stencil.Proofs.Render.LoopObjects
import Stencil.Proofs.Render.EnclosingLoops
import Stencil.Proofs.Render.Adequacy
import Stencil.Proofs.Render.Output
import Stencil.Proofs.Render.Choices
import Stencil.Proofs.Markup.Lists
import Stencil.Proofs.Render.Rotations
import Stencil.Proofs.Render.Endings
import Stencil.Proofs.Render.Rounds
import Stencil.Proofs.Render.Locals
import Stencil.Proofs.Render.Brackets
import Stencil.Proofs.Render.Captures
import Stencil.Proofs.Template.Comments
import Stencil.Proofs.Markup.Spacing
import Stencil.Proofs.Filter.Sorting
import Stencil.Proofs.Decimal.Integral
import Stencil.Proofs.Value.Integral
import Stencil.Proofs.Filter.Arithmetic
import Stencil.Proofs.Host.Integers
import Stencil.Proofs.Text.Bytes
import Stencil.Proofs.Filter.Guarded
import Stencil.Proofs.Filter.Refusals
import Stencil.Proofs.Storage.Paths
import Stencil.Proofs.Storage.Loading
import Stencil.Proofs.Text.Escaped
import Stencil.Proofs.Text.References
import Stencil.Proofs.Text.Pieces
import Stencil.Proofs.Text.PercentCoding
import Stencil.Proofs.Filter.Calls
import Stencil.Proofs.Filter.Escaping
import Stencil.Proofs.Text.Places
import Stencil.Proofs.Text.Tags
import Stencil.Proofs.Filter.Cutting
import Stencil.Proofs.Text.SnakeCase
import Stencil.Proofs.Decimal.Nearest
import Stencil.Proofs.Decimal.Writing
import Stencil.Proofs.Settings
import Stencil.Proofs.Bindings
import Stencil.Proofs.Filter.Slicing
import Stencil.Proofs.Host.MapCalls
import Stencil.Proofs.Value.Equality
import Stencil.Proofs.Markup.Comparisons
import Stencil.Proofs.Calendar.Dates
import Stencil.Proofs.Calendar.Instants
import Stencil.Proofs.Calendar.Spellings
import Stencil.Proofs.Filter.Dates
import Stencil.Proofs.Filter.Shortening
import Stencil.Proofs.Markup.Calls
import Stencil.Proofs.Render.Numerals
