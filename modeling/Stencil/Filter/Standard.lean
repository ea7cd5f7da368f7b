import Stencil.Filter.Arithmetic
import Stencil.Filter.Collection
import Stencil.Filter.Date
import Stencil.Filter.Text

/-!
# The standard filters
-/

namespace Stencil.Filter

/-- The operations that every template can use, by name. -/
def standardOperations : List (String × Operation) := [
  ("abs", abs),
  ("append", append),
  ("capitalize", .ofText Text.capitalize),
  ("ceil", ceil),
  ("compact", .ofItems fun items => .array (items.filter (!·.isNil))),
  ("concat", concat),
  ("date", date),
  ("default", orDefault),
  ("divided_by", dividedBy.operation),
  ("downcase", .ofText Text.lower),
  ("escape", .ofText Text.escape),
  ("escape_once", .ofText Text.escapeOnce),
  ("first", .ofItems (·.head?.getD .nil)),
  ("floor", floor),
  ("join", join),
  ("last", .ofItems (·.getLast?.getD .nil)),
  ("lstrip", .ofText Text.trimStart),
  ("map", map),
  ("minus", minus.operation),
  ("modulo", modulo.operation),
  ("newline_to_br", .ofText breakLines),
  ("plus", plus.operation),
  ("prepend", prepend),
  ("remove", remove),
  ("remove_first", removeFirst),
  ("replace", replace),
  ("replace_first", replaceFirst),
  ("reverse", .ofItems fun items => .array items.reverse),
  ("round", round),
  ("rstrip", .ofText Text.trimEnd),
  ("size", size),
  ("slice", slice),
  ("sort", sort),
  ("sort_natural", sortNatural),
  ("split", split),
  ("strip", .ofText Text.trim),
  ("strip_html", .ofText Text.stripTags),
  ("strip_newlines", .ofText stripNewlines),
  ("times", times.operation),
  ("truncate", truncate),
  ("truncatewords", truncateWords),
  ("uniq", .ofItems fun items => .array (distinct items)),
  ("upcase", .ofText Text.upper),
  ("url_decode", .ofText Text.percentDecode),
  ("url_encode", .ofText Text.percentEncode)]

end Stencil.Filter

namespace Stencil

/-- The filters that every template can use. -/
def FilterTable.standard : FilterTable :=
  Bindings.ofList
    (Filter.standardOperations.map fun (name, operation) => (name, ⟨operation, false⟩))

end Stencil
