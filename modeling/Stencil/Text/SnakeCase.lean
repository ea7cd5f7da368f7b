import Stencil.Text.Alphanumeric
import Stencil.Text.CaseMapping

/-!
# Snake case

`myURLProperty` becomes `my_url_property`: words are in lower case and divided by single
underscores. A run of capitals is one word, except that its last capital begins the next word when
a lower case character follows.
-/

namespace Stencil.Text

/-- Where a text stands that is being rewritten. -/
structure SnakeState where
  /-- The last character written, if any. -/
  last : Option Char := none
  /-- Whether the last character read was a lower case character or a number. -/
  low : Bool := false

/-- Spells the rest of a text, of which `s` says what came before. -/
def snakeFrom (s : SnakeState) : List Char → List Char
  | [] => []
  | c :: rest =>
    if c = '_' then
      let written := if s.last = some '_' then [] else ['_']
      written ++ snakeFrom { last := some '_', low := false } rest
    else if isUppercase c then
      let nextIsLow := rest.head?.any isLowercase
      let divider :=
        if s.last.isSome && (s.low || nextIsLow) && s.last ≠ some '_' then ['_'] else []
      let written := lowerChar c
      divider ++ written ++ snakeFrom { last := written.getLast?, low := false } rest
    else
      c :: snakeFrom { last := some c, low := isLowercase c || isNumeric c } rest

/-- A text in snake case. -/
def snakeCase (cs : List Char) : List Char :=
  snakeFrom {} cs

end Stencil.Text
