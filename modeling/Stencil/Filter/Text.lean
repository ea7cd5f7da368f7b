import Stencil.Filter.Basic
import Stencil.Text.CaseMapping
import Stencil.Text.Entity
import Stencil.Text.Percent
import Stencil.Text.StripTags

/-!
# Filters on text

These filters work on the text that would be written for their value. Cutting counts characters.
-/

namespace Stencil.Filter

/-! ## Whole texts -/

/-- The texts of the arguments behind the text of the value. -/
def append : Operation :=
  .any fun site v args => .ok (.string (String.ofList (site.text v ++ args.flatMap site.text)))

/-- The text of the argument before the text of the value. -/
def prepend : Operation :=
  .one fun site v a => .ok (.string (String.ofList (site.text a ++ site.text v)))

/-- A text without its line breaks. -/
def stripNewlines (cs : List Char) : List Char :=
  cs.filter fun c => c ≠ '\r' && c ≠ '\n'

/-- A text with a break element before every line feed. -/
def breakLines (cs : List Char) : List Char :=
  Text.replaceAll ['\n'] "<br />\n".toList cs

/-! ## Shortening -/

/-- What stands for the part that was cut off. -/
def ellipsis : List Char := ['…']

/-- A text of at most `limit` characters: one that is longer is cut so that the suffix fits. -/
def truncated (limit : Nat) (suffix cs : List Char) : List Char :=
  if cs.length ≤ limit then cs else cs.take (limit - suffix.length) ++ suffix

/-- A text of at most `limit` words: of one that has more, the first words and the suffix. -/
def truncatedWords (limit : Nat) (suffix cs : List Char) : List Char :=
  if (Text.words cs).length ≤ limit then cs
  else [' '].intercalate ((Text.words cs).take limit) ++ suffix

/-- The suffix that an argument asks for. -/
def suffixOf (site : Site) (suffix : Option Value) : List Char :=
  suffix.elim ellipsis site.text

/-- Cuts a text off at a number of characters. -/
def truncate : Operation :=
  .oneOrTwo fun site v limit suffix =>
    .ok (.string (String.ofList (truncated limit.toCount (suffixOf site suffix) (site.text v))))

/-- Cuts a text off at a number of words, of which one is left at least. -/
def truncateWords : Operation :=
  .oneOrTwo fun site v limit suffix =>
    .ok (.string (String.ofList
      (truncatedWords (max limit.toCount 1) (suffixOf site suffix) (site.text v))))

/-! ## Replacing -/

/-- Replaces every place of a text. -/
def replace : Operation :=
  .two fun site v target replacement =>
    .ok (.string (String.ofList
      (Text.replaceAll (site.text target) (site.text replacement) (site.text v))))

/-- Replaces the first place of a text. -/
def replaceFirst : Operation :=
  .two fun site v target replacement =>
    .ok (.string (String.ofList
      (Text.replaceFirst (site.text target) (site.text replacement) (site.text v))))

/-- Takes out every place of a text. -/
def remove : Operation :=
  .one fun site v target =>
    .ok (.string (String.ofList (Text.replaceAll (site.text target) [] (site.text v))))

/-- Takes out the first place of a text. -/
def removeFirst : Operation :=
  .one fun site v target =>
    .ok (.string (String.ofList (Text.replaceFirst (site.text target) [] (site.text v))))

/-! ## Parts -/

/-- A stretch of a list. A negative offset counts from the end; there is no stretch that starts
outside of the list. -/
def stretch? {α : Type} (offset : Int) (length : Nat) (items : List α) : Option (List α) :=
  let start := if offset < 0 then items.length + offset else offset
  if 0 ≤ start ∧ start ≤ items.length then some ((items.drop start.toNat).take length) else none

/-- A part of an array or of a text; one item if no length is given. -/
def slice : Operation :=
  .oneOrTwo fun site v offset length =>
    let count := length.elim 1 Value.toCount
    .ok <| Option.getD (match v with
      | .array items => (stretch? offset.toInt.toInt count items).map .array
      | v => (stretch? offset.toInt.toInt count (site.text v)).map (.string <| String.ofList ·))
      .nil

/-- The parts of a text between the places of a separator; its characters if that is empty. -/
def parts (separator cs : List Char) : List (List Char) :=
  if separator.isEmpty then cs.map ([·]) else Text.splitOn separator cs

/-- Splits a text. -/
def split : Operation :=
  .one fun site v separator =>
    .ok (.array ((parts (site.text separator) (site.text v)).map (.string <| String.ofList ·)))

end Stencil.Filter
