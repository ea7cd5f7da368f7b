import Stencil.Calendar.Reader
import Stencil.Calendar.Text
import Stencil.Filter.Basic

/-!
# Dates as text

Integers and texts of integers are seconds since the beginning of 1970. Other texts are read as
dates, and two words stand for the present moment.
-/

namespace Stencil.Filter

/-- The pattern for dates if none is given. -/
def defaultDatePattern : String := "%-m/%-d/%y, %-I:%M:%S %p"

/-- Whether a text is a word, where the case of letters does not count. -/
def isWord (word : String) (cs : List Char) : Bool :=
  cs.map Char.toLower == word.toList

/-- The instant that a value denotes. -/
def instantOf? (now : Calendar.Instant) : Value → Option Calendar.Instant
  | .int seconds => Calendar.Instant.ofTimestamp? seconds.toInt
  | .string s =>
    let cs := Text.trim s.toList
    match Integer.ofText? cs with
    | some seconds => Calendar.Instant.ofTimestamp? seconds.toInt
    | none =>
      if isWord "now" cs || isWord "today" cs then some now
      else Calendar.Instant.ofText? cs
  | _ => none

/-- The pattern that an argument asks for. -/
def datePatternOf (site : Site) (pattern : Value) : String :=
  let text := if pattern.isNil then "" else pattern.render site.settings
  if text.isEmpty then defaultDatePattern else text

/-- Writes a date by a pattern. -/
def date : Operation :=
  .one fun site v pattern =>
    match instantOf? site.settings.now v with
    | none => .error (.notADate v.text)
    | some instant =>
      let wanted := datePatternOf site pattern
      match Calendar.Pattern.ofText? wanted.toList with
      | none => .error (.dateFormat wanted)
      | some read => .ok (.string (String.ofList (instant.format read)))

end Stencil.Filter
