import Stencil.Text.Digits

/-!
# Character references

The five characters that mean something between tags are written as references; reading knows
`&amp;`, `&lt;`, `&gt;`, `&quot;` and `&apos;` and the numeric references.
-/

namespace Stencil.Text

/-! ## Writing -/

/-- The reference that stands for a character, or the character itself. -/
def escapeChar (c : Char) : List Char :=
  if c = '&' then "&amp;".toList
  else if c = '<' then "&lt;".toList
  else if c = '>' then "&gt;".toList
  else if c = '"' then "&quot;".toList
  else if c = '\x27' then "&#39;".toList
  else [c]

/-- The text with references for the characters that need them. -/
def escape (cs : List Char) : List Char :=
  cs.flatMap escapeChar

/-! ## Reading -/

/-- The character with a code point, if there is one. -/
def charOfCodePoint? (n : Nat) : Option Char :=
  if n.isValidChar then some (Char.ofNat n) else none

/-- The character that a reference denotes; the name stands between `&` and `;`. -/
def namedChar? (name : List Char) : Option Char :=
  if name = "amp".toList then some '&'
  else if name = "lt".toList then some '<'
  else if name = "gt".toList then some '>'
  else if name = "quot".toList then some '"'
  else if name = "apos".toList then some '\x27'
  else
    match name with
    | '#' :: 'x' :: digits => (natural? 16 digits).bind charOfCodePoint?
    | '#' :: 'X' :: digits => (natural? 16 digits).bind charOfCodePoint?
    | '#' :: digits => (natural? 10 digits).bind charOfCodePoint?
    | _ => none

/-- The longest name of a reference. -/
def maxNameLength : Nat := 9

/-- What a reference denotes and how long its name is, read behind the `&`. -/
def reference? (cs : List Char) : Option (Char × Nat) :=
  let name := (cs.take (maxNameLength + 1)).takeWhile (· ≠ ';')
  if name.length ≤ maxNameLength && (cs.drop name.length).head? == some ';' then
    (namedChar? name).map fun c => (c, name.length)
  else none

/-- Reads the references of a text. The first argument counts the characters that belong to a
reference already read. -/
def unescapeFrom : Nat → List Char → List Char
  | _, [] => []
  | skip + 1, _ :: rest => unescapeFrom skip rest
  | 0, c :: rest =>
    if c = '&' then
      match reference? rest with
      | some (denoted, length) => denoted :: unescapeFrom (length + 1) rest
      | none => c :: unescapeFrom 0 rest
    else c :: unescapeFrom 0 rest

/-- The text with its references replaced by what they denote. -/
def unescape (cs : List Char) : List Char :=
  unescapeFrom 0 cs

/-- Escapes a text in which some characters may have been escaped before. -/
def escapeOnce (cs : List Char) : List Char :=
  escape (unescape cs)

end Stencil.Text
