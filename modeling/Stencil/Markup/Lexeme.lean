import Stencil.Error
import Stencil.Text.Alphanumeric
import Stencil.Text.Blank

/-!
# Lexemes

The markup of a tag or an output is split into lexemes. White space divides them and is dropped.

* `Lexeme.next?` — the lexeme at the beginning of a text
* `lex` — all lexemes of a text
-/

namespace Stencil.Markup

/-! ## Kinds -/

/-- The kinds of lexemes. The end of the markup counts as one where a reader asks what comes. -/
inductive Kind where
  | pipe
  | dot
  | dotDot
  | colon
  | comma
  | openSquare
  | closeSquare
  | openRound
  | closeRound
  | question
  | dash
  | equal
  | comparison
  | string
  | integer
  | decimal
  | identifier
  | finish
  deriving DecidableEq, Repr

/-- What a kind is called in messages. -/
def Kind.title : Kind → String
  | .pipe => "'|'"
  | .dot => "'.'"
  | .dotDot => "'..'"
  | .colon => "':'"
  | .comma => "','"
  | .openSquare => "'['"
  | .closeSquare => "']'"
  | .openRound => "'('"
  | .closeRound => "')'"
  | .question => "'?'"
  | .dash => "'-'"
  | .equal => "'='"
  | .comparison => "comparison"
  | .string => "string"
  | .integer => "integer"
  | .decimal => "decimal"
  | .identifier => "identifier"
  | .finish => "end of markup"

/-- A lexeme. A string has its text without the quotes. -/
structure Lexeme where
  kind : Kind
  text : List Char
  deriving DecidableEq, Repr

/-! ## The parts of lexemes -/

/-- Whether an identifier can start with a character. -/
def startsIdentifier (c : Char) : Bool :=
  c.isAlpha || c == '_'

/-- Whether an identifier goes on with a character. -/
def continuesIdentifier (c : Char) : Bool :=
  Text.isAlphanumeric c || c == '_' || c == '-'

/-- The characters of an identifier at the beginning of a text; it may end in a question mark. -/
def identifierAt (cs : List Char) : List Char :=
  let word := cs.takeWhile continuesIdentifier
  match cs.drop word.length with
  | '?' :: _ => word ++ ['?']
  | _ => word

/-- The symbols of comparisons; one that starts like another comes first. -/
def comparisonSymbols : List String :=
  ["==", "!=", "<>", "<=", ">=", "<", ">"]

/-- The comparison at the beginning of a text. The word `contains` is one only where white space
follows it. -/
def comparisonAt? (cs : List Char) : Option (List Char) :=
  match comparisonSymbols.find? (·.toList.isPrefixOf cs) with
  | some symbol => some symbol.toList
  | none =>
    match "contains".toList.isPrefixOf? cs with
    | some (c :: _) => if Text.isBlank c then some "contains".toList else none
    | _ => none

/-- The number at the beginning of a text: digits behind an optional hyphen, and a fraction unless
a point follows it, which would be the start of a range. -/
def numberAt? (cs : List Char) : Option Lexeme :=
  let sign := match cs with
    | '-' :: _ => ['-']
    | _ => []
  let whole := (cs.drop sign.length).takeWhile Char.isDigit
  if whole.isEmpty then none
  else
    let integer := sign ++ whole
    match cs.drop integer.length with
    | '.' :: rest =>
      let fraction := rest.takeWhile Char.isDigit
      if fraction.isEmpty || (rest.drop fraction.length).head? == some '.' then
        some ⟨.integer, integer⟩
      else some ⟨.decimal, integer ++ '.' :: fraction⟩
    | _ => some ⟨.integer, integer⟩

/-- The kind of a character that is a lexeme by itself. -/
def signKind? : Char → Option Kind
  | '|' => some .pipe
  | '.' => some .dot
  | ':' => some .colon
  | ',' => some .comma
  | '[' => some .openSquare
  | ']' => some .closeSquare
  | '(' => some .openRound
  | ')' => some .closeRound
  | '?' => some .question
  | '-' => some .dash
  | '=' => some .equal
  | _ => none

/-! ## Lexemes -/

/-- The lexeme at the beginning of a text that starts with `c`, and how many characters beyond `c`
it takes. -/
def lexemeAt (c : Char) (rest : List Char) : Except SyntaxError (Lexeme × Nat) :=
  let cs := c :: rest
  match comparisonAt? cs with
  | some symbol => .ok (⟨.comparison, symbol⟩, symbol.length - 1)
  | none =>
    if c = '\x27' || c = '"' then
      let content := rest.takeWhile (· ≠ c)
      if content.length < rest.length then .ok (⟨.string, content⟩, content.length + 1)
      else .error (.unexpectedCharacter c)
    else
      match numberAt? cs with
      | some number => .ok (number, number.text.length - 1)
      | none =>
        if startsIdentifier c then
          let identifier := identifierAt cs
          .ok (⟨.identifier, identifier⟩, identifier.length - 1)
        else if c = '.' && rest.head? == some '.' then .ok (⟨.dotDot, ['.', '.']⟩, 1)
        else
          match signKind? c with
          | some kind => .ok (⟨kind, [c]⟩, 0)
          | none => .error (.unexpectedCharacter c)

/-- Reads the lexemes of a text. The first argument counts the characters that belong to a lexeme
already read. -/
def lexFrom : Nat → List Char → Except SyntaxError (List Lexeme)
  | _, [] => .ok []
  | skip + 1, _ :: rest => lexFrom skip rest
  | 0, c :: rest =>
    if Text.isBlank c then lexFrom 0 rest
    else
      match lexemeAt c rest with
      | .error e => .error e
      | .ok (lexeme, skip) => (lexFrom skip rest).map (lexeme :: ·)

/-- The lexemes of a text. -/
def lex (cs : List Char) : Except SyntaxError (List Lexeme) :=
  lexFrom 0 cs

end Stencil.Markup
