import Stencil.Markup.Lexeme

/-!
# Reading lexemes

A reader takes lexemes from the front of a list and keeps its place when it fails, so that what
comes next can still be read from there. The end of the list is the end of the markup.

* `Reader.look`, `Reader.take?`, `Reader.expect` — asking for a lexeme, taking it, demanding it
* `Reader.whole` — runs a reader on a markup that it must read to its end
-/

namespace Stencil.Markup

/-- What a reader gives: its result and the lexemes it left. -/
abbrev Reading (α : Type) := Except SyntaxError α × List Lexeme

/-- A reader of lexemes. It keeps its place also when it fails. -/
abbrev Reader := ExceptT SyntaxError (StateM (List Lexeme))

/-- The reader that a function on lexemes is. -/
def Reader.of {α : Type} (read : List Lexeme → Reading α) : Reader α := read

/-- Runs a reader. -/
def Reader.read {α : Type} (r : Reader α) (ts : List Lexeme) : Reading α := r ts

/-- What a message says about the next lexeme. -/
def describe : List Lexeme → String
  | [] => Kind.finish.title
  | t :: _ => t.kind.title ++ " '" ++ String.ofList t.text ++ "'"

/-- The error that something else was expected. -/
def unexpected (expected : String) (ts : List Lexeme) : SyntaxError :=
  .unexpectedToken expected (describe ts)

/-! ## Looking -/

/-- Whether the lexeme `skip` places ahead is of a kind. -/
def look (kind : Kind) (skip : Nat) (ts : List Lexeme) : Bool :=
  match ts[skip]? with
  | some t => t.kind == kind
  | none => kind == .finish && ts.length == skip

/-- Whether the next lexeme is a certain word. -/
def lookWord (word : String) (ts : List Lexeme) : Bool :=
  match ts with
  | t :: _ => t.kind == .identifier && t.text == word.toList
  | [] => false

/-! ## Taking -/

/-- Takes the next lexeme if it is of a kind, and gives its text. The end is never taken. -/
def take? (kind : Kind) : List Lexeme → Option (List Char) × List Lexeme
  | [] => (none, [])
  | t :: ts => if t.kind = kind ∧ kind ≠ .finish then (some t.text, ts) else (none, t :: ts)

/-- Takes the next lexeme if it is a certain word. -/
def takeWord? (word : String) (ts : List Lexeme) : Bool × List Lexeme :=
  if lookWord word ts then (true, ts.drop 1) else (false, ts)

/-- Takes the next lexeme, which must be of a kind. -/
def expect (kind : Kind) (ts : List Lexeme) : Reading (List Char) :=
  match take? kind ts with
  | (some text, rest) => (.ok text, rest)
  | (none, rest) => (.error (unexpected kind.title rest), rest)

/-- Demands the end of the markup. -/
def expectFinish : List Lexeme → Reading Unit
  | [] => (.ok (), [])
  | t :: ts => (.error (unexpected Kind.finish.title (t :: ts)), t :: ts)

theorem take?_suffix (kind : Kind) (ts : List Lexeme) : (take? kind ts).2 <:+ ts := by
  cases ts with
  | nil => simp [take?]
  | cons t rest =>
    simp only [take?]
    split
    · exact List.suffix_cons t rest
    · exact List.suffix_refl _

namespace Reader

/-- Takes the next lexeme if it is of a kind, and gives its text. -/
def take? (kind : Kind) : Reader (Option (List Char)) :=
  Reader.of fun ts => let (text, rest) := Markup.take? kind ts; (.ok text, rest)

/-- Takes the next lexeme if it is a certain word, and tells whether it was. -/
def takeWord? (word : String) : Reader Bool :=
  Reader.of fun ts => let (found, rest) := Markup.takeWord? word ts; (.ok found, rest)

/-- Takes the next lexeme, which must be of a kind. -/
def expect (kind : Kind) : Reader (List Char) :=
  Reader.of (Markup.expect kind)

/-- Takes the next lexeme, which must be an identifier. -/
def name : Reader String :=
  String.ofList <$> expect .identifier

/-- Demands the end of the markup. -/
def finish : Reader Unit :=
  Reader.of expectFinish

/-- Reads a markup that has nothing beyond what the reader takes. -/
def whole {α : Type} (r : Reader α) (markup : List Char) : Except SyntaxError α := do
  let ts ← lex markup
  ((do let a ← r; finish; return a : Reader α).read ts).1

end Reader

end Stencil.Markup
