import Stencil.Text.Blank
import Stencil.Text.Search

/-!
# Pieces

The source of a template is cut into literal text, outputs and tags. An output stands between
double braces, a tag between braces with percent signs on their inner sides; each ends at the first
closing marker. An opening marker that is never closed, or that encloses white space only, is text
together with what follows it up to the next opening marker.

* `nextPiece` — the piece at the beginning of a text, and the rest, which is shorter
  (`nextPiece_length_lt`)
* `pieces` — all pieces of a text
-/

namespace Stencil.Template

/-- A piece of a source. Markup is trimmed and not empty. -/
inductive Piece where
  | text (content : List Char)
  | output (markup : List Char)
  | tag (name : String) (markup : Option (List Char))
  deriving DecidableEq, Repr

/-! ## Markers -/

/-- The two kinds of markers. -/
inductive Marker where
  | output
  | tag
  deriving DecidableEq, Repr

/-- What closes the markup behind a marker. -/
def Marker.closing : Marker → List Char
  | .output => ['\x7d', '\x7d']
  | .tag => ['%', '\x7d']

/-- The opening marker at the beginning of a text, and what follows it. -/
def markerAt? : List Char → Option (Marker × List Char)
  | '\x7b' :: '\x7b' :: rest => some (.output, rest)
  | '\x7b' :: '%' :: rest => some (.tag, rest)
  | _ => none

/-- The number of characters of a marker. -/
def markerLength : Nat := 2

/-- The tag with a trimmed markup: the name reaches to the first white space. -/
def tagOf (markup : List Char) : Piece :=
  let name := markup.takeWhile (!Text.isBlank ·)
  let rest := Text.trim (markup.drop name.length)
  .tag (String.ofList name) (if rest.isEmpty then none else some rest)

/-- The piece with a trimmed markup. -/
def Marker.piece : Marker → List Char → Piece
  | .output, markup => .output markup
  | .tag, markup => tagOf markup

/-- The output or tag at the beginning of a text, and what follows it. -/
def markupAt? (cs : List Char) : Option (Piece × List Char) :=
  match markerAt? cs with
  | none => none
  | some (marker, inside) =>
    match Text.cut? marker.closing inside with
    | none => none
    | some (content, rest) =>
      let markup := Text.trim content
      if markup.isEmpty then none else some (marker.piece markup, rest)

/-! ## Text -/

/-- What stands before the first opening marker, and the rest from there. -/
def spanText : List Char → List Char × List Char
  | [] => ([], [])
  | c :: cs =>
    if (markerAt? (c :: cs)).isSome then ([], c :: cs)
    else ((spanText cs).1.cons c, (spanText cs).2)

/-- The text at the beginning of a text. If a marker stands there it belongs to the text. -/
def textAt (cs : List Char) : List Char × List Char :=
  let skipped := if (markerAt? cs).isSome then markerLength else 0
  (cs.take skipped ++ (spanText (cs.drop skipped)).1, (spanText (cs.drop skipped)).2)

/-! ## Pieces -/

/-- The piece at the beginning of a text, and what follows it. -/
def nextPiece (cs : List Char) : Piece × List Char :=
  match markupAt? cs with
  | some found => found
  | none => (.text (textAt cs).1, (textAt cs).2)

theorem markerAt?_length {cs rest : List Char} {marker : Marker}
    (h : markerAt? cs = some (marker, rest)) : cs.length = markerLength + rest.length := by
  unfold markerAt? at h
  split at h
  · simp only [Option.some.injEq, Prod.mk.injEq] at h
    simp only [← h.2, markerLength, List.length_cons]
    omega
  · simp only [Option.some.injEq, Prod.mk.injEq] at h
    simp only [← h.2, markerLength, List.length_cons]
    omega
  · simp at h

theorem Marker.closing_ne_nil (marker : Marker) : marker.closing ≠ [] := by
  cases marker <;> simp [Marker.closing]

theorem markupAt?_length_lt {cs rest : List Char} {piece : Piece}
    (h : markupAt? cs = some (piece, rest)) : rest.length < cs.length := by
  unfold markupAt? at h
  split at h
  · simp at h
  · rename_i marker inside hmarker
    have hinside := markerAt?_length hmarker
    split at h
    · simp at h
    · rename_i content after hcut
      have hafter := Text.cut?_length_lt marker.closing_ne_nil hcut
      simp only at h
      split at h
      · simp at h
      · simp only [Option.some.injEq, Prod.mk.injEq] at h
        rw [← h.2]
        omega

theorem spanText_append (cs : List Char) : (spanText cs).1 ++ (spanText cs).2 = cs := by
  induction cs with
  | nil => rfl
  | cons c rest ih =>
    simp only [spanText]
    split
    · rfl
    · simp [ih]

theorem spanText_snd_length_le (cs : List Char) : (spanText cs).2.length ≤ cs.length := by
  have h := congrArg List.length (spanText_append cs)
  rw [List.length_append] at h
  omega

/-- The text at the beginning and the rest are the whole. -/
theorem textAt_append (cs : List Char) : (textAt cs).1 ++ (textAt cs).2 = cs := by
  simp only [textAt]
  rw [List.append_assoc, spanText_append, List.take_append_drop]

theorem textAt_length_lt {cs : List Char} (hne : cs ≠ []) :
    (textAt cs).2.length < cs.length := by
  cases cs with
  | nil => exact absurd rfl hne
  | cons c rest =>
    simp only [textAt]
    cases hmarker : markerAt? (c :: rest) with
    | some found =>
      have hlength := @markerAt?_length (c :: rest) found.2 found.1 hmarker
      have hle := spanText_snd_length_le ((c :: rest).drop markerLength)
      simp only [Option.isSome_some, if_true]
      simp only [List.length_drop, List.length_cons, markerLength] at *
      omega
    | none =>
      have hle := spanText_snd_length_le rest
      simp [spanText, hmarker]
      omega

theorem nextPiece_length_lt {cs : List Char} (hne : cs ≠ []) :
    (nextPiece cs).2.length < cs.length := by
  unfold nextPiece
  split
  · rename_i found hfound
    exact @markupAt?_length_lt cs found.2 found.1 hfound
  · exact textAt_length_lt hne

/-- The pieces of a text. -/
def pieces (cs : List Char) : List Piece :=
  if _hne : cs = [] then []
  else (nextPiece cs).1 :: pieces (nextPiece cs).2
termination_by cs.length
decreasing_by exact nextPiece_length_lt _hne

end Stencil.Template
