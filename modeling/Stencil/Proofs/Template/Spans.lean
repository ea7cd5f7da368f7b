import Mathlib.Logic.Function.Iterate
import Stencil.Proofs.Text.Parts
import Stencil.Template.Piece

/-!
# The spans of pieces

Each piece of a source owns a span of it, and the spans are the source cut up: nothing is lost,
doubled or put elsewhere, whatever braces and percent signs there are. Which span a piece owns is
said without the reader of pieces.

* `Owns` — the span of a piece, given what follows it
* `pieces_spans` — the pieces of a source own consecutive spans of it
-/

namespace Stencil.Template

open Stencil.Text

/-! ## Spans -/

/-- The characters of an opening marker. -/
def Marker.opening : Marker → List Char
  | .output => ['\x7b', '\x7b']
  | .tag => ['\x7b', '%']

/-- There is no opening marker in a text. -/
def MarkerFree (cs : List Char) : Prop :=
  ∀ (marker : Marker) before after, cs ≠ before ++ marker.opening ++ after

/-- An opening marker without effect, before a text: it is never closed, or encloses white space
only. -/
def Marker.Idle (marker : Marker) (inside : List Char) : Prop :=
  (∀ before after, inside ≠ before ++ marker.closing ++ after) ∨
    ∃ before after, inside = before ++ marker.closing ++ after ∧
      Leftmost marker.closing before after ∧ ∀ c ∈ before, isBlank c

/-- A text ends where the source ends or where an opening marker stands. -/
def TextEnds (rest : List Char) : Prop :=
  rest = [] ∨ ∃ (marker : Marker) (after : List Char), rest = marker.opening ++ after

/-- The span that a piece owns, where the rest of the source follows. -/
inductive Owns : Piece → (span rest : List Char) → Prop where
  /-- Text without a marker. -/
  | text {content rest : List Char} : MarkerFree content → TextEnds rest →
    Owns (.text content) content rest
  /-- Text that starts with a marker without effect, and has none behind that. -/
  | idle {marker : Marker} {behind rest : List Char} : marker.Idle (behind ++ rest) →
    MarkerFree behind → TextEnds rest →
    Owns (.text (marker.opening ++ behind)) (marker.opening ++ behind) rest
  /-- An output reaches to the first closing marker. -/
  | output {content markup rest : List Char} : Leftmost Marker.output.closing content rest →
    Trimmed content markup → markup ≠ [] →
    Owns (.output markup) (Marker.output.opening ++ content ++ Marker.output.closing) rest
  /-- So does a tag, whose name ends where white space follows. -/
  | tag {content name arguments markup rest : List Char} :
    Leftmost Marker.tag.closing content rest → Trimmed content (name ++ arguments) → name ≠ [] →
    (∀ c ∈ name, isBlank c = false) → (∀ c ∈ arguments.head?, isBlank c) →
    Trimmed arguments markup →
    Owns (.tag (String.ofList name) (if markup = [] then none else some markup))
      (Marker.tag.opening ++ content ++ Marker.tag.closing) rest

/-! ## Markers -/

theorem markerAt?_eq_some_iff {cs rest : List Char} {marker : Marker} :
    markerAt? cs = some (marker, rest) ↔ cs = marker.opening ++ rest := by
  constructor
  · intro h
    unfold markerAt? at h
    split at h
    · simp only [Option.some.injEq, Prod.mk.injEq] at h
      rw [← h.1, ← h.2]
      rfl
    · simp only [Option.some.injEq, Prod.mk.injEq] at h
      rw [← h.1, ← h.2]
      rfl
    · cases h
  · rintro rfl
    cases marker <;> rfl

theorem markerFree_nil : MarkerFree [] := by
  intro marker before after h
  cases marker <;> simp [Marker.opening] at h

/-- A text has a marker at its beginning or behind its first character. -/
theorem MarkerFree.cons {c : Char} {cs : List Char} (hcs : MarkerFree cs)
    (hmarker : ∀ marker : Marker, ¬ marker.opening <+: c :: cs) : MarkerFree (c :: cs) := by
  intro marker before after h
  cases before with
  | nil => exact hmarker marker ⟨after, h.symm⟩
  | cons d before => exact hcs marker before after (List.cons_eq_cons.mp h).2

theorem spanText_markerFree (cs : List Char) :
    MarkerFree (spanText cs).1 ∧ TextEnds (spanText cs).2 := by
  induction cs with
  | nil => exact ⟨markerFree_nil, .inl rfl⟩
  | cons c rest ih =>
    cases hmarker : markerAt? (c :: rest) with
    | some found =>
      simp only [spanText, hmarker, Option.isSome_some, if_true]
      exact ⟨markerFree_nil, .inr ⟨found.1, found.2, markerAt?_eq_some_iff.mp hmarker⟩⟩
    | none =>
      simp only [spanText, hmarker, Option.isSome_none, Bool.false_eq_true, if_false]
      refine ⟨ih.1.cons ?_, ih.2⟩
      -- A marker at the beginning of the text would be one at the beginning of the source.
      rintro marker ⟨after, hafter⟩
      have hsource : c :: rest = marker.opening ++ (after ++ (spanText rest).2) := by
        rw [← List.append_assoc, hafter, List.cons_append, spanText_append]
      rw [markerAt?_eq_some_iff.mpr hsource] at hmarker
      cases hmarker

/-! ## Pieces -/

/-- A tag with markup that is not empty: its name is what stands before the first white space. -/
theorem owns_tagOf {content rest : List Char} (hleft : Leftmost Marker.tag.closing content rest)
    (hne : trim content ≠ []) :
    Owns (tagOf (trim content)) (Marker.tag.opening ++ content ++ Marker.tag.closing) rest := by
  have htrimmed := trimmed_trim content
  unfold tagOf
  simp only [drop_length_takeWhile]
  generalize hname : (trim content).takeWhile (!isBlank ·) = name
  generalize harguments : (trim content).dropWhile (!isBlank ·) = arguments
  have hsplit : name ++ arguments = trim content := by
    rw [← hname, ← harguments, List.takeWhile_append_dropWhile]
  have hblankfree : ∀ c ∈ name, isBlank c = false := by
    intro c hc
    rw [← hname] at hc
    simpa using List.mem_takeWhile_imp hc
  have hhead : ∀ c ∈ arguments.head?, isBlank c := by
    intro c hc
    rw [← harguments] at hc
    simpa using head?_dropWhile hc
  have hnonempty : name ≠ [] := by
    -- Otherwise the trimmed markup would start with white space.
    rintro rfl
    rw [List.nil_append] at hsplit
    cases hcs : trim content with
    | nil => exact hne hcs
    | cons c cs =>
      have hblank := hhead c (by rw [hsplit, hcs]; rfl)
      rw [htrimmed.head c (by rw [hcs]; rfl)] at hblank
      cases hblank
  rw [← hsplit] at htrimmed
  have howns := Owns.tag hleft htrimmed hnonempty hblankfree hhead (trimmed_trim arguments)
  simpa only [List.isEmpty_iff] using howns

/-- The markup at the beginning of a source owns what it takes. -/
theorem owns_markupAt? {cs rest : List Char} {piece : Piece}
    (h : markupAt? cs = some (piece, rest)) : ∃ span, cs = span ++ rest ∧ Owns piece span rest := by
  unfold markupAt? at h
  cases hmarker : markerAt? cs with
  | none =>
    rw [hmarker] at h
    cases h
  | some found =>
    obtain ⟨marker, inside⟩ := found
    rw [hmarker] at h
    cases hcut : cut? marker.closing inside with
    | none =>
      simp only [hcut] at h
      cases h
    | some parts =>
      obtain ⟨content, after⟩ := parts
      simp only [hcut, List.isEmpty_iff] at h
      split at h
      · cases h
      · rename_i hne
        simp only [Option.some.injEq, Prod.mk.injEq] at h
        obtain ⟨rfl, rfl⟩ := h
        refine ⟨marker.opening ++ content ++ marker.closing, ?_, ?_⟩
        · rw [markerAt?_eq_some_iff.mp hmarker, cut?_eq_some hcut]
          simp only [List.append_assoc]
        · cases marker with
          | output => exact .output (cut?_leftmost hcut) (trimmed_trim content) hne
          | tag => exact owns_tagOf (cut?_leftmost hcut) hne

/-- A marker at which no markup can be read is without effect. -/
theorem idle_of_markupAt?_eq_none {cs inside : List Char} {marker : Marker}
    (hmarker : markerAt? cs = some (marker, inside)) (h : markupAt? cs = none) :
    marker.Idle inside := by
  unfold markupAt? at h
  simp only [hmarker] at h
  cases hcut : cut? marker.closing inside with
  | none => exact .inl (cut?_eq_none hcut)
  | some parts =>
    obtain ⟨content, after⟩ := parts
    simp only [hcut, List.isEmpty_iff] at h
    split at h
    · rename_i hblank
      exact .inr ⟨content, after, cut?_eq_some hcut, cut?_leftmost hcut, trim_eq_nil_iff.mp hblank⟩
    · cases h

/-- Text owns what it consists of. -/
theorem owns_textAt {cs : List Char} (h : markupAt? cs = none) :
    Owns (.text (textAt cs).1) (textAt cs).1 (textAt cs).2 := by
  cases hmarker : markerAt? cs with
  | none =>
    obtain ⟨hfree, hends⟩ := spanText_markerFree cs
    simp only [textAt, hmarker, Option.isSome_none, Bool.false_eq_true, if_false, List.take_zero,
      List.drop_zero, List.nil_append]
    exact .text hfree hends
  | some found =>
    obtain ⟨marker, inside⟩ := found
    have hcs := markerAt?_eq_some_iff.mp hmarker
    have hlength : marker.opening.length = markerLength := by cases marker <;> rfl
    obtain ⟨hfree, hends⟩ := spanText_markerFree inside
    simp only [textAt, hmarker, Option.isSome_some, if_true]
    rw [hcs, ← hlength, List.take_left, List.drop_left]
    refine .idle ?_ hfree hends
    rw [spanText_append]
    exact idle_of_markupAt?_eq_none hmarker h

/-- The first piece of a source that is not empty owns a span at its beginning. -/
theorem owns_nextPiece {cs : List Char} (hne : cs ≠ []) :
    ∃ span, span ≠ [] ∧ cs = span ++ (nextPiece cs).2 ∧
      Owns (nextPiece cs).1 span (nextPiece cs).2 := by
  obtain ⟨span, hspan, howns⟩ : ∃ span, cs = span ++ (nextPiece cs).2 ∧
      Owns (nextPiece cs).1 span (nextPiece cs).2 := by
    unfold nextPiece
    cases hmarkup : markupAt? cs with
    | some found => exact owns_markupAt? hmarkup
    | none => exact ⟨_, (textAt_append cs).symm, owns_textAt hmarkup⟩
  refine ⟨span, ?_, hspan, howns⟩
  rintro rfl
  have hlt := nextPiece_length_lt hne
  rw [List.nil_append] at hspan
  rw [← hspan] at hlt
  exact Nat.lt_irrefl _ hlt

/--
**The pieces of a source are the source cut up.** Taking one piece after another comes to the end of
the source. The pieces own spans of it that are not empty and that are the source when put together,
and each owns what the rules of outputs, tags and text say.
-/
theorem pieces_spans (cs : List Char) :
    (fun rest => (nextPiece rest).2)^[(pieces cs).length] cs = [] ∧
    ∃ owned : List (Piece × List Char),
      owned.map (·.1) = pieces cs ∧ (owned.map (·.2)).flatten = cs ∧
      ∀ before piece span after, owned = before ++ (piece, span) :: after →
        span ≠ [] ∧ Owns piece span (after.map (·.2)).flatten := by
  fun_induction pieces cs with
  | case1 => exact ⟨rfl, [], rfl, rfl, by simp⟩
  | case2 cs hne ih =>
    obtain ⟨hend, owned, hpieces, hflatten, howned⟩ := ih
    obtain ⟨span, hspan, hcs, howns⟩ := owns_nextPiece hne
    refine ⟨hend, ((nextPiece cs).1, span) :: owned, ?_, ?_, ?_⟩
    · rw [List.map_cons, hpieces]
    · rw [List.map_cons, List.flatten_cons, hflatten]
      exact hcs.symm
    · intro before piece span' after heq
      cases before with
      | nil =>
        obtain ⟨hfirst, rfl⟩ := List.cons_eq_cons.mp heq
        cases hfirst
        rw [hflatten]
        exact ⟨hspan, howns⟩
      | cons first before => exact howned before piece span' after (List.cons_eq_cons.mp heq).2

end Stencil.Template
