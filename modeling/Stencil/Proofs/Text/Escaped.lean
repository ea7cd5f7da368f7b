import Mathlib.Tactic.Tauto
import Stencil.Proofs.Text.Positions

/-!
# Escaped texts

Escaping leaves no character in a text that means something between tags, but for those that begin a
reference (`Escaped`), and reading references undoes it.

* `escaped_escape` — what escaping leaves
* `unescape_escape` — escaping is undone
* `escapeOnce_escape` — what has been escaped is not escaped again
-/

namespace Stencil.Text

/-! ## Escaped texts -/

/-- The references that are written. -/
def writtenReferences : List (List Char) :=
  ["&amp;".toList, "&lt;".toList, "&gt;".toList, "&quot;".toList, "&#39;".toList]

/-- A text in which nothing means anything between tags but the references that are written. -/
structure Escaped (cs : List Char) : Prop where
  unmarked : ∀ c ∈ cs, c ≠ '<' ∧ c ≠ '>' ∧ c ≠ '"' ∧ c ≠ '\x27'
  references : ∀ before after, cs = before ++ '&' :: after →
    ∃ r ∈ writtenReferences, r <+: '&' :: after

/-- Whether a character stands for itself between tags. -/
def Unmarked (c : Char) : Prop :=
  c ≠ '&' ∧ c ≠ '<' ∧ c ≠ '>' ∧ c ≠ '"' ∧ c ≠ '\x27'

theorem Escaped.nil : Escaped [] :=
  ⟨by simp, by simp⟩

theorem Escaped.append_unmarked {front cs : List Char} (hfront : ∀ c ∈ front, Unmarked c)
    (h : Escaped cs) : Escaped (front ++ cs) := by
  induction front with
  | nil => exact h
  | cons c front ih =>
    obtain ⟨⟨hand, hc⟩, hfront⟩ := List.forall_mem_cons.mp hfront
    obtain ⟨hunmarked, hreferences⟩ := ih hfront
    refine ⟨List.forall_mem_cons.mpr ⟨hc, hunmarked⟩, ?_⟩
    intro before after heq
    cases before with
    | nil => exact absurd (List.cons_eq_cons.mp heq).1 hand
    | cons d before => exact hreferences before after (List.cons_eq_cons.mp heq).2

theorem Escaped.append_reference {r cs : List Char} (hr : r ∈ writtenReferences)
    (h : Escaped cs) : Escaped (r ++ cs) := by
  obtain ⟨name, rfl, hname⟩ : ∃ name, r = '&' :: name ∧ ∀ c ∈ name, Unmarked c := by
    revert r
    simp only [writtenReferences, List.forall_mem_cons]
    refine ⟨⟨"amp;".toList, rfl, ?_⟩, ⟨"lt;".toList, rfl, ?_⟩, ⟨"gt;".toList, rfl, ?_⟩,
      ⟨"quot;".toList, rfl, ?_⟩, ⟨"#39;".toList, rfl, ?_⟩, by simp⟩ <;> simp [Unmarked]
  obtain ⟨hunmarked, hreferences⟩ := h.append_unmarked hname
  refine ⟨List.forall_mem_cons.mpr ⟨by decide, hunmarked⟩, ?_⟩
  intro before after heq
  cases before with
  | nil =>
    rw [← (List.cons_eq_cons.mp heq).2]
    exact ⟨_, hr, List.prefix_append ('&' :: name) cs⟩
  | cons d before => exact hreferences before after (List.cons_eq_cons.mp heq).2

/-- A character is escaped as a reference or stands for itself. -/
theorem escapeChar_cases (c : Char) :
    escapeChar c ∈ writtenReferences ∨ escapeChar c = [c] ∧ Unmarked c := by
  by_cases hc : Unmarked c
  · obtain ⟨hand, hless, hgreater, hquote, hmark⟩ := hc
    exact .inr ⟨by simp [escapeChar, hand, hless, hgreater, hquote, hmark],
      hand, hless, hgreater, hquote, hmark⟩
  · left
    unfold Unmarked at hc
    obtain rfl | rfl | rfl | rfl | rfl : c = '&' ∨ c = '<' ∨ c = '>' ∨ c = '"' ∨ c = '\x27' := by
      tauto
    all_goals decide

/-- Escaping escapes. -/
theorem escaped_escape (cs : List Char) : Escaped (escape cs) := by
  induction cs with
  | nil => exact .nil
  | cons c cs ih =>
    rw [escape, List.flatMap_cons]
    rcases escapeChar_cases c with hwritten | ⟨heq, hc⟩
    · exact ih.append_reference hwritten
    · rw [heq]
      exact ih.append_unmarked (by simpa using hc)

/-! ## Undoing -/

theorem unescape_reference (name : List Char) {denoted : Char} (hname : ';' ∉ name)
    (hlength : name.length ≤ maxNameLength) (hdenoted : namedChar? name = some denoted)
    (rest : List Char) : unescape ('&' :: (name ++ ';' :: rest)) = denoted :: unescape rest := by
  rw [unescape_cons_reference, reference?_append hname, if_pos hlength, hdenoted]
  simp

theorem unescape_escapeChar (c : Char) (rest : List Char) :
    unescape (escapeChar c ++ rest) = c :: unescape rest := by
  unfold escapeChar
  split
  · subst c
    exact unescape_reference "amp".toList (by decide) (by decide) rfl rest
  split
  · subst c
    exact unescape_reference "lt".toList (by decide) (by decide) rfl rest
  split
  · subst c
    exact unescape_reference "gt".toList (by decide) (by decide) rfl rest
  split
  · subst c
    exact unescape_reference "quot".toList (by decide) (by decide) rfl rest
  split
  · subst c
    exact unescape_reference "#39".toList (by decide) (by decide) rfl rest
  · rename_i hand _ _ _ _
    have hmem : '&' ∉ [c] := by simpa using Ne.symm hand
    exact unescape_append hmem rest

/-- Reading references undoes escaping. -/
theorem unescape_escape (cs : List Char) : unescape (escape cs) = cs := by
  induction cs with
  | nil => rfl
  | cons c cs ih =>
    rw [escape, List.flatMap_cons, unescape_escapeChar]
    exact congrArg (c :: ·) ih

theorem escape_injective {cs ds : List Char} (h : escape cs = escape ds) : cs = ds := by
  rw [← unescape_escape cs, h, unescape_escape]

/-- An escaped text is not escaped again. -/
theorem escapeOnce_escape (cs : List Char) : escapeOnce (escape cs) = escape cs := by
  rw [escapeOnce, unescape_escape]

end Stencil.Text
