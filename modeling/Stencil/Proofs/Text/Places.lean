import Stencil.Proofs.Text.Parts

/-!
# Places in texts

A text is divided at the places where texts of some kind stand, from the left and without overlaps
(`Divided`). Splitting and replacing are both said by the parts in between: the parts are what
splitting gives, and replacing puts another text between them.

* `Divided.unique` — a text is divided in one way
* `Divided.not_contained` — no part has such a text in it
* `divided_splitOn` — splitting divides
* `replaceAll_eq_intercalate` — replacing joins the parts of splitting
-/

namespace Stencil.Text

/-- No text of a kind begins earlier than at the end of the first part. -/
def FirstBehind (P : List Char → Prop) (before rest : List Char) : Prop :=
  ∀ left m right, P m → before ++ rest = left ++ m ++ right → before.length ≤ left.length

/-- A text is divided at the first place where a text of a kind stands, and so on behind it, until
there is no such place any more. -/
inductive Divided (P : List Char → Prop) : List Char → List (List Char) → Prop
  | whole {cs : List Char} (h : ∀ m, P m → ¬ m <:+: cs) : Divided P cs [cs]
  | cut {before m after : List Char} {parts : List (List Char)} (hm : P m)
      (hfirst : FirstBehind P before (m ++ after)) (more : Divided P after parts) :
      Divided P (before ++ m ++ after) (before :: parts)

/-- At most one text of the kind begins a text. -/
def Unambiguous (P : List Char → Prop) : Prop :=
  ∀ m m' cs, P m → P m' → m <+: cs → m' <+: cs → m = m'

theorem unambiguous_eq (pattern : List Char) : Unambiguous (· = pattern) := by
  rintro m m' cs rfl rfl - -
  rfl

section Divided

variable {P : List Char → Prop} {before before' m m' after after' cs : List Char}
  {parts parts' : List (List Char)}

/-! ## One way -/

/-- There is one first place. -/
theorem FirstBehind.unique (hP : Unambiguous P) (hm : P m) (hm' : P m')
    (h : FirstBehind P before (m ++ after)) (h' : FirstBehind P before' (m' ++ after'))
    (heq : before ++ m ++ after = before' ++ m' ++ after') :
    before = before' ∧ m = m' ∧ after = after' := by
  have hle : before.length ≤ before'.length := h before' m' after' hm' (by simpa using heq)
  have hge : before'.length ≤ before.length := h' before m after hm (by simpa using heq.symm)
  rw [List.append_assoc, List.append_assoc] at heq
  obtain ⟨rfl, hrest⟩ := List.append_inj heq (Nat.le_antisymm hle hge)
  obtain rfl : m = m' := hP m m' (m ++ after) hm hm' (List.prefix_append m after)
    (hrest ▸ List.prefix_append m' after')
  exact ⟨rfl, rfl, List.append_cancel_left hrest⟩

/-- A text is divided in one way. -/
theorem Divided.unique (hP : Unambiguous P) (h : Divided P cs parts) (h' : Divided P cs parts') :
    parts = parts' := by
  induction h generalizing parts' with
  | whole hnone =>
    cases h' with
    | whole => rfl
    | cut hm => exact absurd (List.infix_append ..) (hnone _ hm)
  | @cut before m after parts hm hfirst _ ih =>
    generalize htext : before ++ m ++ after = text at h'
    cases h' with
    | whole hnone => exact absurd (htext ▸ List.infix_append before m after) (hnone m hm)
    | cut hm' hfirst' more' =>
      obtain ⟨rfl, rfl, rfl⟩ := hfirst.unique hP hm hm' hfirst' htext
      rw [ih more']

theorem Divided.iff_eq (hP : Unambiguous P) (h : Divided P cs parts) (other : List (List Char)) :
    Divided P cs other ↔ other = parts := by
  constructor
  · intro hother
    exact hother.unique hP h
  · rintro rfl
    exact h

/-! ## Parts -/

/-- What stands in front of the first place has no text of the kind in it. -/
theorem FirstBehind.not_contained (hne : ∀ m, P m → m ≠ []) (h : FirstBehind P before after) :
    ∀ m, P m → ¬ m <:+: before := by
  rintro m hm ⟨left, right, rfl⟩
  have hle := h left m (right ++ after) hm (by simp)
  have hpos := List.length_pos_iff.mpr (hne m hm)
  simp only [List.length_append] at hle
  omega

/-- No part has a text of the kind in it. -/
theorem Divided.not_contained (hne : ∀ m, P m → m ≠ []) (h : Divided P cs parts) :
    ∀ part ∈ parts, ∀ m, P m → ¬ m <:+: part := by
  induction h with
  | whole hnone => simpa using hnone
  | cut _ hfirst _ ih => exact List.forall_mem_cons.mpr ⟨hfirst.not_contained hne, ih⟩

theorem Divided.ne_nil (h : Divided P cs parts) : parts ≠ [] := by
  cases h <;> simp

/-- A place at the beginning is the first one. -/
theorem Divided.of_begins (hm : P m) (h : Divided P after parts) :
    Divided P (m ++ after) ([] :: parts) :=
  @Divided.cut P [] m after parts hm (fun _ _ _ _ _ => Nat.zero_le _) h

/-- A character where no text of the kind begins belongs to the first part. -/
theorem Divided.cons {c : Char} {first : List Char}
    (hno : ∀ m, P m → ¬ m <+: c :: cs) (h : Divided P cs (first :: parts)) :
    Divided P (c :: cs) ((c :: first) :: parts) := by
  generalize hparts : first :: parts = all at h
  cases h with
  | whole hnone =>
    obtain ⟨rfl, rfl⟩ := List.cons_eq_cons.mp hparts
    refine .whole fun m hm hinfix => ?_
    rcases List.infix_cons_iff.mp hinfix with hbegins | hinside
    · exact hno m hm hbegins
    · exact hnone m hm hinside
  | @cut before m after more hm hfirst hmore =>
    obtain ⟨rfl, rfl⟩ := List.cons_eq_cons.mp hparts
    refine @Divided.cut P (c :: first) m after parts hm (fun left m' right hm' heq => ?_) hmore
    cases left with
    | nil => exact absurd ⟨right, by simpa using heq.symm⟩ (hno m' hm')
    | cons d left =>
      have hrest := (List.cons_eq_cons.mp heq).2
      exact Nat.succ_le_succ (hfirst left m' right hm' hrest)

/-- The parts with the text between them that they were divided at. -/
theorem Divided.intercalate {pattern : List Char} (h : Divided (· = pattern) cs parts) :
    pattern.intercalate parts = cs := by
  induction h with
  | whole => exact List.intercalate_singleton
  | cut hm _ more ih =>
    subst hm
    rw [List.intercalate_cons_of_ne_nil more.ne_nil, ih]

end Divided

/-! ## Splitting and replacing -/

variable {separator cs : List Char}

/-- Splitting divides a text at the separator. -/
theorem divided_splitOn (hne : separator ≠ []) (cs : List Char) :
    Divided (· = separator) cs (splitOn separator cs) := by
  cases hcut : cut? separator cs with
  | none =>
    rw [splitOn_of_no_cut hcut]
    refine .whole ?_
    rintro m rfl ⟨before, after, heq⟩
    exact cut?_eq_none hcut before after heq.symm
  | some found =>
    obtain ⟨before, after⟩ := found
    have hshorter := cut?_length_lt hne hcut
    rw [splitOn_of_cut? hne hcut]
    obtain rfl := cut?_eq_some hcut
    refine .cut rfl ?_ (divided_splitOn hne after)
    rintro left m right rfl heq
    exact cut?_leftmost hcut left right (by simpa using heq)
termination_by cs.length

theorem replaceAll_of_cut? {before after : List Char} (hne : separator ≠ [])
    (h : cut? separator cs = some (before, after)) (replacement : List Char) :
    replaceAll separator replacement cs =
      before ++ replacement ++ replaceAll separator replacement after := by
  rw [replaceAll, dif_neg hne]
  split
  · rename_i hnone
    rw [h] at hnone
    cases hnone
  · rename_i hsome
    rw [h] at hsome
    cases hsome
    rfl

theorem replaceAll_of_no_cut (h : cut? separator cs = none) (replacement : List Char) :
    replaceAll separator replacement cs = cs := by
  rw [replaceAll]
  split
  · rfl
  · split
    · rfl
    · rename_i hsome
      rw [h] at hsome
      cases hsome

/-- Replacing puts the other text between the parts of splitting. -/
theorem replaceAll_eq_intercalate (hne : separator ≠ []) (replacement cs : List Char) :
    replaceAll separator replacement cs = replacement.intercalate (splitOn separator cs) := by
  cases hcut : cut? separator cs with
  | none => rw [replaceAll_of_no_cut hcut, splitOn_of_no_cut hcut, List.intercalate_singleton]
  | some found =>
    obtain ⟨before, after⟩ := found
    have hshorter := cut?_length_lt hne hcut
    rw [replaceAll_of_cut? hne hcut, splitOn_of_cut? hne hcut,
      replaceAll_eq_intercalate hne replacement after,
      List.intercalate_cons_of_ne_nil (divided_splitOn hne after).ne_nil]
termination_by cs.length

/-- The characters of a text with nothing between them are the text. -/
theorem intercalate_characters (cs : List Char) : [].intercalate (cs.map ([·])) = cs := by
  induction cs with
  | nil => rfl
  | cons c cs ih =>
    cases cs with
    | nil => rfl
    | cons d cs =>
      rw [List.map_cons, List.intercalate_cons_of_ne_nil (by simp), ih]
      rfl

end Stencil.Text
