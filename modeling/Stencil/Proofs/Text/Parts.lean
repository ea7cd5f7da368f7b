import Mathlib.Data.List.TakeWhile
import Stencil.Text.Blank
import Stencil.Text.Search

/-!
# Parts of texts

What trimming, cutting and taking characters from the front leave, said without these functions.

* `Trimmed` — a text without the white space at its ends
* `Leftmost` — the first place of a pattern
* `splitOn_singleton` — splitting at one character is that of lists
-/

namespace Stencil.Text

/-! ## Parts at the front -/

/-- Behind the longest part whose characters have a property stands one that has it not. -/
theorem head?_dropWhile {p : Char → Bool} {cs : List Char} {c : Char}
    (h : c ∈ (cs.dropWhile p).head?) : p c = false := by
  have hnot := List.head?_dropWhile_not p cs
  rw [Option.mem_def.mp h] at hnot
  exact hnot

/-- What is taken from the front of a text is as long as what is left out of the rest. -/
theorem drop_length_takeWhile (p : Char → Bool) (cs : List Char) :
    cs.drop (cs.takeWhile p).length = cs.dropWhile p := by
  calc cs.drop (cs.takeWhile p).length
      = (cs.takeWhile p ++ cs.dropWhile p).drop (cs.takeWhile p).length := by
        rw [List.takeWhile_append_dropWhile]
    _ = cs.dropWhile p := List.drop_left

/-- Characters with a property are taken up to one that has it not. -/
theorem takeWhile_append_of_head {p : Char → Bool} {cs rest : List Char} (h : ∀ c ∈ cs, p c)
    (hrest : ∀ c ∈ rest.head?, p c = false) : (cs ++ rest).takeWhile p = cs := by
  rw [List.takeWhile_append_of_pos h]
  cases rest with
  | nil => simp
  | cons c rest => simp [hrest c rfl]

/-- A text up to the first place of a character is told by what begins with it. -/
theorem eq_of_append_cons {c : Char} {before before' after after' : List Char} (h : c ∉ before)
    (h' : c ∉ before') (heq : before ++ c :: after = before' ++ c :: after') : before = before' := by
  have hsplit := congrArg (List.splitOn c) heq
  rw [List.splitOn_append_cons_self_of_not_mem h, List.splitOn_append_cons_self_of_not_mem h']
    at hsplit
  exact (List.cons_eq_cons.mp hsplit).1

/-! ## White space at the ends -/

/-- A text is another one without the white space that this has at its ends. -/
structure Trimmed (cs trimmed : List Char) : Prop where
  between : ∃ left right, cs = left ++ trimmed ++ right ∧
    (∀ c ∈ left, isBlank c) ∧ ∀ c ∈ right, isBlank c
  head : ∀ c ∈ trimmed.head?, isBlank c = false
  last : ∀ c ∈ trimmed.getLast?, isBlank c = false

theorem trimEnd_append (cs : List Char) :
    ∃ right, cs = trimEnd cs ++ right ∧ ∀ c ∈ right, isBlank c := by
  refine ⟨(cs.reverse.takeWhile isBlank).reverse, ?_, fun c hc => ?_⟩
  · have happend := congrArg List.reverse
      (List.takeWhile_append_dropWhile (p := isBlank) (l := cs.reverse))
    rw [List.reverse_append, List.reverse_reverse] at happend
    exact happend.symm
  · exact List.mem_takeWhile_imp (List.mem_reverse.mp hc)

/-- Trimming gives the trimmed text. -/
theorem trimmed_trim (cs : List Char) : Trimmed cs (trim cs) := by
  obtain ⟨right, hright, hblank⟩ := trimEnd_append (trimStart cs)
  refine ⟨⟨cs.takeWhile isBlank, right, ?_, fun _ => List.mem_takeWhile_imp, hblank⟩, ?_, ?_⟩
  · calc cs = cs.takeWhile isBlank ++ trimStart cs := List.takeWhile_append_dropWhile.symm
      _ = cs.takeWhile isBlank ++ (trim cs ++ right) := congrArg _ hright
      _ = cs.takeWhile isBlank ++ trim cs ++ right := (List.append_assoc ..).symm
  · intro c hc
    have hhead : c ∈ (trimStart cs).head? := by
      rw [hright, List.head?_append]
      exact Option.mem_def.mpr (by rw [trim] at hc; rw [Option.mem_def.mp hc]; rfl)
    exact head?_dropWhile hhead
  · intro c hc
    rw [trim, trimEnd, List.getLast?_reverse] at hc
    exact head?_dropWhile hc

theorem dropWhile_eq_self_of_head {p : Char → Bool} {cs : List Char}
    (h : ∀ c ∈ cs.head?, p c = false) : cs.dropWhile p = cs := by
  cases cs with
  | nil => rfl
  | cons c cs => exact List.dropWhile_cons_of_neg (Bool.eq_false_iff.mp (h c rfl))

/-- White space around a text that has none. -/
theorem trimmed_of_forall {left cs right : List Char} (h : ∀ c ∈ cs, isBlank c = false)
    (hleft : ∀ c ∈ left, isBlank c) (hright : ∀ c ∈ right, isBlank c) :
    Trimmed (left ++ cs ++ right) cs where
  between := ⟨left, right, rfl, hleft, hright⟩
  head c hc := h c (List.mem_of_mem_head? hc)
  last c hc := h c (List.mem_of_getLast? hc)

/-- A text is trimmed in one way. -/
theorem Trimmed.trim_eq {cs trimmed : List Char} (h : Trimmed cs trimmed) : trim cs = trimmed := by
  obtain ⟨⟨left, right, rfl, hleft, hright⟩, hhead, hlast⟩ := h
  by_cases hnil : trimmed = []
  · rw [hnil, List.append_nil, trim_eq_nil_iff]
    exact fun c hc => (List.mem_append.mp hc).elim (hleft c) (hright c)
  · have hfirst : ∀ c ∈ (trimmed ++ right).head?, isBlank c = false := by
      obtain ⟨c, rest, rfl⟩ := List.exists_cons_of_ne_nil hnil
      exact hhead
    rw [trim, trimStart, List.append_assoc, List.dropWhile_append_of_pos hleft,
      dropWhile_eq_self_of_head hfirst, trimEnd, List.reverse_append,
      List.dropWhile_append_of_pos (fun c hc => hright c (List.mem_reverse.mp hc)),
      dropWhile_eq_self_of_head (by rwa [List.head?_reverse]), List.reverse_reverse]

/-! ## The first place of a pattern -/

/-- A pattern between two texts stands there for the first time. -/
def Leftmost (pattern before after : List Char) : Prop :=
  ∀ left right, before ++ pattern ++ after = left ++ pattern ++ right →
    before.length ≤ left.length

/-- A cut is at the first place of the pattern. -/
theorem cut?_leftmost {pattern cs before after : List Char}
    (h : cut? pattern cs = some (before, after)) : Leftmost pattern before after := by
  induction cs generalizing before with
  | nil =>
    obtain rfl : before = [] := by
      simp only [cut?] at h
      split at h <;> simp_all
    exact fun _ _ _ => Nat.zero_le _
  | cons c rest ih =>
    have hparts := cut?_eq_some h
    simp only [cut?] at h
    split at h
    · simp only [Option.some.injEq, Prod.mk.injEq] at h
      rw [← h.1]
      exact fun _ _ _ => Nat.zero_le _
    · rename_i hprefix
      simp only [Option.map_eq_some_iff, Prod.mk.injEq, Prod.exists] at h
      obtain ⟨before, after, hcut, rfl, rfl⟩ := h
      intro left right heq
      rw [← hparts] at heq
      cases left with
      | nil =>
        -- The pattern would stand at the beginning, where it was looked for.
        rw [heq, List.nil_append, isPrefixOf?_append] at hprefix
        cases hprefix
      | cons d left =>
        have hrest : rest = left ++ pattern ++ right := (List.cons_eq_cons.mp heq).2
        rw [cut?_eq_some hcut] at hrest
        exact Nat.succ_le_succ (ih hcut left right hrest)

/-- Where there is no cut there is no pattern. -/
theorem cut?_eq_none {pattern cs : List Char} (h : cut? pattern cs = none)
    (before after : List Char) : cs ≠ before ++ pattern ++ after := by
  intro heq
  have hsome := cut?_isSome_iff.mpr ⟨before, after, heq⟩
  rw [h] at hsome
  cases hsome

/-! ## Parts between separators -/

theorem splitOn_of_cut? {separator cs before after : List Char} (hne : separator ≠ [])
    (h : cut? separator cs = some (before, after)) :
    splitOn separator cs = before :: splitOn separator after := by
  rw [splitOn, dif_neg hne]
  split
  · rename_i hnone
    rw [h] at hnone
    cases hnone
  · rename_i hsome
    rw [h] at hsome
    cases hsome
    rfl

theorem splitOn_of_no_cut {separator cs : List Char} (h : cut? separator cs = none) :
    splitOn separator cs = [cs] := by
  rw [splitOn]
  split
  · rfl
  · split
    · rfl
    · rename_i hsome
      rw [h] at hsome
      cases hsome

theorem cut?_cons_self (c : Char) (cs : List Char) : cut? [c] (c :: cs) = some ([], cs) := by
  have hprefix := isPrefixOf?_append [c] cs
  rw [List.singleton_append] at hprefix
  rw [cut?, hprefix]

theorem cut?_cons_of_ne {c d : Char} (h : d ≠ c) (cs : List Char) :
    cut? [c] (d :: cs) = (cut? [c] cs).map fun (before, after) => (d :: before, after) := by
  have hne : (c == d) = false := beq_eq_false_iff_ne.mpr h.symm
  simp [cut?, isPrefixOf?_cons, hne]

/-- Splitting a text at one character is splitting the list of its characters. -/
theorem splitOn_singleton (c : Char) (cs : List Char) : splitOn [c] cs = cs.splitOn c := by
  have hne : [c] ≠ [] := List.cons_ne_nil c []
  induction cs with
  | nil => exact splitOn_of_no_cut rfl
  | cons d cs ih =>
    rw [List.splitOn_cons_eq_if_modifyHead, ← ih]
    by_cases h : d = c
    · rw [h, splitOn_of_cut? hne (cut?_cons_self c cs), if_pos BEq.rfl]
    · -- The first part of the rest gets the character, whether or not it is the only part.
      rw [if_neg (by simpa using h)]
      cases hcut : cut? [c] cs with
      | none =>
        have hcons := cut?_cons_of_ne h cs
        rw [hcut] at hcons
        rw [splitOn_of_no_cut hcut, splitOn_of_no_cut hcons]
        rfl
      | some found =>
        have hcons := cut?_cons_of_ne h cs
        rw [hcut] at hcons
        rw [splitOn_of_cut? hne hcut, splitOn_of_cut? hne hcons]
        rfl

/-- No part between separators has the separator in it. -/
theorem not_mem_of_mem_splitOn {c : Char} {cs part : List Char} (h : part ∈ cs.splitOn c) :
    c ∉ part := by
  induction cs generalizing part with
  | nil =>
    rw [List.splitOn_nil, List.mem_singleton] at h
    simp [h]
  | cons d cs ih =>
    rw [List.splitOn_cons_eq_if_modifyHead] at h
    cases hparts : cs.splitOn c with
    | nil => exact absurd hparts (List.splitOn_ne_nil c cs)
    | cons first parts =>
      rw [hparts] at h ih
      by_cases hd : d = c
      · subst hd
        simp only [BEq.rfl, if_true, List.mem_cons] at h
        rcases h with rfl | hmem
        · simp
        · exact ih (List.mem_cons.mpr hmem)
      · simp only [beq_iff_eq, hd, if_false, List.modifyHead_cons, List.mem_cons] at h
        rcases h with rfl | hmem
        · have hfirst := ih List.mem_cons_self
          simp [hfirst, Ne.symm hd]
        · exact ih (List.mem_cons_of_mem _ hmem)

end Stencil.Text
