import Mathlib.Data.List.Chain
import Stencil.Text.SnakeCase

/-!
# Texts in snake case

Each character is spelled in lower case behind an underscore or none (`snakeFrom_cons`), and an
underscore is written only where none stands. So what is written has the letters of the text, has
single underscores only, and is spelled in the same way again unless it has capitals.

* `single_snakeCase` — underscores stand alone
* `filter_snakeCase` — all else is kept, in lower case
* `snakeCase_of_single` — what has no capitals and single underscores stays as it is
-/

namespace Stencil.Text

/-! ## Lower case -/

/-- A code point stays where it is, or moves with a run of the table. -/
theorem Shifts.apply_cases (table : Shifts) (n : Nat) :
    table.apply n = n ∨ ∃ shift ∈ table, shift.run.first ≤ n ∧ n ≤ shift.run.last ∧
      table.apply n = ((n : Int) + shift.distance).toNat := by
  induction table with
  | nil => exact .inl rfl
  | cons shift table ih =>
    simp only [Shifts.apply]
    split
    · exact .inl rfl
    split
    · rename_i hcontains
      simp only [Run.contains, Bool.and_eq_true, decide_eq_true_eq] at hcontains
      exact .inr ⟨shift, List.mem_cons_self, hcontains.1.1, hcontains.1.2, rfl⟩
    · rcases ih with hstays | ⟨shift', hmem, hmoves⟩
      · exact .inl hstays
      · exact .inr ⟨shift', List.mem_cons_of_mem _ hmem, hmoves⟩

/-- No run of the table of lower case reaches the underscore. -/
theorem lowercaseShifts_apply_ne {n : Nat} (h : n ≠ 0x5F) : lowercaseShifts.apply n ≠ 0x5F := by
  have hruns : ∀ shift ∈ lowercaseShifts,
      (shift.run.last : Int) + shift.distance < 0x5F ∨
        (0x5F : Int) < shift.run.first + shift.distance := by decide +kernel
  rcases lowercaseShifts.apply_cases n with hstays | ⟨shift, hmem, hfirst, hlast, hmoves⟩
  · rwa [hstays]
  · rw [hmoves]
    rcases hruns shift hmem with hbelow | habove <;> omega

theorem ofNat_ne_underscore {n : Nat} (h : n ≠ 0x5F) : Char.ofNat n ≠ '_' := by
  intro heq
  by_cases hvalid : n.isValidChar
  · have hcode : (Char.ofNat n).toNat = n := by
      rw [Char.ofNat, dif_pos hvalid]
      rfl
    rw [heq] at hcode
    exact h hcode.symm
  · rw [Char.ofNat, dif_neg hvalid] at heq
    exact absurd heq (by decide)

theorem lowerChar_ne_nil (c : Char) : lowerChar c ≠ [] := by
  unfold lowerChar
  split <;> simp

/-- The lower case of a character has no underscore. -/
theorem underscore_not_mem_lowerChar {c : Char} (h : c ≠ '_') : '_' ∉ lowerChar c := by
  unfold lowerChar
  split
  · decide
  · intro hmem
    have hmoved := lowercaseShifts_apply_ne fun heq => h (Char.toNat_inj.mp heq)
    exact ofNat_ne_underscore hmoved (List.mem_singleton.mp hmem).symm

/-! ## Spelling -/

/-- A character with capitals in lower case. -/
def lowered (c : Char) : List Char :=
  if isUppercase c then lowerChar c else [c]

/-- What is written for a character; underscores are written where they are needed. -/
def spelled (c : Char) : List Char :=
  if c = '_' then [] else lowered c

theorem underscore_not_mem_spelled (c : Char) : '_' ∉ spelled c := by
  unfold spelled lowered
  split
  · simp
  · rename_i hc
    split
    · exact underscore_not_mem_lowerChar hc
    · simpa using Ne.symm hc

/-- A character is spelled behind an underscore, which is not written next to another one, or behind
none. -/
theorem snakeFrom_cons (s : SnakeState) (c : Char) (rest : List Char) :
    ∃ divider s', snakeFrom s (c :: rest) = divider ++ spelled c ++ snakeFrom s' rest ∧
      (divider = [] ∨ divider = ['_'] ∧ s.last ≠ some '_') ∧
      s'.last = (s.last.toList ++ divider ++ spelled c).getLast? := by
  unfold spelled
  by_cases hc : c = '_'
  · subst hc
    by_cases hlast : s.last = some '_'
    · refine ⟨[], { last := some '_' }, ?_, .inl rfl, ?_⟩ <;> simp [snakeFrom, hlast]
    · refine ⟨['_'], { last := some '_' }, ?_, .inr ⟨rfl, hlast⟩, ?_⟩ <;> simp [snakeFrom, hlast]
  rw [if_neg hc]
  unfold lowered
  by_cases hupper : isUppercase c
  · rw [snakeFrom, if_neg hc, if_pos hupper, if_pos hupper]
    refine ⟨_, _, rfl, ?_, ?_⟩
    · split
      · rename_i hdivided
        simp only [Bool.and_eq_true, decide_eq_true_eq] at hdivided
        exact .inr ⟨rfl, hdivided.2⟩
      · exact .inl rfl
    · rw [List.getLast?_append_of_ne_nil _ (lowerChar_ne_nil c)]
  · rw [snakeFrom, if_neg hc, if_neg hupper, if_neg hupper]
    exact ⟨[], _, rfl, .inl rfl, by simp⟩

/-! ## Letters -/

/-- What is written has the letters of the text. -/
theorem filter_snakeFrom (s : SnakeState) (cs : List Char) :
    (snakeFrom s cs).filter (· ≠ '_') = cs.flatMap spelled := by
  induction cs generalizing s with
  | nil => rfl
  | cons c rest ih =>
    obtain ⟨divider, s', hcons, hdivider, -⟩ := snakeFrom_cons s c rest
    have hnone : divider.filter (· ≠ '_') = [] := by
      rcases hdivider with rfl | ⟨rfl, -⟩ <;> rfl
    have hall : (spelled c).filter (· ≠ '_') = spelled c := by
      refine List.filter_eq_self.mpr fun d hd => ?_
      simpa using ne_of_mem_of_not_mem hd (underscore_not_mem_spelled c)
    rw [hcons, List.filter_append, List.filter_append, hnone, hall, ih, List.nil_append,
      List.flatMap_cons]

theorem flatMap_spelled (cs : List Char) :
    cs.flatMap spelled = (cs.filter (· ≠ '_')).flatMap lowered := by
  induction cs with
  | nil => rfl
  | cons c rest ih =>
    rw [List.flatMap_cons, ih]
    by_cases hc : c = '_'
    · simp [spelled, hc]
    · simp [spelled, hc]

/-- The letters of the text are kept, in lower case. -/
theorem filter_snakeCase (cs : List Char) :
    (snakeCase cs).filter (· ≠ '_') = (cs.filter (· ≠ '_')).flatMap lowered := by
  rw [snakeCase, filter_snakeFrom, flatMap_spelled]

/-- No capitals are left if the lower case of the capitals has none. -/
theorem not_isUppercase_snakeCase {cs : List Char}
    (h : ∀ c ∈ cs, isUppercase c → ∀ d ∈ lowerChar c, ¬ isUppercase d) :
    ∀ c ∈ snakeCase cs, ¬ isUppercase c := by
  intro c hc
  by_cases hunderscore : c = '_'
  · subst hunderscore
    decide
  have hletter : c ∈ (snakeCase cs).filter (· ≠ '_') := by simpa [hunderscore] using hc
  rw [filter_snakeCase] at hletter
  obtain ⟨d, hd, hlowered⟩ := List.mem_flatMap.mp hletter
  unfold lowered at hlowered
  split at hlowered
  · rename_i hupper
    exact h d (List.mem_of_mem_filter hd) hupper c hlowered
  · rename_i hlower
    rwa [List.mem_singleton.mp hlowered]

/-! ## Underscores -/

/-- Underscores stand alone. -/
def Single (cs : List Char) : Prop :=
  cs.IsChain fun c d => ¬ (c = '_' ∧ d = '_')

theorem Single.append_letters {cs letters : List Char} (h : Single cs) (hletters : '_' ∉ letters) :
    Single (cs ++ letters) := by
  refine List.IsChain.append h (List.Pairwise.isChain ?_) fun c _ d hd heq => ?_
  · exact List.pairwise_of_forall_mem_list fun c hc d _ heq => hletters (heq.1 ▸ hc)
  · exact hletters (heq.2 ▸ List.mem_of_mem_head? hd)

/-- Only the last character decides what may follow. -/
theorem Single.append {cs ds : List Char} (h : Single cs)
    (hds : Single (cs.getLast?.toList ++ ds)) : Single (cs ++ ds) := by
  obtain ⟨-, hds, hlink⟩ := List.isChain_append.mp hds
  refine List.IsChain.append h hds fun c hc => hlink c ?_
  rw [Option.mem_def.mp hc]
  rfl

theorem single_snakeFrom (s : SnakeState) (cs : List Char) :
    Single (s.last.toList ++ snakeFrom s cs) := by
  induction cs generalizing s with
  | nil => cases hlast : s.last <;> simp [snakeFrom, Single]
  | cons c rest ih =>
    obtain ⟨divider, s', hcons, hdivider, hlast⟩ := snakeFrom_cons s c rest
    have hfront : Single (s.last.toList ++ divider) := by
      rcases hdivider with rfl | ⟨rfl, hne⟩
      · cases hlast : s.last <;> simp [Single]
      · cases hlast : s.last with
        | none => simp [Single]
        | some d => simpa [Single, hlast] using hne
    have hrest := ih s'
    rw [hlast] at hrest
    have hall := (hfront.append_letters (underscore_not_mem_spelled c)).append hrest
    simpa [hcons] using hall

/-- In snake case no two underscores stand next to each other. -/
theorem single_snakeCase (cs : List Char) : Single (snakeCase cs) :=
  single_snakeFrom {} cs

theorem Single.not_contained {cs : List Char} (h : Single cs) : ¬ ['_', '_'] <:+: cs := by
  intro hinfix
  have hpair := List.IsChain.infix h hinfix
  simp at hpair

/-- What has no capitals and single underscores stays as it is. -/
theorem snakeFrom_of_single {s : SnakeState} {cs : List Char} (hlower : ∀ c ∈ cs, ¬ isUppercase c)
    (hsingle : Single (s.last.toList ++ cs)) : snakeFrom s cs = cs := by
  induction cs generalizing s with
  | nil => rfl
  | cons c rest ih =>
    obtain ⟨hc, hrest⟩ := List.forall_mem_cons.mp hlower
    obtain ⟨-, hcons, hlink⟩ := List.isChain_append.mp hsingle
    by_cases hunderscore : c = '_'
    · subst hunderscore
      have hlast : s.last ≠ some '_' := fun heq => hlink '_' (by simp [heq]) '_' rfl ⟨rfl, rfl⟩
      rw [snakeFrom, if_pos rfl, if_neg hlast, ih (s := { last := some '_' }) hrest hcons]
      rfl
    · rw [snakeFrom, if_neg hunderscore, if_neg hc,
        ih (s := { last := some c, low := _ }) hrest hcons]

theorem snakeCase_of_single {cs : List Char} (hlower : ∀ c ∈ cs, ¬ isUppercase c)
    (hsingle : Single cs) : snakeCase cs = cs :=
  snakeFrom_of_single hlower hsingle

end Stencil.Text
