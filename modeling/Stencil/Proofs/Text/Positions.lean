import Mathlib.Data.String.Basic
import Stencil.Proofs.Text.Parts
import Stencil.Text.Entity
import Stencil.Text.StripTags

/-!
# Reading texts by positions

A program that holds texts as UTF-8 cuts them at positions counted in bytes, and it stops where a
position is beyond the end or inside of a character (`splitAt?`). This is how tags are removed and
references are read by such positions. All positions turn out to be between characters, so the
reading always comes to its end, and it gives what is read without positions.

* `splitAt?_append` — a text can be cut behind any part that it begins with
* `rounds?_eq` — a loop that goes through a text comes to its end
* `stripTags?_eq`, `unescape?_eq` — neither reading is cut off
-/

namespace Stencil.Text

open String (utf8Len utf8Len_append)

/-! ## Positions -/

/-- What stands before and behind a position. There is neither where the position is beyond the end
or inside of a character. -/
def splitAt? : Nat → List Char → Option (List Char × List Char)
  | 0, cs => some ([], cs)
  | _ + 1, [] => none
  | n + 1, c :: cs =>
    if c.utf8Size ≤ n + 1 then
      (splitAt? (n + 1 - c.utf8Size) cs).map fun (before, after) => (c :: before, after)
    else none

/-- What stands between two positions, of which the second must not be before the first. -/
def between? (start stop : Nat) (cs : List Char) : Option (List Char) :=
  if start ≤ stop then do
    let (before, _) ← splitAt? stop cs
    let (_, part) ← splitAt? start before
    return part
  else none

/-- The position of the leftmost place of a character. -/
def position? (wanted : Char) (cs : List Char) : Option Nat :=
  (cut? [wanted] cs).map fun (before, _) => utf8Len before

/-- A text can be cut behind any part that it begins with. -/
theorem splitAt?_append (before after : List Char) :
    splitAt? (utf8Len before) (before ++ after) = some (before, after) := by
  induction before with
  | nil => cases after <;> rfl
  | cons c before ih =>
    obtain ⟨n, hn⟩ : ∃ n, utf8Len before + c.utf8Size = n + 1 :=
      Nat.exists_eq_succ_of_ne_zero (by have := c.utf8Size_pos; omega)
    have hrest : n + 1 - c.utf8Size = utf8Len before := by omega
    rw [String.utf8Len_cons, hn, List.cons_append, splitAt?, if_pos (by omega), hrest, ih]
    rfl

theorem between?_append (before part after : List Char) :
    between? (utf8Len before) (utf8Len (before ++ part)) (before ++ part ++ after) =
      some part := by
  simp only [between?, utf8Len_append, Nat.le_add_right, if_true, Option.bind_eq_bind]
  rw [← utf8Len_append, splitAt?_append, Option.bind_some]
  simp only [splitAt?_append]
  rfl

/-- A text can be cut behind a character of one byte. -/
theorem splitAt?_append_cons {c : Char} (hc : c.utf8Size = 1) (before after : List Char) :
    splitAt? (utf8Len before + 1) (before ++ c :: after) = some (before ++ [c], after) := by
  simpa [hc] using splitAt?_append (before ++ [c]) after

theorem cut?_append_cons {wanted : Char} {before : List Char} (h : wanted ∉ before)
    (after : List Char) : cut? [wanted] (before ++ wanted :: after) = some (before, after) := by
  induction before with
  | nil => simp [cut?, List.isPrefixOf?]
  | cons c before ih =>
    obtain ⟨hc, hbefore⟩ := not_or.mp (mt List.mem_cons.mpr h)
    have hne : (wanted == c) = false := beq_eq_false_iff_ne.mpr hc
    simp [cut?, isPrefixOf?_cons, hne, ih hbefore]

theorem cut?_of_not_mem {wanted : Char} {cs : List Char} (h : wanted ∉ cs) :
    cut? [wanted] cs = none := by
  rw [← Option.not_isSome_iff_eq_none, cut?_isSome_iff]
  rintro ⟨before, after, rfl⟩
  simp at h

theorem position?_append {wanted : Char} {before : List Char} (h : wanted ∉ before)
    (after : List Char) : position? wanted (before ++ wanted :: after) = some (utf8Len before) := by
  rw [position?, cut?_append_cons h]
  rfl

theorem position?_of_not_mem {wanted : Char} {cs : List Char} (h : wanted ∉ cs) :
    position? wanted cs = none := by
  rw [position?, cut?_of_not_mem h]
  rfl

/-! ## Loops through a text -/

/-- A loop that reads a text. A round writes a part and says what is left to read, or leaves all of
it as it is. There is no result where a round stops the program or does not go on in the text. -/
def rounds? (round : List Char → Option (Option (List Char × List Char))) (cs : List Char) :
    Option (List Char) :=
  match round cs with
  | none => none
  | some none => some cs
  | some (some (written, rest)) =>
    if rest.length < cs.length then (rounds? round rest).map (written ++ ·) else none
termination_by cs.length

/-- A loop comes to its end, and gives what a reading gives, if every round does one step of it. -/
theorem rounds?_eq {round : List Char → Option (Option (List Char × List Char))}
    {reading : List Char → List Char}
    (hround : ∀ cs, (round cs = some none ∧ reading cs = cs) ∨
      ∃ written rest, round cs = some (some (written, rest)) ∧ rest.length < cs.length ∧
        reading cs = written ++ reading rest) (cs : List Char) :
    rounds? round cs = some (reading cs) := by
  rcases hround cs with ⟨hend, hreading⟩ | ⟨written, rest, hnext, hlt, hreading⟩
  · rw [rounds?, hend, hreading]
  · rw [rounds?, hnext]
    simp only [hlt, if_true, rounds?_eq hround rest, Option.map_some, hreading]
termination_by cs.length
decreasing_by exact hlt

/-! ## Tags -/

/-- A round of removing tags: the text up to a `<` is written, and the tag that begins there is
passed over, or the `<` is written as well. -/
def tagRound? (cs : List Char) : Option (Option (List Char × List Char)) :=
  match position? '<' cs with
  | none => some none
  | some start => do
    let (before, _) ← splitAt? start cs
    let (_, after) ← splitAt? (start + 1) cs
    match (position? '>' after).filter (0 < ·) with
    | some stop =>
      let (_, rest) ← splitAt? (stop + 1) after
      return some (before, rest)
    | none => return some (before ++ ['<'], after)

/-- The text without its tags, by positions. -/
def stripTags? (cs : List Char) : Option (List Char) :=
  rounds? tagRound? cs

theorem stripTags_append {before : List Char} (h : '<' ∉ before) (cs : List Char) :
    stripTags (before ++ cs) = before ++ stripTags cs := by
  induction before with
  | nil => rfl
  | cons c before ih =>
    obtain ⟨hc, hbefore⟩ := not_or.mp (mt List.mem_cons.mpr h)
    rw [List.cons_append, stripTags, if_neg (Ne.symm hc), ih hbefore, List.cons_append]

theorem stripTags_of_not_mem {cs : List Char} (h : '<' ∉ cs) : stripTags cs = cs := by
  simpa [stripTags] using stripTags_append h []

theorem stripTags_of_tag {after rest : List Char} (h : afterTag? after = some rest) :
    stripTags ('<' :: after) = stripTags rest := by
  rw [stripTags, if_pos rfl]
  split
  · rename_i found hfound
    rw [h] at hfound
    rw [Option.some.inj hfound]
  · rename_i hnone
    rw [h] at hnone
    cases hnone

theorem stripTags_of_no_tag {after : List Char} (h : afterTag? after = none) :
    stripTags ('<' :: after) = '<' :: stripTags after := by
  rw [stripTags, if_pos rfl]
  split
  · rename_i found hfound
    rw [h] at hfound
    cases hfound
  · rfl

/-- Behind a `<`, the position of a `>` that is not the next character ends a tag. -/
theorem afterTag?_positions (after : List Char) :
    (afterTag? after = none ∧ (position? '>' after).filter (0 < ·) = none) ∨
      ∃ inside rest, afterTag? after = some rest ∧ after = inside ++ '>' :: rest ∧
        (position? '>' after).filter (0 < ·) = some (utf8Len inside) := by
  by_cases hmem : '>' ∈ after
  · obtain ⟨inside, rest, rfl, hinside⟩ := List.eq_append_cons_of_mem hmem
    rw [afterTag?, cut?_append_cons hinside, position?_append hinside]
    cases inside with
    | nil => exact .inl ⟨rfl, rfl⟩
    | cons c inside =>
      have hpos : 0 < utf8Len (c :: inside) := by
        have := c.utf8Size_pos
        simp only [String.utf8Len_cons]
        omega
      exact .inr ⟨c :: inside, rest, rfl, rfl, by simp only [Option.filter_some, hpos]; rfl⟩
  · rw [afterTag?, cut?_of_not_mem hmem, position?_of_not_mem hmem]
    exact .inl ⟨rfl, rfl⟩

/-- Removing tags by positions is not cut off. -/
theorem stripTags?_eq (cs : List Char) : stripTags? cs = some (stripTags cs) := by
  refine rounds?_eq (fun cs => ?_) cs
  by_cases hmem : '<' ∈ cs
  · obtain ⟨before, after, rfl, hbefore⟩ := List.eq_append_cons_of_mem hmem
    refine .inr ?_
    simp only [tagRound?, position?_append hbefore, splitAt?_append,
      splitAt?_append_cons (c := '<') rfl, Option.bind_eq_bind, Option.bind_some,
      stripTags_append hbefore]
    rcases afterTag?_positions after with ⟨htag, hposition⟩ | ⟨inside, rest, htag, rfl, hposition⟩
    · rw [hposition, stripTags_of_no_tag htag]
      exact ⟨before ++ ['<'], after, rfl, by simp; omega, by simp⟩
    · rw [hposition, stripTags_of_tag htag]
      simp only [splitAt?_append_cons (c := '>') rfl]
      exact ⟨before, rest, rfl, by simp; omega, rfl⟩
  · refine .inl ⟨?_, stripTags_of_not_mem hmem⟩
    rw [tagRound?, position?_of_not_mem hmem]

/-! ## References -/

/-- What the reference denotes that a text begins with, and the position where it ends. -/
def referenceAt? (cs : List Char) : Option (Option (Char × Nat)) :=
  match (position? ';' cs).filter (· ≤ 10) with
  | none => some none
  | some stop => (between? 1 stop cs).map fun name => (namedChar? name).map (·, stop)

/-- A round of reading references: the text up to an `&` is written, and then what the reference
denotes that begins there, or the `&` itself. -/
def referenceRound? (cs : List Char) : Option (Option (List Char × List Char)) :=
  match position? '&' cs with
  | none => some none
  | some start => do
    let (before, rest) ← splitAt? start cs
    match ← referenceAt? rest with
    | some (denoted, stop) =>
      let (_, after) ← splitAt? (stop + 1) rest
      return some (before ++ [denoted], after)
    | none =>
      let (_, after) ← splitAt? 1 rest
      return some (before ++ ['&'], after)

/-- The text with its references replaced by what they denote, by positions. -/
def unescape? (cs : List Char) : Option (List Char) :=
  rounds? referenceRound? cs

theorem unescapeFrom_eq (skip : Nat) (cs : List Char) :
    unescapeFrom skip cs = unescape (cs.drop skip) := by
  induction cs generalizing skip with
  | nil => simp [unescape, unescapeFrom]
  | cons c cs ih =>
    cases skip with
    | zero => rfl
    | succ skip => rw [unescapeFrom, ih, List.drop_succ_cons]

theorem unescape_append {before : List Char} (h : '&' ∉ before) (cs : List Char) :
    unescape (before ++ cs) = before ++ unescape cs := by
  induction before with
  | nil => rfl
  | cons c before ih =>
    obtain ⟨hc, hbefore⟩ := not_or.mp (mt List.mem_cons.mpr h)
    rw [List.cons_append, unescape, unescapeFrom, if_neg (Ne.symm hc), unescapeFrom_eq,
      List.drop_zero, ih hbefore, List.cons_append]

theorem unescape_of_not_mem {cs : List Char} (h : '&' ∉ cs) : unescape cs = cs := by
  simpa [unescape, unescapeFrom] using unescape_append h []

theorem unescape_cons_reference (cs : List Char) :
    unescape ('&' :: cs) =
      match reference? cs with
      | some (denoted, length) => denoted :: unescape (cs.drop (length + 1))
      | none => '&' :: unescape cs := by
  rw [unescape, unescapeFrom, if_pos rfl]
  cases reference? cs with
  | none => rfl
  | some found => simp only [unescapeFrom_eq]

theorem reference?_append {name : List Char} (h : ';' ∉ name) (after : List Char) :
    reference? (name ++ ';' :: after) =
      if name.length ≤ maxNameLength then (namedChar? name).map (·, name.length) else none := by
  have hname : ∀ c ∈ name, (decide (c ≠ ';')) = true := fun c hc =>
    decide_eq_true fun heq => h (heq ▸ hc)
  rw [reference?]
  by_cases hle : name.length ≤ maxNameLength
  · have htake : (name ++ ';' :: after).take (maxNameLength + 1) =
        name ++ ';' :: after.take (maxNameLength - name.length) := by
      rw [List.take_append, List.take_of_length_le (by omega),
        show maxNameLength + 1 - name.length = (maxNameLength - name.length) + 1 by omega,
        List.take_succ_cons]
    rw [htake, List.takeWhile_append_of_pos hname]
    simp [hle]
  · have htake : (name ++ ';' :: after).take (maxNameLength + 1) =
        name.take (maxNameLength + 1) := List.take_append_of_le_length (by omega)
    rw [htake, List.takeWhile_eq_self_iff.mpr fun c hc => hname c (List.mem_of_mem_take hc)]
    simp [hle, show ¬ min (maxNameLength + 1) name.length ≤ maxNameLength by omega]

theorem reference?_of_not_mem {cs : List Char} (h : ';' ∉ cs) : reference? cs = none := by
  rw [reference?]
  refine if_neg fun hcond => ?_
  simp only [Bool.and_eq_true, beq_iff_eq] at hcond
  exact h (List.mem_of_mem_drop (List.mem_of_mem_head? hcond.2))

/-! Names of references are ASCII, so a name has as many bytes as characters. -/

theorem utf8Len_eq_length {cs : List Char} (h : ∀ c ∈ cs, c.utf8Size = 1) :
    utf8Len cs = cs.length := by
  induction cs with
  | nil => rfl
  | cons c cs ih =>
    obtain ⟨hc, hcs⟩ := List.forall_mem_cons.mp h
    rw [String.utf8Len_cons, hc, ih hcs, List.length_cons]

theorem utf8Size_of_digit {base n : Nat} {c : Char} (h : digitValue? base c = some n) :
    c.utf8Size = 1 := by
  rw [Char.utf8Size_eq_one_iff, UInt32.le_iff_toNat_le]
  show c.toNat ≤ 127
  simp only [digitValue?, Option.filter_eq_some_iff] at h
  obtain ⟨h, -⟩ := h
  grind

theorem utf8Size_of_digits {base value n : Nat} {cs : List Char}
    (h : digitsValueFrom? base value cs = some n) : ∀ c ∈ cs, c.utf8Size = 1 := by
  induction cs generalizing value with
  | nil => simp
  | cons c cs ih =>
    obtain ⟨digit, hdigit, hrest⟩ := Option.bind_eq_some_iff.mp h
    simpa using ⟨utf8Size_of_digit hdigit, ih hrest⟩

theorem utf8Size_of_natural {base n : Nat} {cs : List Char} (h : natural? base cs = some n) :
    ∀ c ∈ cs, c.utf8Size = 1 := by
  have hdigits {cs : List Char} (h : digitsValue? base cs = some n) : ∀ c ∈ cs, c.utf8Size = 1 := by
    rw [digitsValue?] at h
    split at h
    · cases h
    · exact utf8Size_of_digits h
  unfold natural? at h
  split at h
  · exact List.forall_mem_cons.mpr ⟨rfl, hdigits h⟩
  · exact hdigits h

theorem utf8Size_of_namedChar? {name : List Char} {denoted : Char}
    (h : namedChar? name = some denoted) : ∀ c ∈ name, c.utf8Size = 1 := by
  unfold namedChar? at h
  iterate 5
    split at h
    · subst name
      rw [← List.forall_iff_forall_mem]
      decide
  have hnumber {base : Nat} {digits : List Char}
      (h : (natural? base digits).bind charOfCodePoint? = some denoted) :
      ∀ c ∈ digits, c.utf8Size = 1 := by
    obtain ⟨n, hn, -⟩ := Option.bind_eq_some_iff.mp h
    exact utf8Size_of_natural hn
  split at h
  · exact List.forall_mem_cons.mpr ⟨rfl, List.forall_mem_cons.mpr ⟨rfl, hnumber h⟩⟩
  · exact List.forall_mem_cons.mpr ⟨rfl, List.forall_mem_cons.mpr ⟨rfl, hnumber h⟩⟩
  · exact List.forall_mem_cons.mpr ⟨rfl, hnumber h⟩
  · cases h

theorem referenceAt?_append {name : List Char} (h : ';' ∉ name) (after : List Char) :
    referenceAt? ('&' :: (name ++ ';' :: after)) =
      some (if utf8Len name + 1 ≤ 10 then (namedChar? name).map (·, utf8Len name + 1)
        else none) := by
  have hposition : position? ';' ('&' :: (name ++ ';' :: after)) = some (utf8Len name + 1) :=
    @position?_append ';' ('&' :: name) (by simpa using h) after
  have hbetween : between? 1 (utf8Len name + 1) ('&' :: (name ++ ';' :: after)) = some name :=
    between?_append ['&'] name (';' :: after)
  rw [referenceAt?, hposition]
  by_cases hle : utf8Len name + 1 ≤ 10
  · simp only [Option.filter_some, hle, decide_true, if_true, hbetween, Option.map_some]
  · simp only [Option.filter_some, hle, decide_false, Bool.false_eq_true, if_false]

/-- A text that begins with an `&` is read alike by positions and without them. -/
theorem referenceAt?_cons (cs : List Char) :
    (referenceAt? ('&' :: cs) = some none ∧ reference? cs = none) ∨
      ∃ name after denoted, cs = name ++ ';' :: after ∧
        reference? cs = some (denoted, name.length) ∧
        referenceAt? ('&' :: cs) = some (some (denoted, utf8Len name + 1)) := by
  by_cases hmem : ';' ∈ cs
  · obtain ⟨name, after, rfl, hname⟩ := List.eq_append_cons_of_mem hmem
    rw [referenceAt?_append hname, reference?_append hname]
    cases hdenoted : namedChar? name with
    | none => exact .inl (by simp)
    | some denoted =>
      -- The limit counts bytes there and characters here, which are as many.
      have hbytes : utf8Len name = name.length :=
        utf8Len_eq_length (utf8Size_of_namedChar? hdenoted)
      by_cases hle : name.length ≤ maxNameLength
      · have hle' : utf8Len name + 1 ≤ 10 := by rw [maxNameLength] at hle; omega
        exact .inr ⟨name, after, denoted, rfl, by simp [hle], by simp [hle']⟩
      · have hle' : ¬ utf8Len name + 1 ≤ 10 := by rw [maxNameLength] at hle; omega
        exact .inl ⟨by simp [hle'], by simp [hle]⟩
  · refine .inl ⟨?_, reference?_of_not_mem hmem⟩
    rw [referenceAt?, position?_of_not_mem (by simpa using hmem)]
    rfl

/-- Reading references by positions is not cut off. -/
theorem unescape?_eq (cs : List Char) : unescape? cs = some (unescape cs) := by
  refine rounds?_eq (fun cs => ?_) cs
  by_cases hmem : '&' ∈ cs
  · obtain ⟨before, after, rfl, hbefore⟩ := List.eq_append_cons_of_mem hmem
    refine .inr ?_
    simp only [referenceRound?, position?_append hbefore, splitAt?_append, Option.bind_eq_bind,
      Option.bind_some, unescape_append hbefore, unescape_cons_reference]
    rcases referenceAt?_cons after with ⟨hat, hnone⟩ | ⟨name, rest, denoted, rfl, hsome, hat⟩
    · have hsplit : splitAt? 1 ('&' :: after) = some (['&'], after) :=
        splitAt?_append ['&'] after
      rw [hat, hnone]
      simp only [Option.bind_some, hsplit]
      exact ⟨before ++ ['&'], after, rfl, by simp; omega, by simp⟩
    · have hsplit : splitAt? (utf8Len name + 1 + 1) ('&' :: (name ++ ';' :: rest)) =
          some ('&' :: (name ++ [';']), rest) :=
        splitAt?_append_cons (c := ';') rfl ('&' :: name) rest
      have hdrop : (name ++ ';' :: rest).drop (name.length + 1) = rest := by simp
      rw [hat, hsome]
      simp only [Option.bind_some, hsplit, hdrop]
      exact ⟨before ++ [denoted], rest, rfl, by simp; omega, by simp⟩
  · refine .inl ⟨?_, unescape_of_not_mem hmem⟩
    rw [referenceRound?, position?_of_not_mem hmem]

end Stencil.Text
