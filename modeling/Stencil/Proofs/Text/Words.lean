import Stencil.Text.Blank

/-!
# Words of texts

A word has characters, and none of them is white space. The words of a text are found on both sides
of any white space in it, so words with spaces between them are read back.

* `words_append_blank` — white space divides the words
* `isWord_of_mem_words` — what the words of a text are
* `words_intercalate` — words with spaces between them
-/

namespace Stencil.Text

/-! ## White space between words -/

/-- Splitting a text at white space is splitting the list of its characters. -/
theorem splitBlank_eq (cs : List Char) : splitBlank cs = cs.splitOnP isBlank := by
  induction cs with
  | nil => rfl
  | cons c cs ih =>
    rw [splitBlank, List.splitOnP_cons_eq_if_modifyHead, ← ih]
    split
    · rfl
    · cases hparts : splitBlank cs with
      | nil => exact absurd (ih.symm.trans hparts) (List.splitOnP_ne_nil isBlank cs)
      | cons first parts => rfl

/-- White space divides the words of a text. -/
theorem words_append_blank {c : Char} (h : isBlank c) (xs ys : List Char) :
    words (xs ++ c :: ys) = words xs ++ words ys := by
  rw [words, splitBlank_eq, List.splitOnP_append_cons xs ys h, List.filter_append, words, words,
    splitBlank_eq, splitBlank_eq]

/-! ## Words -/

/-- What a word is: characters that are not white space. -/
structure IsWord (word : List Char) : Prop where
  ne_nil : word ≠ []
  not_isBlank : ∀ c ∈ word, isBlank c = false

theorem IsWord.append {word : List Char} (h : IsWord word) {suffix : List Char}
    (hsuffix : ∀ c ∈ suffix, isBlank c = false) : IsWord (word ++ suffix) where
  ne_nil := List.append_ne_nil_of_left_ne_nil h.ne_nil suffix
  not_isBlank c hc := (List.mem_append.mp hc).elim (h.not_isBlank c) (hsuffix c)

/-- A word is the only one in its text. -/
theorem IsWord.words_eq {word : List Char} (h : IsWord word) : words word = [word] := by
  rw [words, splitBlank_eq, List.splitOnP_eq_singleton h.not_isBlank]
  simp [h.ne_nil]

theorem not_isBlank_of_mem_splitBlank {cs part : List Char} (h : part ∈ splitBlank cs) :
    ∀ c ∈ part, isBlank c = false := by
  induction cs generalizing part with
  | nil =>
    obtain rfl : part = [] := by simpa [splitBlank] using h
    simp
  | cons d cs ih =>
    rw [splitBlank_eq, List.splitOnP_cons_eq_if_modifyHead, ← splitBlank_eq] at h
    by_cases hd : isBlank d
    · rw [if_pos hd, List.mem_cons] at h
      rcases h with rfl | hmem
      · simp
      · exact ih hmem
    · rw [if_neg hd] at h
      cases hparts : splitBlank cs with
      | nil => simp [hparts] at h
      | cons first parts =>
        rw [hparts] at h ih
        rw [List.modifyHead_cons, List.mem_cons] at h
        rcases h with rfl | hmem
        · have hfirst := ih List.mem_cons_self
          rintro c (_ | ⟨_, hc⟩)
          · exact Bool.eq_false_iff.mpr hd
          · exact hfirst c hc
        · exact ih (List.mem_cons_of_mem first hmem)

theorem isWord_of_mem_words {cs word : List Char} (h : word ∈ words cs) : IsWord word := by
  obtain ⟨hpart, hne⟩ := List.mem_filter.mp h
  exact ⟨by simpa using hne, not_isBlank_of_mem_splitBlank hpart⟩

/-! ## Words with spaces between them -/

/-- Words with spaces between them are the words of the text. -/
theorem words_intercalate {ws : List (List Char)} (h : ∀ word ∈ ws, IsWord word) :
    words ([' '].intercalate ws) = ws := by
  induction ws with
  | nil => rfl
  | cons word ws ih =>
    have hword := h word List.mem_cons_self
    have hws := ih fun other hother => h other (List.mem_cons_of_mem word hother)
    cases ws with
    | nil => rw [List.intercalate_singleton, hword.words_eq]
    | cons next ws =>
      have hspace : isBlank ' ' := by decide
      rw [List.intercalate_cons_cons, List.append_assoc, List.singleton_append,
        words_append_blank hspace, hword.words_eq, hws, List.singleton_append]

/-- What is put behind words with spaces between them is put behind the last one. -/
theorem intercalate_concat_append (front : List (List Char)) (last suffix : List Char) :
    [' '].intercalate (front ++ [last]) ++ suffix =
      [' '].intercalate (front ++ [last ++ suffix]) := by
  induction front with
  | nil => simp
  | cons word front ih =>
    cases front with
    | nil => simp [List.intercalate_cons_cons]
    | cons next front =>
      simp only [List.cons_append, List.intercalate_cons_cons, List.append_assoc] at ih ⊢
      rw [ih]

end Stencil.Text
