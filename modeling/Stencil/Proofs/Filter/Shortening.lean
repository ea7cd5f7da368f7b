import Stencil.Proofs.Filter.Calls
import Stencil.Proofs.Text.Words

/-!
# Shortening

A text is shortened to a number of characters or of words. What comes of it is short enough, with
the suffix counted in, so it is left alone if it is shortened again. A suffix of more characters
than are allowed is all that is left, and stays.

* `truncated_spec`, `truncatedWords_spec` — what a text is shortened to
* `truncated_idem`, `truncatedWords_idem` — shortening again changes nothing
* `shortening_settles` — the filters
-/

namespace Stencil.Filter

open Text (IsWord)

/-! ## Characters -/

/-- The longest part at the front of a text that fits in a number of characters with a suffix behind
it. Nothing is kept if the suffix alone does not fit. -/
structure Kept (limit : Int) (suffix cs kept : List Char) : Prop where
  front : kept <+: cs
  fits : suffix.length ≤ limit → kept.length + suffix.length ≤ limit
  longest : ∀ other, other <+: cs → other.length + suffix.length ≤ limit →
    other.length ≤ kept.length
  eq_nil : limit < suffix.length → kept = []

/-- What a text is shortened to that may have a number of characters. -/
structure Truncated (limit : Int) (suffix cs shortened : List Char) : Prop where
  short : cs.length ≤ limit → shortened = cs
  long : limit < cs.length → ∃ kept, Kept limit suffix cs kept ∧ shortened = kept ++ suffix
  length : limit < cs.length → shortened.length = max limit suffix.length

section Characters

variable {limit : Nat} {suffix cs : List Char}

/-- What is taken from a text that is too long is the longest part that fits. -/
theorem kept_take (_h : limit < cs.length) :
    Kept limit suffix cs (cs.take (limit - suffix.length)) where
  front := List.take_prefix ..
  fits hsuffix := by
    rw [List.length_take]
    omega
  longest other hother hfits := by
    have hle := hother.length_le
    rw [List.length_take]
    omega
  eq_nil hsuffix := by
    rw [show limit - suffix.length = 0 by omega, List.take_zero]

theorem truncated_of_le (h : cs.length ≤ limit) : truncated limit suffix cs = cs :=
  if_pos h

theorem truncated_of_lt (h : limit < cs.length) :
    truncated limit suffix cs = cs.take (limit - suffix.length) ++ suffix :=
  if_neg (Nat.not_le.mpr h)

theorem length_truncated_of_lt (h : limit < cs.length) :
    (truncated limit suffix cs).length = max limit suffix.length := by
  rw [truncated_of_lt h, List.length_append, List.length_take]
  omega

theorem truncated_spec : Truncated limit suffix cs (truncated limit suffix cs) where
  short h := truncated_of_le (by omega)
  long h := ⟨_, kept_take (by omega), truncated_of_lt (by omega)⟩
  length h := by
    rw [length_truncated_of_lt (by omega)]
    omega

/-- Shortening again to the same number of characters changes nothing. -/
theorem truncated_idem :
    truncated limit suffix (truncated limit suffix cs) = truncated limit suffix cs := by
  rcases Nat.lt_or_ge limit cs.length with hlong | hshort
  · have hlength : (truncated limit suffix cs).length = max limit suffix.length :=
      length_truncated_of_lt hlong
    rcases Nat.lt_or_ge limit suffix.length with hsuffix | hsuffix
    · -- Only the suffix is left, from which nothing is kept either.
      have hzero : limit - suffix.length = 0 := by omega
      rw [truncated_of_lt (by omega), truncated_of_lt hlong, hzero, List.take_zero, List.take_zero]
    · exact truncated_of_le (by omega)
  · rw [truncated_of_le hshort, truncated_of_le hshort]

end Characters

/-! ## Words -/

/-- What a text is shortened to that may have a number of words: the suffix is put behind the last
of the words that are left. -/
structure TruncatedWords (limit : Int) (suffix cs shortened : List Char) : Prop where
  short : (Text.words cs).length ≤ limit → shortened = cs
  long : limit < (Text.words cs).length → ∃ front last, front ++ [last] <+: Text.words cs ∧
    Text.words shortened = front ++ [last ++ suffix]
  length : limit < (Text.words cs).length → (Text.words shortened).length = limit

section Words

variable {limit : Nat} {suffix cs : List Char}

theorem truncatedWords_of_le (h : (Text.words cs).length ≤ limit) :
    truncatedWords limit suffix cs = cs :=
  if_pos h

/-- Of a text that has too many words, so many are left, and the suffix belongs to the last one. -/
theorem words_truncatedWords (hlimit : 0 < limit) (hsuffix : ∀ c ∈ suffix, Text.isBlank c = false)
    (h : limit < (Text.words cs).length) :
    ∃ front last, (Text.words cs).take limit = front ++ [last] ∧
      Text.words (truncatedWords limit suffix cs) = front ++ [last ++ suffix] := by
  have hlength : ((Text.words cs).take limit).length = limit := by
    rw [List.length_take]
    omega
  rcases List.eq_nil_or_concat ((Text.words cs).take limit) with hnil | ⟨front, last, htake⟩
  · rw [hnil, List.length_nil] at hlength
    omega
  · rw [List.concat_eq_append] at htake
    have hword : ∀ word ∈ front ++ [last], IsWord word := fun word hmem =>
      Text.isWord_of_mem_words (List.mem_of_mem_take (htake ▸ hmem))
    have hwords : ∀ word ∈ front ++ [last ++ suffix], IsWord word := by
      intro word hmem
      rcases List.mem_append.mp hmem with hfront | hlast
      · exact hword word (List.mem_append_left _ hfront)
      · rw [List.mem_singleton.mp hlast]
        exact (hword last (by simp)).append hsuffix
    refine ⟨front, last, htake, ?_⟩
    rw [truncatedWords, if_neg (Nat.not_le.mpr h), htake, Text.intercalate_concat_append,
      Text.words_intercalate hwords]

theorem length_words_truncatedWords (hlimit : 0 < limit)
    (hsuffix : ∀ c ∈ suffix, Text.isBlank c = false) (h : limit < (Text.words cs).length) :
    (Text.words (truncatedWords limit suffix cs)).length = limit := by
  obtain ⟨front, last, htake, hwords⟩ := words_truncatedWords hlimit hsuffix h
  have hlength := congrArg List.length htake
  rw [List.length_take, List.length_append, List.length_singleton] at hlength
  rw [hwords, List.length_append, List.length_singleton]
  omega

theorem truncatedWords_spec (hlimit : 0 < limit) (hsuffix : ∀ c ∈ suffix, Text.isBlank c = false) :
    TruncatedWords limit suffix cs (truncatedWords limit suffix cs) where
  short h := truncatedWords_of_le (by omega)
  long h := by
    have hlong : limit < (Text.words cs).length := by omega
    obtain ⟨front, last, htake, hwords⟩ := words_truncatedWords hlimit hsuffix hlong
    exact ⟨front, last, htake ▸ List.take_prefix .., hwords⟩
  length h := by
    have hlong : limit < (Text.words cs).length := by omega
    rw [length_words_truncatedWords hlimit hsuffix hlong]

/-- Shortening again to the same number of words changes nothing. -/
theorem truncatedWords_idem (hlimit : 0 < limit)
    (hsuffix : ∀ c ∈ suffix, Text.isBlank c = false) :
    truncatedWords limit suffix (truncatedWords limit suffix cs) =
      truncatedWords limit suffix cs := by
  rcases Nat.lt_or_ge limit (Text.words cs).length with hlong | hshort
  · exact truncatedWords_of_le (Nat.le_of_eq (length_words_truncatedWords hlimit hsuffix hlong))
  · rw [truncatedWords_of_le hshort, truncatedWords_of_le hshort]

end Words

/-! ## The filters -/

/-- A call of the filter that shortens to a number of characters. -/
def truncateCall? (site : Site) (s : String) (limit : Value) (suffix : Option Value) :
    Option (Except RuntimeError Value) :=
  standardCall? "truncate" site (.string s) (limit :: suffix.toList)

/-- A call of the filter that shortens to a number of words. -/
def truncateWordsCall? (site : Site) (s : String) (limit : Value) (suffix : Option Value) :
    Option (Except RuntimeError Value) :=
  standardCall? "truncatewords" site (.string s) (limit :: suffix.toList)

section Calls

variable (site : Site) (s : String) (limit : Value) (suffix : Option Value)

theorem truncateCall?_eq :
    truncateCall? site s limit suffix =
      some (.ok (.string (String.ofList
        (truncated limit.toCount (suffixOf site suffix) s.toList)))) := by
  rw [truncateCall?, standardCall?_eq]
  cases suffix <;> rfl

theorem truncateWordsCall?_eq :
    truncateWordsCall? site s limit suffix =
      some (.ok (.string (String.ofList
        (truncatedWords (max limit.toCount 1) (suffixOf site suffix) s.toList)))) := by
  rw [truncateWordsCall?, standardCall?_eq]
  cases suffix <;> rfl

end Calls

theorem natCast_toCount (limit : Value) : (limit.toCount : Int) = max limit.toInt.toInt 0 := by
  rw [Value.toCount]
  omega

/-- What comes of a text in either filter when the suffix has the characters `t`, and what comes of
that again with the same arguments. -/
structure Settles (site : Site) (s : String) (limit : Value) (suffix : Option Value)
    (t : List Char) : Prop where
  characters : ∃ r : String,
    truncateCall? site s limit suffix = some (.ok (.string r)) ∧
    Truncated (max limit.toInt.toInt 0) t s.toList r.toList ∧
    truncateCall? site r limit suffix = some (.ok (.string r))
  words : (∀ c ∈ t, Text.isBlank c = false) → ∃ r : String,
    truncateWordsCall? site s limit suffix = some (.ok (.string r)) ∧
    TruncatedWords (max limit.toInt.toInt 1) t s.toList r.toList ∧
    truncateWordsCall? site r limit suffix = some (.ok (.string r))

theorem settles_suffixOf (site : Site) (s : String) (limit : Value) (suffix : Option Value) :
    Settles site s limit suffix (suffixOf site suffix) where
  characters := by
    refine ⟨_, truncateCall?_eq .., ?_, ?_⟩
    · rw [String.toList_ofList, ← natCast_toCount]
      exact truncated_spec
    · rw [truncateCall?_eq, String.toList_ofList, truncated_idem]
  words hsuffix := by
    refine ⟨_, truncateWordsCall?_eq .., ?_, ?_⟩
    · have hlimit : max limit.toInt.toInt 1 = (max limit.toCount 1 : Nat) := by
        have := natCast_toCount limit
        omega
      rw [String.toList_ofList, hlimit]
      exact truncatedWords_spec (by omega) hsuffix
    · rw [truncateWordsCall?_eq, String.toList_ofList, truncatedWords_idem (by omega) hsuffix]

/-- **Shortened texts stay as they are.** A text of at most so many characters is left alone, and a
longer one is cut to the longest part at its front that fits with the suffix behind it, so it has
just as many characters, or those of the suffix if they are more; a negative number allows none.
Likewise with words, of which one at least is allowed, if there is no white space in the suffix. In
both cases shortening again with the same arguments gives the same text. The suffix is the text that
is given for it, or the text of what is given, or else three points. -/
theorem shortening_settles (site : Site) (s : String) (limit : Value) :
    (∀ t : String, Settles site s limit (some (.string t)) t.toList) ∧
      (∀ suffix, Settles site s limit (some suffix) (site.text suffix)) ∧
      Settles site s limit none ['…'] :=
  ⟨fun t => settles_suffixOf site s limit (some (.string t)),
    fun suffix => settles_suffixOf site s limit (some suffix), settles_suffixOf site s limit none⟩

theorem shortening_settles_threeWords :
    truncateWordsCall? ⟨.none, {}⟩ "one two  three" (.int 2) none =
        some (.ok (.string "one two…")) ∧
      TruncatedWords 2 ['…'] "one two  three".toList "one two…".toList ∧
      truncateWordsCall? ⟨.none, {}⟩ "one two…" (.int 2) none =
        some (.ok (.string "one two…")) := by
  obtain ⟨-, -, hellipsis⟩ := shortening_settles ⟨.none, {}⟩ "one two  three" (.int 2)
  have hsuffix : ∀ c ∈ ['…'], Text.isBlank c = false := List.forall_mem_singleton.mpr (by decide)
  obtain ⟨r, hcall, hwords, hagain⟩ := hellipsis.words hsuffix
  have hcall' : truncateWordsCall? ⟨.none, {}⟩ "one two  three" (.int 2) none =
      some (.ok (.string "one two…")) := by
    rw [truncateWordsCall?_eq]
    rfl
  obtain rfl : "one two…" = r := by simpa using hcall'.symm.trans hcall
  exact ⟨hcall, hwords, hagain⟩

end Stencil.Filter
