import Stencil.Proofs.Text.Places
import Stencil.Proofs.Text.Positions

/-!
# Tags

What is removed from a text as a tag (`IsTag`), and what is left. A `<` that stays is followed at
once by a `>`, or by none at all, so no tag comes about between what stood around another one.

* `exists_divided_stripTags` — the tags are removed at which the text is divided
* `not_contained_stripTags` — no tag is left
* `stripTags_eq_self` — a text without tags stays as it is
-/

namespace Stencil.Text

/-- A `<`, one character or more other than `>`, and a `>`. -/
def IsTag (m : List Char) : Prop :=
  ∃ inside, inside ≠ [] ∧ '>' ∉ inside ∧ m = '<' :: (inside ++ ['>'])

theorem IsTag.ne_nil {m : List Char} (h : IsTag m) : m ≠ [] := by
  obtain ⟨inside, -, -, rfl⟩ := h
  exact List.cons_ne_nil _ _

theorem IsTag.head {m : List Char} {c : Char} {cs : List Char} (h : IsTag m)
    (hbegins : m <+: c :: cs) : c = '<' := by
  obtain ⟨inside, -, -, rfl⟩ := h
  exact (List.cons_prefix_cons.mp hbegins).1.symm

/-- A tag goes up to the first `>`. -/
theorem unambiguous_isTag : Unambiguous IsTag := by
  rintro m m' cs ⟨inside, -, hinside, rfl⟩ ⟨inside', -, hinside', rfl⟩ ⟨after, rfl⟩ ⟨after', heq⟩
  simp only [List.cons_append, List.append_assoc, List.cons.injEq, true_and, List.nil_append]
    at heq
  rw [eq_of_append_cons hinside hinside' heq.symm]

/-! ## What is removed -/

/-- What is read behind a `<` as the rest of a tag. -/
theorem afterTag?_eq_some_iff {cs after : List Char} :
    afterTag? cs = some after ↔
      ∃ inside, inside ≠ [] ∧ '>' ∉ inside ∧ cs = inside ++ '>' :: after := by
  constructor
  · intro h
    unfold afterTag? at h
    split at h
    · rename_i c inside rest hcut
      obtain rfl : rest = after := Option.some.inj h
      refine ⟨c :: inside, List.cons_ne_nil _ _, fun hmem => ?_, by simpa using cut?_eq_some hcut⟩
      -- A `>` inside would stand before the first one.
      obtain ⟨left, right, hinside⟩ := List.append_of_mem hmem
      have hle := cut?_leftmost hcut left (right ++ '>' :: rest) (by simp [hinside])
      rw [hinside, List.length_append, List.length_cons] at hle
      omega
    · cases h
  · rintro ⟨inside, hne, hinside, rfl⟩
    rw [afterTag?, cut?_append_cons hinside]
    cases inside with
    | nil => exact absurd rfl hne
    | cons => rfl

/-- Where nothing is read as a tag, none begins. -/
theorem not_begins_of_afterTag?_eq_none {cs m : List Char} (h : afterTag? cs = none)
    (hm : IsTag m) : ¬ m <+: '<' :: cs := by
  rintro ⟨after, hafter⟩
  obtain ⟨inside, hne, hinside, rfl⟩ := hm
  have hcs : cs = inside ++ '>' :: after := by simpa using (List.cons_eq_cons.mp hafter).2.symm
  rw [afterTag?_eq_some_iff.mpr ⟨inside, hne, hinside, hcs⟩] at h
  cases h

/-- The tags are removed at which the text is divided. -/
theorem exists_divided_stripTags (cs : List Char) :
    ∃ parts, Divided IsTag cs parts ∧ parts.flatten = stripTags cs := by
  cases cs with
  | nil =>
    refine ⟨[[]], .whole fun m hm hinfix => hm.ne_nil (List.infix_nil.mp hinfix), ?_⟩
    rw [stripTags]
    rfl
  | cons c cs =>
    -- Where no tag begins, the character is put in front of the first part of the rest.
    have hkept (hno : ∀ m, IsTag m → ¬ m <+: c :: cs)
        (hstrip : stripTags (c :: cs) = c :: stripTags cs) :
        ∃ parts, Divided IsTag (c :: cs) parts ∧ parts.flatten = stripTags (c :: cs) := by
      obtain ⟨parts, hparts, hflatten⟩ := exists_divided_stripTags cs
      cases parts with
      | nil => exact absurd rfl hparts.ne_nil
      | cons first parts =>
        exact ⟨_, hparts.cons hno, by rw [hstrip, ← hflatten]; rfl⟩
    by_cases hc : c = '<'
    · subst hc
      cases htag : afterTag? cs with
      | none =>
        exact hkept (fun m hm => not_begins_of_afterTag?_eq_none htag hm)
          (stripTags_of_no_tag htag)
      | some after =>
        have hshorter := afterTag?_length_lt htag
        obtain ⟨parts, hparts, hflatten⟩ := exists_divided_stripTags after
        obtain ⟨inside, hne, hinside, rfl⟩ := afterTag?_eq_some_iff.mp htag
        have hdivided := hparts.of_begins ⟨inside, hne, hinside, rfl⟩
        refine ⟨[] :: parts, by simpa using hdivided, ?_⟩
        rw [stripTags_of_tag htag, ← hflatten]
        rfl
    · exact hkept (fun m hm hbegins => hc (hm.head hbegins)) (by rw [stripTags, if_neg hc])
termination_by cs.length
decreasing_by
  · simp
  · rw [List.length_cons]
    omega

/-! ## What is left -/

/-- Each `<` is followed at once by a `>`, or by none. -/
def Tagless (cs : List Char) : Prop :=
  ∀ before after, cs = before ++ '<' :: after → after.head? = some '>' ∨ '>' ∉ after

theorem Tagless.not_contained {cs : List Char} (h : Tagless cs) : ∀ m, IsTag m → ¬ m <:+: cs := by
  rintro m ⟨inside, hne, hinside, rfl⟩ ⟨before, after, heq⟩
  obtain ⟨c, inside, rfl⟩ := List.exists_cons_of_ne_nil hne
  rcases h before (c :: inside ++ '>' :: after) (by simp [← heq]) with hhead | hnone
  · obtain rfl : c = '>' := Option.some.inj hhead
    simp at hinside
  · simp at hnone

theorem Tagless.cons {c : Char} {cs : List Char}
    (hc : c = '<' → cs.head? = some '>' ∨ '>' ∉ cs) (h : Tagless cs) : Tagless (c :: cs) := by
  intro before after heq
  cases before with
  | nil =>
    obtain ⟨rfl, rfl⟩ := List.cons_eq_cons.mp heq
    exact hc rfl
  | cons d before => exact h before after (List.cons_eq_cons.mp heq).2

/-- Nothing is written that is not in the text. -/
theorem stripTags_subset (cs : List Char) : stripTags cs ⊆ cs := by
  fun_induction stripTags cs with
  | case1 => exact List.Subset.refl []
  | case2 rest after htag ih =>
    obtain ⟨inside, -, -, rfl⟩ := afterTag?_eq_some_iff.mp htag
    exact fun c hc => by simp [ih hc]
  | case3 rest _ ih => exact List.cons_subset_cons _ ih
  | case4 c rest _ ih => exact List.cons_subset_cons c ih

theorem tagless_stripTags (cs : List Char) : Tagless (stripTags cs) := by
  fun_induction stripTags cs with
  | case1 => intro before after heq; simp at heq
  | case2 rest after htag ih => exact ih
  | case3 rest htag ih =>
    refine ih.cons fun _ => ?_
    by_cases hmem : '>' ∈ rest
    · -- Only a `>` that comes at once ends no tag, and it is kept.
      obtain ⟨inside, after, rfl, hinside⟩ := List.eq_append_cons_of_mem hmem
      cases inside with
      | nil => exact .inl (by simp [stripTags])
      | cons c inside =>
        rw [afterTag?_eq_some_iff.mpr ⟨c :: inside, List.cons_ne_nil _ _, hinside, rfl⟩] at htag
        cases htag
    · exact .inr fun hkept => hmem (stripTags_subset rest hkept)
  | case4 c rest hc ih => exact ih.cons fun heq => absurd heq hc

/-- No tag is left. -/
theorem not_contained_stripTags (cs : List Char) : ∀ m, IsTag m → ¬ m <:+: stripTags cs :=
  (tagless_stripTags cs).not_contained

/-- A text without tags stays as it is. -/
theorem stripTags_eq_self {cs : List Char} (h : ∀ m, IsTag m → ¬ m <:+: cs) :
    stripTags cs = cs := by
  obtain ⟨parts, hparts, hflatten⟩ := exists_divided_stripTags cs
  obtain rfl := hparts.unique unambiguous_isTag (.whole h)
  rw [← hflatten, List.flatten_singleton]

end Stencil.Text
