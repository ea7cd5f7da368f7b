import Stencil.Proofs.Text.References

/-!
# Texts with references

Reading a text from the left cuts it into pieces, each a reference or a single character
(`Scanned`). What the pieces stand for is the text with its references replaced.

* `Scanned.unique`, `exists_scanned` — a text is read in one way
* `scanned_unescape` — reading replaces references and keeps all else
* `Scanned.denoted_eq_iff` — signs make a difference where a number is read that has one
-/

namespace Stencil.Text

/-! ## Pieces -/

/-- A text is read from the left piece by piece. Where a reference begins it is the next piece, and
stands for the character that it denotes; any other character is a piece and stands for itself. -/
inductive Scanned (R : List Char → Char → Prop) : List Char → List (List Char × Char) → Prop
  | nil : Scanned R [] []
  | reference {r rest : List Char} {c : Char} {pieces : List (List Char × Char)} (h : R r c)
      (more : Scanned R rest pieces) : Scanned R (r ++ rest) ((r, c) :: pieces)
  | kept {rest : List Char} {c : Char} {pieces : List (List Char × Char)}
      (h : ∀ r d, R r d → ¬ r <+: c :: rest) (more : Scanned R rest pieces) :
      Scanned R (c :: rest) (([c], c) :: pieces)

/-- What the pieces of a text stand for. -/
def denoted (pieces : List (List Char × Char)) : List Char :=
  pieces.map (·.2)

/-- References that have a length, and of which at most one begins a text. -/
structure Distinct (R : List Char → Char → Prop) : Prop where
  ne_nil : ∀ {r c}, R r c → r ≠ []
  eq_of_prefix : ∀ {r r' c c' cs}, R r c → R r' c' → r <+: cs → r' <+: cs → r = r' ∧ c = c'

section Pieces

variable {R : List Char → Char → Prop} {r rest cs : List Char} {c : Char}
  {pieces pieces' : List (List Char × Char)}

theorem Distinct.of_le {S : List Char → Char → Prop} (hS : ∀ r c, S r c → R r c)
    (hR : Distinct R) : Distinct S :=
  ⟨fun h => hR.ne_nil (hS _ _ h), fun h h' => hR.eq_of_prefix (hS _ _ h) (hS _ _ h')⟩

theorem Scanned.of_reference (hR : Distinct R) (h : R r c) (hscan : Scanned R (r ++ rest) pieces) :
    ∃ more, pieces = (r, c) :: more ∧ Scanned R rest more := by
  generalize htext : r ++ rest = text at hscan
  cases hscan with
  | nil => exact absurd (List.append_eq_nil_iff.mp htext).1 (hR.ne_nil h)
  | @reference r' rest' c' more h' hmore =>
    have hbegins : r <+: r' ++ rest' := htext ▸ List.prefix_append r rest
    obtain ⟨rfl, rfl⟩ := hR.eq_of_prefix h h' hbegins (List.prefix_append r' rest')
    rw [List.append_cancel_left htext]
    exact ⟨more, rfl, hmore⟩
  | kept hno hmore => exact absurd (htext ▸ List.prefix_append r rest) (hno r c h)

theorem Scanned.of_kept (h : ∀ r d, R r d → ¬ r <+: c :: rest)
    (hscan : Scanned R (c :: rest) pieces) :
    ∃ more, pieces = ([c], c) :: more ∧ Scanned R rest more := by
  generalize htext : c :: rest = text at hscan
  cases hscan with
  | nil => cases htext
  | @reference r' rest' c' more h' hmore =>
    exact absurd (htext ▸ List.prefix_append r' rest') (h r' c' h')
  | kept hno hmore =>
    obtain ⟨rfl, rfl⟩ := List.cons_eq_cons.mp htext
    exact ⟨_, rfl, hmore⟩

/-- A text is read in one way. -/
theorem Scanned.unique (hR : Distinct R) (h : Scanned R cs pieces) (h' : Scanned R cs pieces') :
    pieces = pieces' := by
  induction h generalizing pieces' with
  | nil =>
    generalize htext : [] = text at h'
    cases h' with
    | nil => rfl
    | reference hr _ => exact absurd (List.append_eq_nil_iff.mp htext.symm).1 (hR.ne_nil hr)
    | kept _ _ => cases htext
  | reference hr _ ih =>
    obtain ⟨more, rfl, hmore⟩ := h'.of_reference hR hr
    rw [ih hmore]
  | kept hno _ ih =>
    obtain ⟨more, rfl, hmore⟩ := h'.of_kept hno
    rw [ih hmore]

/-- Every text can be read. -/
theorem exists_scanned (hR : Distinct R) (cs : List Char) : ∃ pieces, Scanned R cs pieces := by
  induction hlength : cs.length using Nat.strongRecOn generalizing cs with
  | _ n ih =>
    by_cases hsome : ∃ r c rest, R r c ∧ cs = r ++ rest
    · obtain ⟨r, c, rest, hr, rfl⟩ := hsome
      have hpos := List.length_pos_iff.mpr (hR.ne_nil hr)
      rw [List.length_append] at hlength
      obtain ⟨pieces, hpieces⟩ := ih rest.length (by omega) rest rfl
      exact ⟨_, .reference hr hpieces⟩
    · cases cs with
      | nil => exact ⟨[], .nil⟩
      | cons c rest =>
        rw [List.length_cons] at hlength
        obtain ⟨pieces, hpieces⟩ := ih rest.length (by omega) rest rfl
        refine ⟨_, .kept (fun r d hr => ?_) hpieces⟩
        rintro ⟨more, hmore⟩
        exact hsome ⟨r, d, more, hr, hmore.symm⟩

/-- Characters that begin no reference are kept. -/
theorem Scanned.of_append_kept (hR : Distinct R) {front : List Char}
    (h : ∀ c ∈ front, ∀ r d, R r d → r.head? ≠ some c) (hscan : Scanned R (front ++ rest) pieces) :
    ∃ more, Scanned R rest more ∧ pieces.length = front.length + more.length := by
  induction front generalizing pieces with
  | nil => exact ⟨pieces, hscan, by simp⟩
  | cons c front ih =>
    obtain ⟨hc, hfront⟩ := List.forall_mem_cons.mp h
    have hno : ∀ r d, R r d → ¬ r <+: c :: (front ++ rest) := by
      rintro r d hr ⟨more, hmore⟩
      cases r with
      | nil => exact hR.ne_nil hr rfl
      | cons c' r =>
        refine hc _ d hr ?_
        rw [(List.cons_eq_cons.mp hmore).1]
        rfl
    obtain ⟨more, rfl, hmore⟩ := hscan.of_kept hno
    obtain ⟨more', hmore', hlength⟩ := ih hfront hmore
    refine ⟨more', hmore', ?_⟩
    rw [List.length_cons, List.length_cons, hlength]
    omega

end Pieces

/-! ## What is read -/

/-- Of the references only the one up to the first semicolon can begin a text. -/
theorem Reference.eq_of_prefix {r name after : List Char} {c : Char} (h : Reference readSigns r c)
    (hname : ';' ∉ name) (hbegins : r <+: '&' :: (name ++ ';' :: after)) :
    r = '&' :: (name ++ [';']) := by
  obtain ⟨name', rfl, -, hnamed⟩ := h
  obtain ⟨more, hmore⟩ := hbegins
  rw [List.cons_append, List.append_assoc] at hmore
  rw [eq_of_append_cons (hnamed.not_mem (.inr rfl)) hname (List.cons_eq_cons.mp hmore).2]

theorem distinct_reference : Distinct (Reference readSigns) := by
  constructor
  · rintro r c ⟨name, rfl, -⟩
    exact List.cons_ne_nil _ _
  · rintro r r' c c' cs ⟨name, rfl, hlength, hnamed⟩ hr' ⟨after, rfl⟩ hbegins
    rw [List.cons_append, List.append_assoc] at hbegins
    have hr : r' = '&' :: (name ++ [';']) := hr'.eq_of_prefix (hnamed.not_mem (.inr rfl)) hbegins
    subst hr
    obtain ⟨name', heq, -, hnamed'⟩ := hr'
    obtain rfl : name = name' := List.append_cancel_right (List.cons_eq_cons.mp heq).2
    have hdenoted := namedChar?_eq_some_iff.mpr hnamed
    rw [namedChar?_eq_some_iff.mpr hnamed'] at hdenoted
    exact ⟨rfl, (Option.some.inj hdenoted).symm⟩

theorem Reference.head? {signs : List (List Char)} {r : List Char} {c : Char}
    (h : Reference signs r c) : r.head? = some '&' := by
  obtain ⟨name, rfl, -⟩ := h
  rfl

theorem Reference.not_begins {signs : List (List Char)} {r rest : List Char} {c d : Char}
    (h : Reference signs r d) (hc : c ≠ '&') : ¬ r <+: c :: rest := by
  rintro ⟨after, hafter⟩
  have hhead := congrArg List.head? hafter
  rw [List.head?_append, h.head?] at hhead
  exact hc (Option.some.inj hhead).symm

/-- Where nothing is read as a reference, none begins. -/
theorem not_begins_of_reference?_eq_none {rest r : List Char} {c : Char}
    (hnone : reference? rest = none) (h : Reference readSigns r c) : ¬ r <+: '&' :: rest := by
  rintro ⟨after, hafter⟩
  obtain ⟨name, rfl, -, hnamed⟩ := id h
  rw [List.cons_append, List.append_assoc] at hafter
  have hsome : reference? (name ++ ';' :: after) = some (c, name.length) :=
    (reference?_eq_some_iff (hnamed.not_mem (.inr rfl))).mpr ⟨rfl, h⟩
  rw [← (List.cons_eq_cons.mp hafter).2] at hnone
  exact Option.some_ne_none _ (hsome.symm.trans hnone)

/-- What is read as a reference is one. -/
theorem exists_of_reference?_eq_some {rest : List Char} {c : Char} {length : Nat}
    (h : reference? rest = some (c, length)) : ∃ name after, rest = name ++ ';' :: after ∧
      length = name.length ∧ Reference readSigns ('&' :: (name ++ [';'])) c := by
  have hsemicolon : ';' ∈ rest := by
    by_contra hnot
    rw [reference?_of_not_mem hnot] at h
    cases h
  obtain ⟨name, after, rfl, hname⟩ := List.eq_append_cons_of_mem hsemicolon
  exact ⟨name, after, rfl, (reference?_eq_some_iff hname).mp h⟩

/-- Reading replaces references by what they denote and keeps all else. -/
theorem scanned_unescape (cs : List Char) :
    ∃ pieces, Scanned (Reference readSigns) cs pieces ∧ denoted pieces = unescape cs := by
  induction hcount : cs.length using Nat.strongRecOn generalizing cs with
  | _ n ih =>
    cases cs with
    | nil => exact ⟨[], .nil, rfl⟩
    | cons c rest =>
      rw [List.length_cons] at hcount
      obtain ⟨pieces, hpieces, hdenoted⟩ := ih rest.length (by omega) rest rfl
      by_cases hc : c = '&'
      · subst hc
        cases hreference : reference? rest with
        | none =>
          have hnot := fun r d => not_begins_of_reference?_eq_none (r := r) (c := d) hreference
          refine ⟨_, .kept hnot hpieces, ?_⟩
          rw [unescape_cons_reference, hreference, ← hdenoted]
          rfl
        | some found =>
          obtain ⟨d, length⟩ := found
          obtain ⟨name, after, rfl, rfl, hr⟩ := exists_of_reference?_eq_some hreference
          rw [List.length_append, List.length_cons] at hcount
          obtain ⟨pieces, hpieces, hdenoted⟩ := ih after.length (by omega) after rfl
          have hscan := Scanned.reference hr hpieces
          rw [List.cons_append, List.append_assoc] at hscan
          refine ⟨_, hscan, ?_⟩
          have hdrop : (name ++ ';' :: after).drop (name.length + 1) = after := by simp
          rw [unescape_cons_reference, hreference]
          simp only [hdrop, ← hdenoted]
          rfl
      · refine ⟨_, .kept (fun r d hr => hr.not_begins hc) hpieces, ?_⟩
        have hmem : '&' ∉ [c] := by simpa using Ne.symm hc
        have hkept := unescape_append hmem rest
        rw [List.singleton_append, List.singleton_append] at hkept
        rw [hkept, ← hdenoted]
        rfl

/-! ## Signs -/

theorem unsigned_subset : unsigned ⊆ readSigns := by decide

theorem distinct_unsigned : Distinct (Reference unsigned) :=
  distinct_reference.of_le fun _ _ h => h.mono unsigned_subset

/-- A reference that is only read with a plus sign is kept by a reading without signs. -/
theorem Scanned.of_signed {r rest : List Char} {c : Char} {pieces : List (List Char × Char)}
    (h : Reference readSigns r c) (hsigned : ¬ Reference unsigned r c)
    (hscan : Scanned (Reference unsigned) (r ++ rest) pieces) :
    ∃ more, Scanned (Reference unsigned) rest more ∧ more.length + 1 < pieces.length := by
  have hno : ∀ r' d, Reference unsigned r' d → ¬ r' <+: r ++ rest := by
    intro r' d hr' hbegins
    obtain ⟨rfl, rfl⟩ := distinct_reference.eq_of_prefix (hr'.mono unsigned_subset) h hbegins
      (List.prefix_append r rest)
    exact hsigned hr'
  obtain ⟨name, rfl, -, hnamed⟩ := h
  obtain ⟨more, rfl, hmore⟩ := hscan.of_kept hno
  have hinner : ∀ c ∈ name ++ [';'], ∀ r d, Reference unsigned r d → r.head? ≠ some c := by
    intro c hc r d hr heq
    obtain rfl : '&' = c := Option.some.inj (hr.head?.symm.trans heq)
    rcases List.mem_append.mp hc with hname | hlast
    · exact hnamed.not_mem (.inl rfl) hname
    · exact absurd hlast (by decide)
  obtain ⟨more', hmore', hlength⟩ := Scanned.of_append_kept distinct_unsigned hinner hmore
  refine ⟨more', hmore', ?_⟩
  rw [List.length_cons, hlength, List.length_append, List.length_singleton]
  omega

theorem not_reference_singleton {signs : List (List Char)} (c d : Char) :
    ¬ Reference signs [c] d := by
  rintro ⟨name, heq, -⟩
  simpa using congrArg List.length heq

/-- Every reference that is read with a plus sign makes the reading shorter. -/
theorem Scanned.length_le {cs : List Char} {pieces genuine : List (List Char × Char)}
    (h : Scanned (Reference readSigns) cs pieces)
    (hgenuine : Scanned (Reference unsigned) cs genuine) :
    pieces.length ≤ genuine.length ∧
      ∀ p ∈ pieces, Reference readSigns p.1 p.2 → ¬ Reference unsigned p.1 p.2 →
        pieces.length < genuine.length := by
  induction h generalizing genuine with
  | nil => exact ⟨Nat.zero_le _, by simp⟩
  | @reference r rest c pieces hr _ ih =>
    by_cases hunsigned : Reference unsigned r c
    · obtain ⟨more, rfl, hmore⟩ := hgenuine.of_reference distinct_unsigned hunsigned
      obtain ⟨hle, hlt⟩ := ih hmore
      refine ⟨Nat.succ_le_succ hle, List.forall_mem_cons.mpr ⟨fun _ hnot => ?_, ?_⟩⟩
      · exact absurd hunsigned hnot
      · exact fun p hp hread hnot => Nat.succ_lt_succ (hlt p hp hread hnot)
    · obtain ⟨more, hmore, hlength⟩ := Scanned.of_signed hr hunsigned hgenuine
      have hlt : pieces.length + 1 < genuine.length :=
        Nat.lt_of_le_of_lt (Nat.succ_le_succ (ih hmore).1) hlength
      exact ⟨hlt.le, fun _ _ _ _ => hlt⟩
  | @kept rest c pieces hno _ ih =>
    have hno' : ∀ r d, Reference unsigned r d → ¬ r <+: c :: rest := fun r d hr =>
      hno r d (hr.mono unsigned_subset)
    obtain ⟨more, rfl, hmore⟩ := hgenuine.of_kept hno'
    obtain ⟨hle, hlt⟩ := ih hmore
    refine ⟨Nat.succ_le_succ hle, List.forall_mem_cons.mpr ⟨fun hread _ => ?_, ?_⟩⟩
    · exact absurd hread (not_reference_singleton c c)
    · exact fun p hp hread hnot => Nat.succ_lt_succ (hlt p hp hread hnot)

theorem Scanned.of_unsigned {cs : List Char} {pieces : List (List Char × Char)}
    (h : Scanned (Reference readSigns) cs pieces)
    (hunsigned : ∀ p ∈ pieces, Reference readSigns p.1 p.2 → Reference unsigned p.1 p.2) :
    Scanned (Reference unsigned) cs pieces := by
  induction h with
  | nil => exact .nil
  | reference hr _ ih =>
    obtain ⟨hfirst, hrest⟩ := List.forall_mem_cons.mp hunsigned
    exact .reference (hfirst hr) (ih hrest)
  | kept hno _ ih =>
    obtain ⟨-, hrest⟩ := List.forall_mem_cons.mp hunsigned
    exact .kept (fun r d hr => hno r d (hr.mono unsigned_subset)) (ih hrest)

/-- Signs make a difference exactly where a number is read that has one. -/
theorem Scanned.denoted_eq_iff {cs : List Char} {pieces genuine : List (List Char × Char)}
    (h : Scanned (Reference readSigns) cs pieces)
    (hgenuine : Scanned (Reference unsigned) cs genuine) :
    denoted pieces = denoted genuine ↔
      ∀ p ∈ pieces, Reference readSigns p.1 p.2 → Reference unsigned p.1 p.2 := by
  constructor
  · intro heq p hp hread
    by_contra hnot
    have hlt := (h.length_le hgenuine).2 p hp hread hnot
    have hlength := congrArg List.length heq
    rw [denoted, denoted, List.length_map, List.length_map] at hlength
    omega
  · intro hunsigned
    rw [(h.of_unsigned hunsigned).unique distinct_unsigned hgenuine]

end Stencil.Text
