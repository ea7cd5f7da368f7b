import Mathlib.Data.List.Induction
import Stencil.Power
import Stencil.Proofs.Text.Positions

/-!
# References

What may be written as a reference, as a grammar: numbers in digits of a base (`Numeral`), the names
of characters (`Named`), and references as names between an `&` and a semicolon (`Reference`). What
is read as a reference is just that, where a plus sign may stand in front of digits.

* `digitsValue?_eq_some_iff` — the numbers that are read
* `namedChar?_eq_some_iff` — the names that are known
* `reference?_eq_some_iff` — the references that are read
-/

namespace Stencil.Text

open String (utf8Len)

/-! ## Numerals -/

/-- A digit of a base and its value. -/
def IsDigit (base : Nat) (c : Char) (value : Nat) : Prop :=
  value < base ∧
    ("0123456789abcdef".toList[value]? = some c ∨ "0123456789ABCDEF".toList[value]? = some c)

/-- A number written in digits of a base, of which there is one at least. -/
inductive Numeral (base : Nat) : List Char → Nat → Prop
  | digit {c : Char} {n : Nat} (h : IsDigit base c n) : Numeral base [c] n
  | concat {digits : List Char} {c : Char} {m n : Nat} (more : Numeral base digits m)
      (h : IsDigit base c n) : Numeral base (digits ++ [c]) (m * base + n)

variable {base : Nat}

theorem digitValue?_eq_some_iff (hbase : base ≤ 16) {c : Char} {value : Nat} :
    digitValue? base c = some value ↔ IsDigit base c value := by
  constructor
  · intro h
    have hlt : value < base := by
      simpa using (Option.filter_eq_some_iff.mp h).2
    have hall : ∀ code < 128, ∀ n ∈ digitValue? 16 (Char.ofNat code),
        "0123456789abcdef".toList[n]? = some (Char.ofNat code) ∨
          "0123456789ABCDEF".toList[n]? = some (Char.ofNat code) := by decide
    have hcode : c.toNat < 128 := by
      have hsize := Char.utf8Size_eq_one_iff.mp (utf8Size_of_digit h)
      exact Nat.lt_succ_of_le (UInt32.le_iff_toNat_le.mp hsize)
    have hsixteen : digitValue? 16 c = some value := by
      refine Option.filter_eq_some_iff.mpr ⟨(Option.filter_eq_some_iff.mp h).1, ?_⟩
      simpa using Nat.lt_of_lt_of_le hlt hbase
    have hdigit := hall c.toNat hcode value (by rw [Char.ofNat_toNat]; exact hsixteen)
    rw [Char.ofNat_toNat] at hdigit
    exact ⟨hlt, hdigit⟩
  · rintro ⟨hlt, hdigit⟩
    have hall : ∀ n < 16, ("0123456789abcdef".toList[n]?.all fun c => digitValue? 16 c = some n) ∧
        "0123456789ABCDEF".toList[n]?.all fun c => digitValue? 16 c = some n := by decide
    have hsixteen : digitValue? 16 c = some value := by
      obtain ⟨hsmall, hcapital⟩ := hall value (Nat.lt_of_lt_of_le hlt hbase)
      rcases hdigit with hdigit | hdigit
      · rw [hdigit] at hsmall
        simpa using hsmall
      · rw [hdigit] at hcapital
        simpa using hcapital
    refine Option.filter_eq_some_iff.mpr ⟨(Option.filter_eq_some_iff.mp hsixteen).1, ?_⟩
    simpa using hlt

theorem digitsValue?_concat {digits : List Char} (hne : digits ≠ []) (c : Char) :
    digitsValue? base (digits ++ [c]) =
      (digitsValue? base digits).bind fun m => (digitValue? base c).map (m * base + ·) := by
  obtain ⟨d, ds, rfl⟩ := List.exists_cons_of_ne_nil hne
  show digitsValueFrom? base 0 (d :: ds ++ [c]) = (digitsValueFrom? base 0 (d :: ds)).bind _
  rw [digitsValueFrom?_append]
  congr 1
  funext m
  cases hc : digitValue? base c <;> simp [digitsValueFrom?, hc]

theorem digitsValue?_singleton (c : Char) : digitsValue? base [c] = digitValue? base c := by
  show digitsValueFrom? base 0 [c] = _
  cases hc : digitValue? base c <;> simp [digitsValueFrom?, hc]

theorem Numeral.ne_nil {digits : List Char} {n : Nat} (h : Numeral base digits n) :
    digits ≠ [] := by
  cases h <;> simp

/-- The digits that are read are those of the number. -/
theorem digitsValue?_eq_some_iff (hbase : base ≤ 16) {digits : List Char} {n : Nat} :
    digitsValue? base digits = some n ↔ Numeral base digits n := by
  constructor
  · intro h
    induction digits using List.reverseRecOn generalizing n with
    | nil => cases h
    | append_singleton digits c ih =>
      by_cases hne : digits = []
      · subst hne
        rw [List.nil_append, digitsValue?_singleton] at h
        exact .digit ((digitValue?_eq_some_iff hbase).mp h)
      · rw [digitsValue?_concat hne] at h
        obtain ⟨m, hm, hc⟩ := Option.bind_eq_some_iff.mp h
        obtain ⟨value, hvalue, rfl⟩ := Option.map_eq_some_iff.mp hc
        exact .concat (ih hm) ((digitValue?_eq_some_iff hbase).mp hvalue)
  · intro h
    induction h with
    | digit h =>
      rw [digitsValue?_singleton]
      exact (digitValue?_eq_some_iff hbase).mpr h
    | concat more h ih =>
      rw [digitsValue?_concat more.ne_nil, ih, (digitValue?_eq_some_iff hbase).mpr h]
      rfl

/-- Nothing but digits is in a numeral. -/
theorem Numeral.isDigit {digits : List Char} {n : Nat} (h : Numeral base digits n) :
    ∀ c ∈ digits, ∃ value, IsDigit base c value := by
  induction h with
  | digit h =>
    rw [List.forall_mem_singleton]
    exact ⟨_, h⟩
  | concat more h ih =>
    intro c hc
    rcases List.mem_append.mp hc with hmem | hlast
    · exact ih c hmem
    · rw [List.mem_singleton.mp hlast]
      exact ⟨_, h⟩

/-- A character that is no digit of base 16 is not in a numeral. -/
theorem Numeral.not_mem (hbase : base ≤ 16) {digits : List Char} {n : Nat}
    (h : Numeral base digits n) {c : Char} (hc : digitValue? 16 c = none) : c ∉ digits := by
  intro hmem
  obtain ⟨value, hlt, hdigit⟩ := h.isDigit c hmem
  have hsixteen : IsDigit 16 c value := ⟨Nat.lt_of_lt_of_le hlt hbase, hdigit⟩
  rw [(digitValue?_eq_some_iff (Nat.le_refl 16)).mpr hsixteen] at hc
  cases hc

/-- A number is less than the power of the base by its digits. -/
theorem Numeral.lt_pow {digits : List Char} {n : Nat} (h : Numeral base digits n) :
    n < base ^ digits.length := by
  induction h with
  | digit h => simpa using h.1
  | @concat digits c m n more h ih =>
    calc m * base + n < (m + 1) * base := by
          rw [Nat.succ_mul]
          exact Nat.add_lt_add_left h.1 _
      _ ≤ base ^ digits.length * base := Nat.mul_le_mul_right base ih
      _ = base ^ (digits ++ [c]).length := by
          rw [List.length_append, List.length_singleton, Nat.pow_succ]

/-- The digits of base 10. -/
theorem IsDigit.isDigit {c : Char} {value : Nat} (h : IsDigit 10 c value) : c.isDigit := by
  have hall : ∀ n < 10, ("0123456789abcdef".toList[n]?.all Char.isDigit) ∧
      "0123456789ABCDEF".toList[n]?.all Char.isDigit := by decide
  obtain ⟨hsmall, hcapital⟩ := hall value h.1
  rcases h.2 with hdigit | hdigit
  · rwa [hdigit] at hsmall
  · rwa [hdigit] at hcapital

/-! ## References -/

/-- Words that stand for characters. -/
def characterWords : List (List Char × Char) :=
  [("amp".toList, '&'), ("lt".toList, '<'), ("gt".toList, '>'), ("quot".toList, '"'),
    ("apos".toList, '\x27')]

/-- What may stand between `&` and `;`, and the character that it denotes: a word, or the number of
the character in decimal or hexadecimal digits. One of the given signs stands in front of the
digits. -/
inductive Named (signs : List (List Char)) : List Char → Char → Prop
  | word {name : List Char} {c : Char} (h : (name, c) ∈ characterWords) : Named signs name c
  | decimal {sign digits : List Char} {c : Char} (hsign : sign ∈ signs)
      (h : Numeral 10 digits c.toNat) : Named signs ('#' :: (sign ++ digits)) c
  | hexadecimal {x : Char} {sign digits : List Char} {c : Char} (hx : x = 'x' ∨ x = 'X')
      (hsign : sign ∈ signs) (h : Numeral 16 digits c.toNat) :
      Named signs ('#' :: x :: (sign ++ digits)) c

/-- A reference and the character that it denotes. The semicolon is at most ten bytes behind the
`&`. -/
def Reference (signs : List (List Char)) (r : List Char) (c : Char) : Prop :=
  ∃ name, r = '&' :: (name ++ [';']) ∧ utf8Len ('&' :: name) ≤ 10 ∧ Named signs name c

/-- No sign. -/
def unsigned : List (List Char) := [[]]

/-- The signs that are read. -/
def readSigns : List (List Char) := [[], ['+']]

theorem Named.mono {signs others : List (List Char)} (hsub : signs ⊆ others) {name : List Char}
    {c : Char} (h : Named signs name c) : Named others name c := by
  cases h with
  | word h => exact .word h
  | decimal hsign h => exact .decimal (hsub hsign) h
  | hexadecimal hx hsign h => exact .hexadecimal hx (hsub hsign) h

theorem charOfCodePoint?_eq_some_iff {n : Nat} {c : Char} :
    charOfCodePoint? n = some c ↔ c.toNat = n := by
  unfold charOfCodePoint?
  constructor
  · intro h
    split at h
    · rename_i hvalid
      rw [← Option.some.inj h, Char.ofNat, dif_pos hvalid]
      rfl
    · cases h
  · rintro rfl
    have hvalid : c.toNat.isValidChar := c.valid
    rw [if_pos hvalid, Char.ofNat_toNat]

theorem natural?_eq_some_iff (hbase : base ≤ 16) {cs : List Char} {n : Nat} :
    natural? base cs = some n ↔
      ∃ sign ∈ readSigns, ∃ digits, cs = sign ++ digits ∧ Numeral base digits n := by
  have hunsigned {digits : List Char} (h : digits.head? ≠ some '+') :
      natural? base digits = digitsValue? base digits := by
    unfold natural?
    split
    · exact absurd rfl h
    · rfl
  constructor
  · intro h
    by_cases hplus : cs.head? = some '+'
    · obtain ⟨digits, rfl⟩ : ∃ digits, cs = '+' :: digits := List.head?_eq_some_iff.mp hplus
      exact ⟨['+'], by decide, digits, rfl, (digitsValue?_eq_some_iff hbase).mp h⟩
    · rw [hunsigned hplus] at h
      exact ⟨[], by decide, cs, rfl, (digitsValue?_eq_some_iff hbase).mp h⟩
  · rintro ⟨sign, hsign, digits, rfl, h⟩
    have hdigits := (digitsValue?_eq_some_iff hbase).mpr h
    simp only [readSigns, List.mem_cons, List.not_mem_nil, or_false] at hsign
    rcases hsign with rfl | rfl
    · have hhead : digits.head? ≠ some '+' := fun hplus =>
        h.not_mem hbase rfl (List.mem_of_mem_head? hplus)
      rw [List.nil_append, hunsigned hhead, hdigits]
    · exact hdigits

theorem natural?_bind_eq_some_iff (hbase : base ≤ 16) {cs : List Char} {c : Char} :
    (natural? base cs).bind charOfCodePoint? = some c ↔
      ∃ sign ∈ readSigns, ∃ digits, cs = sign ++ digits ∧ Numeral base digits c.toNat := by
  simp only [Option.bind_eq_some_iff, charOfCodePoint?_eq_some_iff, exists_eq_right',
    natural?_eq_some_iff hbase]

/-- Words are told from numbers by their first character. -/
theorem namedChar?_sharp (cs : List Char) :
    namedChar? ('#' :: cs) =
      match '#' :: cs with
      | '#' :: 'x' :: digits => (natural? 16 digits).bind charOfCodePoint?
      | '#' :: 'X' :: digits => (natural? 16 digits).bind charOfCodePoint?
      | '#' :: digits => (natural? 10 digits).bind charOfCodePoint?
      | _ => none := by
  rfl

theorem namedChar?_number {cs : List Char} (hsmall : cs.head? ≠ some 'x')
    (hcapital : cs.head? ≠ some 'X') :
    namedChar? ('#' :: cs) = (natural? 10 cs).bind charOfCodePoint? := by
  rw [namedChar?_sharp]
  split
  · rename_i heq
    rw [(List.cons_eq_cons.mp heq).2] at hsmall
    exact absurd rfl hsmall
  · rename_i heq
    rw [(List.cons_eq_cons.mp heq).2] at hcapital
    exact absurd rfl hcapital
  · rename_i heq
    rw [(List.cons_eq_cons.mp heq).2]
  · rename_i hother
    exact absurd rfl (hother cs)

theorem namedChar?_hexadecimal {x : Char} (hx : x = 'x' ∨ x = 'X') (cs : List Char) :
    namedChar? ('#' :: x :: cs) = (natural? 16 cs).bind charOfCodePoint? := by
  rcases hx with rfl | rfl <;> rfl

/-- The names that are known are those of the grammar. -/
theorem namedChar?_eq_some_iff {name : List Char} {c : Char} :
    namedChar? name = some c ↔ Named readSigns name c := by
  constructor
  · intro h
    unfold namedChar? at h
    iterate 5
      split at h
      · subst name
        obtain rfl := Option.some.inj h
        exact .word (by decide)
    split at h
    · obtain ⟨sign, hsign, digits, rfl, hdigits⟩ :=
        (natural?_bind_eq_some_iff (by decide)).mp h
      exact .hexadecimal (.inl rfl) hsign hdigits
    · obtain ⟨sign, hsign, digits, rfl, hdigits⟩ :=
        (natural?_bind_eq_some_iff (by decide)).mp h
      exact .hexadecimal (.inr rfl) hsign hdigits
    · obtain ⟨sign, hsign, digits, rfl, hdigits⟩ :=
        (natural?_bind_eq_some_iff (by decide)).mp h
      exact .decimal hsign hdigits
    · cases h
  · intro h
    cases h with
    | word h =>
      simp only [characterWords, List.mem_cons, Prod.mk.injEq, List.not_mem_nil, or_false] at h
      rcases h with ⟨rfl, rfl⟩ | ⟨rfl, rfl⟩ | ⟨rfl, rfl⟩ | ⟨rfl, rfl⟩ | ⟨rfl, rfl⟩ <;> rfl
    | @decimal sign digits c hsign h =>
      have hhead {x : Char} (hx : digitValue? 16 x = none) (hplus : x ≠ '+') :
          (sign ++ digits).head? ≠ some x := by
        intro hsome
        have hmem := List.mem_of_mem_head? hsome
        simp only [readSigns, List.mem_cons, List.not_mem_nil, or_false] at hsign
        rcases hsign with rfl | rfl
        · exact h.not_mem (by decide) hx hmem
        · rcases List.mem_cons.mp hmem with rfl | hdigit
          · exact hplus rfl
          · exact h.not_mem (by decide) hx hdigit
      rw [namedChar?_number (hhead rfl (by decide)) (hhead rfl (by decide))]
      exact (natural?_bind_eq_some_iff (by decide)).mpr ⟨sign, hsign, digits, rfl, h⟩
    | @hexadecimal x sign digits c hx hsign h =>
      rw [namedChar?_hexadecimal hx]
      exact (natural?_bind_eq_some_iff (by decide)).mpr ⟨sign, hsign, digits, rfl, h⟩

/-- No name has an `&` or a semicolon in it. -/
theorem Named.not_mem {name : List Char} {c d : Char} (h : Named readSigns name c)
    (hd : d = '&' ∨ d = ';') : d ∉ name := by
  have hdigit : digitValue? 16 d = none := by rcases hd with rfl | rfl <;> rfl
  have hsharp : d ≠ '#' := by rcases hd with rfl | rfl <;> decide
  have hsigned {base : Nat} (hbase : base ≤ 16) {sign digits : List Char} (hsign : sign ∈ readSigns)
      (h : Numeral base digits c.toNat) : d ∉ sign ++ digits := by
    rw [List.mem_append, not_or]
    refine ⟨fun hmem => ?_, h.not_mem hbase hdigit⟩
    simp only [readSigns, List.mem_cons, List.not_mem_nil, or_false] at hsign
    rcases hsign with rfl | rfl <;> rcases hd with rfl | rfl <;> exact absurd hmem (by decide)
  cases h with
  | word h =>
    have hall : ∀ entry ∈ characterWords, '&' ∉ entry.1 ∧ ';' ∉ entry.1 := by decide
    rcases hd with rfl | rfl
    · exact (hall _ h).1
    · exact (hall _ h).2
  | decimal hsign h =>
    exact List.not_mem_cons_of_ne_of_not_mem hsharp (hsigned (by decide) hsign h)
  | @hexadecimal x _ _ _ hx hsign h =>
    have hne : d ≠ x := by rcases hd with rfl | rfl <;> rcases hx with rfl | rfl <;> decide
    exact List.not_mem_cons_of_ne_of_not_mem hsharp
      (List.not_mem_cons_of_ne_of_not_mem hne (hsigned (by decide) hsign h))

/-- No number that is to have no sign has a plus sign. -/
theorem Named.not_plus (cs : List Char) (c : Char) : ¬ Named unsigned ('#' :: '+' :: cs) c := by
  intro h
  generalize hname : '#' :: '+' :: cs = name at h
  cases h with
  | word h =>
    have hall : ∀ entry ∈ characterWords, entry.1.head? ≠ some '#' := by decide
    exact hall _ h (congrArg List.head? hname.symm)
  | decimal hsign h =>
    obtain rfl := List.mem_singleton.mp hsign
    have hplus := h.not_mem (c := '+') (by decide) rfl
    have hdigits := (List.cons_eq_cons.mp hname).2
    rw [List.nil_append] at hdigits
    rw [← hdigits] at hplus
    exact hplus List.mem_cons_self
  | hexadecimal hx hsign h =>
    rw [← (List.cons_eq_cons.mp (List.cons_eq_cons.mp hname).2).1] at hx
    exact absurd hx (by decide)

theorem Reference.mono {signs others : List (List Char)} (hsub : signs ⊆ others) {r : List Char}
    {c : Char} (h : Reference signs r c) : Reference others r c := by
  obtain ⟨name, rfl, hlength, hname⟩ := h
  exact ⟨name, rfl, hlength, hname.mono hsub⟩

/-- A name that is short enough for its semicolon to be found is read, and no other. -/
theorem reference?_eq_some_iff {name after : List Char} (hname : ';' ∉ name) {c : Char}
    {length : Nat} : reference? (name ++ ';' :: after) = some (c, length) ↔
      length = name.length ∧ Reference readSigns ('&' :: (name ++ [';'])) c := by
  rw [reference?_append hname]
  constructor
  · intro h
    split at h
    · rename_i hle
      obtain ⟨denoted, hdenoted, heq⟩ := Option.map_eq_some_iff.mp h
      obtain ⟨rfl, rfl⟩ := Prod.mk.inj heq
      refine ⟨rfl, name, rfl, ?_, namedChar?_eq_some_iff.mp hdenoted⟩
      rw [utf8Len_eq_length (List.forall_mem_cons.mpr ⟨rfl, utf8Size_of_namedChar? hdenoted⟩)]
      exact Nat.succ_le_succ hle
    · cases h
  · rintro ⟨rfl, name', heq, hlength, hnamed⟩
    obtain rfl : name = name' := List.append_cancel_right (List.cons_eq_cons.mp heq).2
    have hdenoted := namedChar?_eq_some_iff.mpr hnamed
    rw [utf8Len_eq_length (List.forall_mem_cons.mpr ⟨rfl, utf8Size_of_namedChar? hdenoted⟩)]
      at hlength
    have hle : name.length ≤ maxNameLength := Nat.le_of_succ_le_succ hlength
    rw [if_pos hle, hdenoted]
    rfl

end Stencil.Text
