import Stencil.Decimal.Text
import Stencil.Integer
import Stencil.Text.Blank

/-!
# Numerals

What is written for a number is read back, and a text that denotes an integer denotes it as a
decimal as well.

* `Integer.ofText?_toText` — integers
* `Decimal.ofText?_toText` — decimals, up to zeros at the end
* `Decimal.ofText?_of_integer` — integers as decimals
* `Decimal.same_normalize` — zeros at the end do not change a value
-/

namespace Stencil

/-! ## Digits -/

namespace Text

theorem isDigit_toDigits (n : Nat) : ∀ c ∈ Nat.toDigits 10 n, c.isDigit :=
  fun _ hc => Nat.isDigit_of_mem_toDigits (b := 10) (by decide) (by decide) hc

/-- Further digits only make a number greater. -/
theorem le_of_digitsValueFrom? {cs : List Char} {n m : Nat}
    (h : digitsValueFrom? 10 n cs = some m) : n ≤ m := by
  induction cs generalizing n with
  | nil =>
    cases h
    exact Nat.le_refl _
  | cons c cs ih =>
    obtain ⟨digit, -, hrest⟩ := Option.bind_eq_some_iff.mp h
    have := ih hrest
    omega

theorem digitsValueFrom?_replicate_zero (k : Nat) (cs : List Char) :
    digitsValueFrom? 10 0 (List.replicate k '0' ++ cs) = digitsValueFrom? 10 0 cs := by
  induction k with
  | zero => rfl
  | succ k ih => exact ih

theorem ne_of_isDigit {c sign : Char} (h : c.isDigit) (hsign : sign.isDigit = false) :
    c ≠ sign := by
  rintro rfl
  rw [h] at hsign
  cases hsign

theorem isBlank_of_isDigit {c : Char} (h : c.isDigit) : isBlank c = false := by
  have hbounds : 48 ≤ c.toNat ∧ c.toNat ≤ 57 := Char.isDigit_iff_toNat.mp h
  simp only [isBlank, Bool.or_eq_false_iff, Bool.and_eq_false_iff, decide_eq_false_iff_not,
    beq_eq_false_iff_ne]
  omega

end Text

/-! ## Integers -/

/-- The text of an integer denotes it. -/
theorem Integer.ofText?_toText (n : Int64) : ofText? (toText n) = some n := by
  unfold toText
  split
  · rename_i hneg
    have hvalue : -(n.toInt.natAbs : Int) = n.toInt := by omega
    rw [List.singleton_append, ofText?, Text.digitsValue?_toDigits, Option.bind_some, hvalue]
    exact ofInt?_eq_some_iff.mpr rfl
  · rename_i hnonneg
    have hvalue : (n.toInt.natAbs : Int) = n.toInt := by omega
    have hread := Text.digitsValue?_toDigits n.toInt.natAbs
    rw [List.nil_append]
    cases hdigits : Nat.toDigits 10 n.toInt.natAbs with
    | nil => exact absurd hdigits Nat.toDigits_ne_nil
    | cons c cs =>
      have hc : c.isDigit := Text.isDigit_toDigits n.toInt.natAbs c (by simp [hdigits])
      rw [hdigits] at hread
      rw [ofText?, Text.natural?, hread, Option.bind_some, hvalue]
      · exact ofInt?_eq_some_iff.mpr rfl
      · rintro digits heq
        exact Text.ne_of_isDigit hc rfl (List.cons_eq_cons.mp heq).1
      · rintro digits heq
        exact Text.ne_of_isDigit hc rfl (List.cons_eq_cons.mp heq).1

theorem Integer.isBlank_of_mem_toText {n : Int64} {c : Char} (h : c ∈ toText n) :
    Text.isBlank c = false := by
  rcases List.mem_append.mp h with hsign | hdigit
  · split at hsign
    · rw [List.mem_singleton.mp hsign]
      decide
    · cases hsign
  · exact Text.isBlank_of_isDigit (Text.isDigit_toDigits _ c hdigit)

namespace Decimal

/-! ## Zeros at the end -/

theorem dropZeros_fst_mul (c scale : Nat) :
    (dropZeros c scale).1 * 10 ^ (scale - (dropZeros c scale).2) = c := by
  induction scale generalizing c with
  | zero => simp [dropZeros]
  | succ s ih =>
    simp only [dropZeros]
    split
    · rename_i hmod
      have hle := dropZeros_snd_le (c / 10) s
      rw [Nat.succ_sub hle, Nat.pow_succ, ← Nat.mul_assoc, ih]
      omega
    · simp

theorem normalize_coefficient_mul (d : Decimal) :
    d.normalize.coefficient * 10 ^ (d.scale - d.normalize.scale) = d.coefficient :=
  dropZeros_fst_mul d.coefficient d.scale

theorem normalize_scale_le (d : Decimal) : d.normalize.scale ≤ d.scale :=
  dropZeros_snd_le d.coefficient d.scale

theorem normalize_coefficient_eq_zero_iff (d : Decimal) :
    d.normalize.coefficient = 0 ↔ d.coefficient = 0 := by
  have hmul := normalize_coefficient_mul d
  have hpos : 0 < 10 ^ (d.scale - d.normalize.scale) := Nat.pow_pos (by decide)
  constructor
  · intro h
    rw [← hmul, h, Nat.zero_mul]
  · intro h
    rw [h] at hmul
    exact (Nat.mul_eq_zero.mp hmul).resolve_right (by omega)

theorem normalize_signed_mul (d : Decimal) :
    d.normalize.signed * 10 ^ (d.scale - d.normalize.scale) = d.signed := by
  have hmul : (d.normalize.coefficient : Int) * 10 ^ (d.scale - d.normalize.scale) =
      d.coefficient := by
    exact_mod_cast normalize_coefficient_mul d
  have hnegative : d.normalize.negative = (d.negative && d.coefficient != 0) := rfl
  unfold signed
  by_cases hzero : d.coefficient = 0
  · rw [hnegative]
    simp [hzero, (normalize_coefficient_eq_zero_iff d).mpr hzero]
  · cases hneg : d.negative with
    | false => simpa [hnegative, hneg] using hmul
    | true => simpa [hnegative, hneg, hzero, Int.neg_mul] using hmul

/-- The representative with the smallest scale has the same value. -/
theorem same_normalize (d : Decimal) : d.normalize.same d := by
  have hpow : (10 : Int) ^ d.scale =
      10 ^ (d.scale - d.normalize.scale) * 10 ^ d.normalize.scale := by
    rw [← Int.pow_add, Nat.sub_add_cancel (normalize_scale_le d)]
  rw [same, beq_iff_eq, hpow, ← Int.mul_assoc, normalize_signed_mul]

/-- Whether the value is an integer. -/
def isIntegral (d : Decimal) : Bool :=
  d.coefficient % 10 ^ d.scale == 0

theorem normalize_scale_pos {d : Decimal} (h : d.isIntegral = false) : 0 < d.normalize.scale := by
  refine Nat.pos_of_ne_zero fun hzero => ?_
  have hmul := normalize_coefficient_mul d
  rw [hzero, Nat.sub_zero] at hmul
  simp [isIntegral, ← hmul] at h

/-! ## Reading digits back -/

/-- Digits that fit are read to what they denote. -/
theorem readDigits_append {ds : List Char} {r : Digits} {n : Nat}
    (hvalue : Text.digitsValueFrom? 10 r.coefficient ds = some n) (hbound : n < bound)
    (hpoint : r.point = true → r.scale + ds.length ≤ maxScale)
    (hwhole : r.point = false → r.scale = 0) (rest : List Char) :
    readDigits r (ds ++ rest) =
      readDigits
        { coefficient := n, scale := if r.point then r.scale + ds.length else 0,
          point := r.point, any := r.any || !ds.isEmpty } rest := by
  induction ds generalizing r with
  | nil =>
    obtain ⟨coefficient, scale, point, any⟩ := r
    cases hvalue
    cases point
    · obtain rfl : scale = 0 := hwhole rfl
      simp
    · simp
  | cons c ds ih =>
    obtain ⟨digit, hdigit, hrest⟩ := Option.bind_eq_some_iff.mp hvalue
    -- What has been read never exceeds the number in the end, so no digit is rounded away.
    have hgrown : r.coefficient * 10 + digit < bound :=
      Nat.lt_of_le_of_lt (Text.le_of_digitsValueFrom? hrest) hbound
    have hroom : (r.point && r.scale == maxScale) = false := by
      cases hp : r.point with
      | false => rfl
      | true =>
        have := hpoint hp
        rw [List.length_cons] at this
        simp only [Bool.true_and, beq_eq_false_iff_ne]
        omega
    rw [List.cons_append, readDigits, if_neg (by rw [hroom]; decide)]
    simp only [hdigit, if_pos hgrown]
    rw [ih hrest]
    · cases r.point <;> simp [Nat.add_assoc, Nat.add_comm 1]
    · intro hp
      have := hpoint hp
      rw [List.length_cons] at this
      simp only [if_pos hp]
      omega
    · exact fun hp => if_neg (Bool.eq_false_iff.mp hp)

theorem readDigits_point (n : Nat) (rest : List Char) :
    readDigits { coefficient := n, any := true } ('.' :: rest) =
      readDigits { coefficient := n, point := true, any := true } rest :=
  rfl

/-! ## Integers as decimals -/

/-- Digits of a number within bounds are read as that number. -/
theorem readDigits_of_digitsValue? {ds : List Char} {n : Nat}
    (h : Text.digitsValue? 10 ds = some n) (hn : n < bound) :
    readDigits {} ds = some ⟨n, 0, false, true⟩ := by
  unfold Text.digitsValue? at h
  split at h
  · cases h
  · rename_i hne
    have hread := readDigits_append (r := {}) h hn (by simp) (by simp) []
    rw [List.append_nil] at hread
    rw [hread, readDigits]
    simp [hne]

theorem ofSigned?_toInt (n : Int64) : ofSigned? n.toInt 0 = some (ofInt64 n) :=
  dif_pos ⟨(ofInt64 n).coefficient_lt, by decide⟩

/-- A text that denotes an integer denotes it as a decimal as well. -/
theorem ofText?_of_integer {cs : List Char} {n : Int64} (h : Integer.ofText? cs = some n) :
    ofText? cs = some (ofInt64 n) := by
  -- The sign is read first; then there are digits only, and their number is within bounds.
  have hread (ds : List Char) (m : Nat) (hds : Text.digitsValue? 10 ds = some m)
      (hm : m = n.toInt.natAbs) : readDigits {} ds = some ⟨n.toInt.natAbs, 0, false, true⟩ :=
    readDigits_of_digitsValue? (hm ▸ hds) (ofInt64 n).coefficient_lt
  have hplain : plain? cs = ofSigned? n.toInt 0 := by
    unfold Integer.ofText? at h
    split at h
    · rename_i digits
      obtain ⟨m, hdigits, hm⟩ := Option.bind_eq_some_iff.mp h
      have heq := Integer.ofInt?_eq_some_iff.mp hm
      have hvalue : -(n.toInt.natAbs : Int) = n.toInt := by omega
      rw [plain?, hread digits m hdigits (by omega)]
      exact congrArg (ofSigned? · 0) hvalue
    · rename_i hsign
      obtain ⟨m, hdigits, hm⟩ := Option.bind_eq_some_iff.mp h
      have heq := Integer.ofInt?_eq_some_iff.mp hm
      have hvalue : (n.toInt.natAbs : Int) = n.toInt := by omega
      unfold Text.natural? at hdigits
      split at hdigits
      · rename_i digits
        rw [plain?, hread digits m hdigits (by omega)]
        exact congrArg (ofSigned? · 0) hvalue
      · rename_i hplus
        rw [plain?, hread _ m hdigits (by omega)]
        · exact congrArg (ofSigned? · 0) hvalue
        · exact hsign
        · exact hplus
  rw [ofText?, hplain, ofSigned?_toInt]
  rfl

/-! ## Decimals -/

theorem digitsValueFrom?_paddedDigits (c scale : Nat) :
    Text.digitsValueFrom? 10 0 (paddedDigits c scale) = some c := by
  rw [paddedDigits, Text.digitsValueFrom?_replicate_zero, Text.digitsValueFrom?_toDigits]

theorem lt_length_paddedDigits (c scale : Nat) : scale < (paddedDigits c scale).length := by
  rw [paddedDigits, List.length_append, List.length_replicate]
  omega

theorem isDigit_paddedDigits (c scale : Nat) : ∀ d ∈ paddedDigits c scale, d.isDigit := by
  intro d hd
  rcases List.mem_append.mp hd with hzero | hdigit
  · rw [List.eq_of_mem_replicate hzero]
    rfl
  · exact Text.isDigit_toDigits c d hdigit

/-- The digits before the point and those behind it. -/
structure Splits (c scale : Nat) (whole behind : List Char) : Prop where
  append : paddedDigits c scale = whole ++ behind
  whole_ne_nil : whole ≠ []
  length_behind : behind.length = scale

namespace Splits

variable {c scale : Nat} {whole behind : List Char}

theorem isDigit_whole (h : Splits c scale whole behind) : ∀ d ∈ whole, d.isDigit :=
  fun d hd => isDigit_paddedDigits c scale d (h.append ▸ List.mem_append_left _ hd)

theorem isDigit_behind (h : Splits c scale whole behind) : ∀ d ∈ behind, d.isDigit :=
  fun d hd => isDigit_paddedDigits c scale d (h.append ▸ List.mem_append_right _ hd)

/-- The digits of a number are read back. -/
theorem readDigits_eq (h : Splits c scale whole behind) (hc : c < bound) (hs : scale ≤ maxScale) :
    readDigits {} (whole ++ if scale = 0 then [] else '.' :: behind) =
      some ⟨c, scale, !behind.isEmpty, true⟩ := by
  -- `n` is what the digits before the point denote; those behind it go on from there.
  have hvalue := digitsValueFrom?_paddedDigits c scale
  rw [h.append, Text.digitsValueFrom?_append] at hvalue
  obtain ⟨n, hwhole, hbehind⟩ := Option.bind_eq_some_iff.mp hvalue
  have hn : n < bound := Nat.lt_of_le_of_lt (Text.le_of_digitsValueFrom? hbehind) hc
  have hany : whole.isEmpty = false := by simpa using h.whole_ne_nil
  rw [readDigits_append hwhole hn (by simp) (by simp)]
  simp only [Bool.false_or, hany, Bool.not_false, Bool.false_eq_true, if_false]
  by_cases hzero : scale = 0
  · obtain rfl : behind = [] := List.eq_nil_of_length_eq_zero (h.length_behind.trans hzero)
    cases hbehind
    rw [if_pos hzero, hzero]
    rfl
  · have hbehind_ne : behind.isEmpty = false := by
      cases behind with
      | nil => exact absurd h.length_behind.symm hzero
      | cons => rfl
    have hread := readDigits_append (r := { coefficient := n, point := true, any := true })
      hbehind hc (fun _ => by simp only [h.length_behind]; omega) (by simp) []
    rw [List.append_nil] at hread
    rw [if_neg hzero, readDigits_point, hread]
    simp [readDigits, hbehind_ne, h.length_behind]

end Splits

/-- A number is written as its sign, the digits before the point, and the digits behind it. -/
theorem write_eq (negative : Bool) (c scale : Nat) :
    ∃ whole behind, Splits c scale whole behind ∧
      write negative c scale =
        (if negative then ['-'] else []) ++
          (whole ++ if scale = 0 then [] else '.' :: behind) := by
  have hlt := lt_length_paddedDigits c scale
  refine ⟨_, _, ⟨(List.take_append_drop _ _).symm, fun hnil => ?_, ?_⟩, List.append_assoc ..⟩
  · have := congrArg List.length hnil
    rw [List.length_take, List.length_nil] at this
    omega
  · rw [List.length_drop]
    omega

/-- What is written for a number within bounds is read as that number. -/
theorem plain?_write (negative : Bool) {c scale : Nat} (hc : c < bound) (hs : scale ≤ maxScale) :
    plain? (write negative c scale) =
      ofSigned? (if negative then -(c : Int) else c) scale := by
  obtain ⟨whole, behind, hsplits, hwrite⟩ := write_eq negative c scale
  have hread := hsplits.readDigits_eq hc hs
  rw [hwrite]
  cases negative with
  | true =>
    rw [if_pos rfl, List.singleton_append, plain?, hread]
    rfl
  | false =>
    rw [if_neg (by decide), List.nil_append]
    cases hw : whole with
    | nil => exact absurd hw hsplits.whole_ne_nil
    | cons d ds =>
      have hd : d.isDigit := hsplits.isDigit_whole d (by simp [hw])
      rw [hw] at hread
      rw [List.cons_append] at hread ⊢
      rw [plain?, hread]
      · rfl
      · rintro rest heq
        exact Text.ne_of_isDigit hd rfl (List.cons_eq_cons.mp heq).1
      · rintro rest heq
        exact Text.ne_of_isDigit hd rfl (List.cons_eq_cons.mp heq).1

/-- The text of a decimal denotes the representative of its value with the smallest scale. -/
theorem ofText?_toText (d : Decimal) : ofText? d.toText = some d.normalize := by
  have hplain := plain?_write d.normalize.negative d.normalize.coefficient_lt d.normalize.scale_le
  have hsome : ofSigned? (if d.normalize.negative then -(d.normalize.coefficient : Int)
      else d.normalize.coefficient) d.normalize.scale = some d.normalize := by
    -- The zero that is read has no sign, and neither has the normal one.
    have hsign : d.normalize.negative = true → d.normalize.coefficient ≠ 0 := by
      intro hneg hzero
      rw [normalize_coefficient_eq_zero_iff] at hzero
      simp [normalize, hzero] at hneg
    generalize d.normalize = n at hsign
    obtain ⟨negative, c, scale, hc, hs⟩ := n
    cases negative
    · simp [ofSigned?, hc, hs]
    · have hpos : 0 < c := Nat.pos_of_ne_zero (hsign rfl)
      simp [ofSigned?, hc, hs, hpos]
  rw [hsome] at hplain
  rw [ofText?, toText, inspect, hplain]
  rfl

theorem isBlank_of_mem_toText {d : Decimal} {c : Char} (h : c ∈ d.toText) :
    Text.isBlank c = false := by
  obtain ⟨whole, behind, hsplits, hwrite⟩ :=
    write_eq d.normalize.negative d.normalize.coefficient d.normalize.scale
  rw [toText, inspect, hwrite, List.mem_append, List.mem_append] at h
  rcases h with hsign | hwhole | hpoint
  · split at hsign
    · rw [List.mem_singleton.mp hsign]
      decide
    · cases hsign
  · exact Text.isBlank_of_isDigit (hsplits.isDigit_whole c hwhole)
  · split at hpoint
    · cases hpoint
    · rcases List.mem_cons.mp hpoint with rfl | hbehind
      · decide
      · exact Text.isBlank_of_isDigit (hsplits.isDigit_behind c hbehind)

end Decimal

end Stencil
