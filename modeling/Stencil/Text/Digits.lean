/-!
# Digits

Numbers written in digits of a base of at most 16.

* `digitsValueFrom?_append` — digits are read from the front
* `digitsValue?_toDigits` — decimal digits read back
-/

namespace Stencil.Text

/-- The value of a digit in a base of at most 16; capitals count as well. -/
def digitValue? (base : Nat) (c : Char) : Option Nat :=
  let n := c.toNat
  let value :=
    if 0x30 ≤ n && n ≤ 0x39 then some (n - 0x30)
    else if 0x61 ≤ n && n ≤ 0x66 then some (n - 0x61 + 10)
    else if 0x41 ≤ n && n ≤ 0x46 then some (n - 0x41 + 10)
    else none
  value.filter (· < base)

/-- The number that digits denote behind digits of a value, if all are digits of the base. -/
def digitsValueFrom? (base value : Nat) : List Char → Option Nat
  | [] => some value
  | c :: cs => (digitValue? base c).bind fun digit => digitsValueFrom? base (value * base + digit) cs

/-- The number that one digit or more denote. -/
def digitsValue? (base : Nat) (cs : List Char) : Option Nat :=
  if cs.isEmpty then none else digitsValueFrom? base 0 cs

/-- The number that digits denote, which may follow a plus sign. -/
def natural? (base : Nat) : List Char → Option Nat
  | '+' :: digits => digitsValue? base digits
  | digits => digitsValue? base digits

theorem digitsValueFrom?_append (base value : Nat) (xs ys : List Char) :
    digitsValueFrom? base value (xs ++ ys) =
      (digitsValueFrom? base value xs).bind fun v => digitsValueFrom? base v ys := by
  induction xs generalizing value with
  | nil => rfl
  | cons c cs ih =>
    simp only [List.cons_append, digitsValueFrom?]
    cases digitValue? base c with
    | none => rfl
    | some digit => exact ih (value * base + digit)

theorem digitValue?_digitChar {n : Nat} (h : n < 10) :
    digitValue? 10 (Nat.digitChar n) = some n := by
  revert n
  decide

theorem digitsValueFrom?_toDigits (n : Nat) :
    digitsValueFrom? 10 0 (Nat.toDigits 10 n) = some n := by
  induction n using Nat.strongRecOn with
  | _ n ih =>
    by_cases h : n < 10
    · rw [Nat.toDigits_of_lt_base h]
      simp [digitsValueFrom?, digitValue?_digitChar h]
    · have hmod : n % 10 < 10 := Nat.mod_lt n (by decide)
      have hsplit := Nat.toDigits_append_toDigits (b := 10) (by decide)
        (show 0 < n / 10 by omega) hmod
      rw [Nat.div_add_mod] at hsplit
      rw [← hsplit, digitsValueFrom?_append, ih (n / 10) (by omega), Nat.toDigits_of_lt_base hmod]
      simp only [Option.bind_some, digitsValueFrom?, digitValue?_digitChar hmod, Option.some.injEq]
      omega

/-- Decimal digits read back. -/
theorem digitsValue?_toDigits (n : Nat) : digitsValue? 10 (Nat.toDigits 10 n) = some n := by
  have h := digitsValueFrom?_toDigits n
  cases hd : Nat.toDigits 10 n with
  | nil => exact absurd hd Nat.toDigits_ne_nil
  | cons c cs => rw [hd] at h; exact h

end Stencil.Text
