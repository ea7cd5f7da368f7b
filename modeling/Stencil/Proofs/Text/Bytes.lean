import Stencil.Proofs.Text.Positions
import Stencil.Text.Percent

/-!
# Reading percent encodings by indices

A program reads a percent encoding byte by byte, by an index that goes on by one or by three, and it
stops where an index is out of range. None ever is. The bytes that are read are those of the
characters: `+`, `%` and digits are one byte each, and no byte of another character looks like one
of them.

* `escapedAt?_append` — two digits behind a `%` are found as bytes where they stand as characters
* `percentDecodeAt?_eq` — the reading is not cut off
-/

namespace Stencil.Text

/-! ## Bytes of characters -/

/-- The value of a byte that is a hexadecimal digit. -/
def byteDigit? (b : UInt8) : Option Nat :=
  digitValue? 16 (Char.ofNat b.toNat)

theorem utf8_cons (c : Char) (cs : List Char) :
    utf8 (c :: cs) = String.utf8EncodeChar c ++ utf8 cs := rfl

/-- Every byte of a character that is not ASCII is at least 128. -/
theorem le_of_mem_utf8EncodeChar {c : Char} (h : c.utf8Size ≠ 1) :
    ∀ b ∈ String.utf8EncodeChar c, 128 ≤ b.toNat := by
  have hwide : ¬ c.val.toNat ≤ 127 := fun hle =>
    h (Char.utf8Size_eq_one_iff.mpr (UInt32.le_iff_toNat_le.mpr hle))
  simp only [String.utf8EncodeChar, hwide, if_false]
  split
  · simp; omega
  split
  · simp; omega
  · simp; omega

/-- An ASCII character is one byte. -/
theorem utf8EncodeChar_ascii {c : Char} (h : c.utf8Size = 1) :
    ∃ b, String.utf8EncodeChar c = [b] ∧ Char.ofNat b.toNat = c := by
  refine ⟨_, String.utf8EncodeChar_eq_singleton h, ?_⟩
  have hle : c.val.toNat ≤ 127 := UInt32.le_iff_toNat_le.mp (Char.utf8Size_eq_one_iff.mp h)
  have hbyte : c.val.toUInt8.toNat = c.toNat := Nat.mod_eq_of_lt (by omega)
  rw [hbyte, Char.ofNat_toNat]

theorem byteDigit?_of_le {b : UInt8} (h : 128 ≤ b.toNat) : byteDigit? b = none := by
  have hvalid : b.toNat.isValidChar := .inl (by have := b.toNat_lt; omega)
  have hchar : (Char.ofNat b.toNat).val.toNat = b.toNat := by
    rw [Char.ofNat, dif_pos hvalid]
    rfl
  cases hdigit : byteDigit? b with
  | none => rfl
  | some n =>
    have hsize := Char.utf8Size_eq_one_iff.mp (utf8Size_of_digit hdigit)
    rw [UInt32.le_iff_toNat_le, hchar] at hsize
    exact absurd (Nat.le_trans h hsize) (by decide)

/-- A character and the first of its bytes are the same digit, or none. -/
theorem utf8EncodeChar_digit (c : Char) :
    ∃ b more, String.utf8EncodeChar c = b :: more ∧ byteDigit? b = digitValue? 16 c ∧
      (c.utf8Size = 1 → more = []) := by
  by_cases hsize : c.utf8Size = 1
  · obtain ⟨b, hb, hc⟩ := utf8EncodeChar_ascii hsize
    exact ⟨b, [], hb, by rw [byteDigit?, hc], fun _ => rfl⟩
  · have hbytes := le_of_mem_utf8EncodeChar hsize
    have hlength := String.length_utf8EncodeChar c
    cases hencoded : String.utf8EncodeChar c with
    | nil =>
      rw [hencoded] at hlength
      exact absurd hlength.symm c.utf8Size_pos.ne'
    | cons b more =>
      rw [hencoded] at hbytes
      refine ⟨b, more, rfl, ?_, fun h => absurd h hsize⟩
      rw [byteDigit?_of_le (hbytes b List.mem_cons_self)]
      cases hdigit : digitValue? 16 c with
      | none => rfl
      | some n => exact absurd (utf8Size_of_digit hdigit) hsize

/-- Only the characters `+` and `%` have bytes that look like them. -/
theorem plain_of_ne {c : Char} (hplus : c ≠ '+') (hpercent : c ≠ '%') :
    ∀ b ∈ String.utf8EncodeChar c, b ≠ 0x2B ∧ b ≠ 0x25 := by
  by_cases hsize : c.utf8Size = 1
  · obtain ⟨b, hb, hc⟩ := utf8EncodeChar_ascii hsize
    rw [hb, List.forall_mem_singleton]
    exact ⟨fun h => hplus (by rw [← hc, h]; rfl), fun h => hpercent (by rw [← hc, h]; rfl)⟩
  · refine fun b hb => ⟨?_, ?_⟩ <;> rintro rfl <;>
      exact absurd (le_of_mem_utf8EncodeChar hsize _ hb) (by decide)

/-! ## Reading -/

/-- The byte that the two digits from an index on stand for. -/
def escapedAt? (bytes : List UInt8) (i : Nat) : Option UInt8 := do
  let high ← bytes[i]?
  let low ← bytes[i + 1]?
  return UInt8.ofNat ((← byteDigit? high) * 16 + (← byteDigit? low))

/-- The bytes that a percent encoding stands for, read from an index on. There is no result where an
index is out of range, and none in the result where the encoding is malformed. -/
def percentDecodeAt? (bytes : List UInt8) (i : Nat) : Option (Option (List UInt8)) :=
  if i < bytes.length then
    match bytes[i]? with
    | none => none
    | some b =>
      if b = 0x2B then (percentDecodeAt? bytes (i + 1)).map (Option.map (0x20 :: ·))
      else if b = 0x25 then
        match escapedAt? bytes (i + 1) with
        | some escaped => (percentDecodeAt? bytes (i + 3)).map (Option.map (escaped :: ·))
        | none => some none
      else (percentDecodeAt? bytes (i + 1)).map (Option.map (b :: ·))
  else some (some [])
termination_by bytes.length - i

/-- Bytes that are neither `+` nor `%` are taken as they are. -/
theorem percentDecodeAt?_plain {plain : List UInt8} (h : ∀ b ∈ plain, b ≠ 0x2B ∧ b ≠ 0x25)
    (front rest : List UInt8) :
    percentDecodeAt? (front ++ (plain ++ rest)) front.length =
      (percentDecodeAt? (front ++ (plain ++ rest)) (front.length + plain.length)).map
        (Option.map (plain ++ ·)) := by
  induction plain generalizing front with
  | nil => simp
  | cons b plain ih =>
    obtain ⟨⟨hplus, hpercent⟩, hplain⟩ := List.forall_mem_cons.mp h
    have hrest := ih hplain (front ++ [b])
    simp only [List.append_assoc, List.singleton_append, List.length_append,
      List.length_singleton] at hrest
    rw [percentDecodeAt?]
    simp [hplus, hpercent, hrest, Nat.add_assoc, Nat.add_comm 1, Function.comp_def]

/-- Of two characters, the byte that they denote as digits is read, if both are digits. -/
theorem escapedAt?_append {high low : Char} (front : List UInt8) (cs : List Char) :
    escapedAt? (front ++ utf8 (high :: low :: cs)) front.length =
      (digitValue? 16 high).bind fun h =>
        (digitValue? 16 low).map fun l => UInt8.ofNat (h * 16 + l) := by
  obtain ⟨b, more, hb, hdigit, hmore⟩ := utf8EncodeChar_digit high
  obtain ⟨b', more', hb', hdigit', -⟩ := utf8EncodeChar_digit low
  rw [escapedAt?, utf8_cons, utf8_cons, hb, hb', ← hdigit]
  cases hvalue : digitValue? 16 high with
  | none =>
    -- The second byte may be one of the same character, but the first is no digit.
    rw [hvalue] at hdigit
    cases more <;> simp [hdigit]
  | some h =>
    rw [hvalue] at hdigit
    obtain rfl := hmore (utf8Size_of_digit hvalue)
    cases hvalue' : digitValue? 16 low <;> simp [hdigit, hdigit', hvalue']

/-- One character alone denotes no byte, however many bytes it has. -/
theorem escapedAt?_append_short {cs : List Char} (h : cs.length < 2) (front : List UInt8) :
    escapedAt? (front ++ utf8 cs) front.length = none := by
  match cs, h with
  | [], _ => simp [escapedAt?, utf8]
  | [c], _ =>
    obtain ⟨b, more, hb, hdigit, hmore⟩ := utf8EncodeChar_digit c
    rw [escapedAt?, utf8_cons, hb]
    cases hvalue : digitValue? 16 c with
    | none =>
      rw [hvalue] at hdigit
      cases more <;> simp [hdigit]
    | some h =>
      obtain rfl := hmore (utf8Size_of_digit hvalue)
      simp [utf8]

theorem percentDecodeAt?_percent (front : List UInt8) (cs : List Char) :
    percentDecodeAt? (front ++ utf8 ('%' :: cs)) front.length =
      match escapedAt? ((front ++ [0x25]) ++ utf8 cs) (front ++ [0x25]).length with
      | some escaped =>
        (percentDecodeAt? (front ++ utf8 ('%' :: cs)) (front.length + 3)).map
          (Option.map (escaped :: ·))
      | none => some none := by
  have hbytes : utf8 ('%' :: cs) = 0x25 :: utf8 cs := rfl
  rw [percentDecodeAt?, hbytes]
  simp

/-- Reading a percent encoding by indices is not cut off. -/
theorem percentDecodeAt?_eq (front : List UInt8) (cs : List Char) :
    percentDecodeAt? (front ++ utf8 cs) front.length = some (percentDecodeBytes? cs) := by
  -- The bytes that have been read stand in front, so the index is their number.
  induction cs using percentDecodeBytes?.induct generalizing front with
  | case1 => rw [percentDecodeAt?]; simp [utf8, percentDecodeBytes?]
  | case2 high low rest ih =>
    rw [percentDecodeAt?_percent, escapedAt?_append, percentDecodeBytes?]
    cases hhigh : digitValue? 16 high with
    | none => rfl
    | some h =>
      cases hlow : digitValue? 16 low with
      | none => rfl
      | some l =>
        obtain ⟨b, hb, -⟩ := utf8EncodeChar_ascii (utf8Size_of_digit hhigh)
        obtain ⟨b', hb', -⟩ := utf8EncodeChar_ascii (utf8Size_of_digit hlow)
        have hrest := ih (front ++ [0x25, b, b'])
        have hbytes : utf8 ('%' :: high :: low :: rest) = [0x25, b, b'] ++ utf8 rest := by
          rw [utf8_cons, utf8_cons, utf8_cons, hb, hb']
          rfl
        rw [List.append_assoc, ← hbytes, List.length_append] at hrest
        simp only [Option.bind_some, Option.map_some]
        rw [show front.length + 3 = front.length + [0x25, b, b'].length from rfl, hrest]
        cases percentDecodeBytes? rest <;> rfl
  | case3 rest hshort =>
    have hlength : rest.length < 2 := by
      match rest, hshort with
      | [], _ | [_], _ => simp
      | high :: low :: rest, hshort => exact absurd rfl (hshort high low rest)
    rw [percentDecodeAt?_percent, escapedAt?_append_short hlength, percentDecodeBytes?]
    exact hshort
  | case4 rest ih =>
    have hrest := ih (front ++ [0x2B])
    have hbytes : utf8 ('+' :: rest) = 0x2B :: utf8 rest := rfl
    rw [percentDecodeAt?, hbytes, percentDecodeBytes?]
    simp at hrest
    simp [hrest]
  | case5 c rest _ hpercent hplus ih =>
    have hrest := ih (front ++ String.utf8EncodeChar c)
    rw [List.append_assoc, List.length_append] at hrest
    rw [utf8_cons, percentDecodeAt?_plain (plain_of_ne hplus hpercent), hrest, percentDecodeBytes?]
    · rfl
    all_goals assumption

end Stencil.Text
