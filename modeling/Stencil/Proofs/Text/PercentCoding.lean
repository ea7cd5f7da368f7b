import Stencil.Proofs.Text.Bytes

/-!
# Percent encodings

A text is written byte by byte, in characters that need no encoding themselves (`PercentEncoded`),
and what is written is read back byte by byte, so that the bytes are those of the text again. The
reading of a text that is no encoding is never needed.

* `percentEncoded_percentEncode` — what is written
* `percentDecodeBytes?_flatMap` — bytes are read back
* `percentDecode_percentEncode` — texts are read back
-/

namespace Stencil.Text

/-! ## What is written -/

/-- A text of letters and digits, a few other characters and bytes in two hexadecimal digits. -/
inductive PercentEncoded : List Char → Prop
  | nil : PercentEncoded []
  | character {c : Char} {rest : List Char} (h : c.isAlphanum ∨ c ∈ "-._~/?+".toList)
      (more : PercentEncoded rest) : PercentEncoded (c :: rest)
  | escaped {high low : Char} {rest : List Char} (hhigh : high ∈ "0123456789ABCDEF".toList)
      (hlow : low ∈ "0123456789ABCDEF".toList) (more : PercentEncoded rest) :
      PercentEncoded ('%' :: high :: low :: rest)

theorem upperHexDigit_mem : ∀ n < 16, upperHexDigit n ∈ "0123456789ABCDEF".toList := by
  decide

theorem digitValue?_upperHexDigit : ∀ n < 16, digitValue? 16 (upperHexDigit n) = some n := by
  decide

/-- A byte is a pair of hexadecimal digits. -/
theorem byte_digits (b : UInt8) :
    b.toNat / 16 < 16 ∧ b.toNat % 16 < 16 ∧ UInt8.ofNat (b.toNat / 16 * 16 + b.toNat % 16) = b := by
  have hlt := b.toNat_lt
  refine ⟨by omega, by omega, ?_⟩
  rw [Nat.div_add_mod', UInt8.ofNat_toNat]

/-- Bytes that are written as they are belong to letters, digits and a few other characters. -/
theorem isUnreserved_cases {b : UInt8} (h : isUnreserved b) :
    b.toNat < 128 ∧ ((Char.ofNat b.toNat).isAlphanum ∨ Char.ofNat b.toNat ∈ "-._~/?".toList) := by
  have hlt : b.toNat < 128 := by
    simp [isUnreserved] at h
    omega
  have hall : ∀ n < 128, isUnreserved (UInt8.ofNat n) →
      (Char.ofNat n).isAlphanum ∨ Char.ofNat n ∈ "-._~/?".toList := by decide
  exact ⟨hlt, hall b.toNat hlt (by rwa [UInt8.ofNat_toNat])⟩

theorem PercentEncoded.append_byte (b : UInt8) {rest : List Char} (h : PercentEncoded rest) :
    PercentEncoded (percentEncodeByte b ++ rest) := by
  unfold percentEncodeByte
  split
  · exact .character (.inr (by decide)) h
  split
  · rename_i hunreserved
    refine .character ((isUnreserved_cases hunreserved).2.imp_right fun hmem => ?_) h
    exact List.mem_append_left ['+'] hmem
  · obtain ⟨hhigh, hlow, -⟩ := byte_digits b
    exact .escaped (upperHexDigit_mem _ hhigh) (upperHexDigit_mem _ hlow) h

/-- Every text is written in characters that need no encoding. -/
theorem percentEncoded_percentEncode (cs : List Char) : PercentEncoded (percentEncode cs) := by
  unfold percentEncode
  induction utf8 cs with
  | nil => exact .nil
  | cons b bytes ih =>
    rw [List.flatMap_cons]
    exact ih.append_byte b

/-! ## Reading back -/

theorem percentDecodeBytes?_plain {c : Char} (hpercent : c ≠ '%') (hplus : c ≠ '+')
    (rest : List Char) : percentDecodeBytes? (c :: rest) =
      (percentDecodeBytes? rest).map (String.utf8EncodeChar c ++ ·) := by
  rw [percentDecodeBytes?]
  · exact fun _ _ _ h _ => hpercent h
  · exact fun h => hpercent h
  · exact fun h => hplus h

/-- A byte is read back. -/
theorem percentDecodeBytes?_append_byte (b : UInt8) (rest : List Char) :
    percentDecodeBytes? (percentEncodeByte b ++ rest) =
      (percentDecodeBytes? rest).map (b :: ·) := by
  unfold percentEncodeByte
  split
  · subst b
    rfl
  split
  · rename_i hunreserved
    obtain ⟨hlt, hcharacter⟩ := isUnreserved_cases hunreserved
    have hne {d : Char} (hd : ¬ (d.isAlphanum ∨ d ∈ "-._~/?".toList)) :
        Char.ofNat b.toNat ≠ d := by
      rintro rfl
      exact hd hcharacter
    have hbyte : String.utf8EncodeChar (Char.ofNat b.toNat) = [b] := by
      have hall : ∀ n < 128, String.utf8EncodeChar (Char.ofNat n) = [UInt8.ofNat n] := by decide
      rw [hall _ hlt, UInt8.ofNat_toNat]
    rw [List.singleton_append, percentDecodeBytes?_plain (hne (by decide)) (hne (by decide)), hbyte]
    rfl
  · obtain ⟨hhigh, hlow, hbyte⟩ := byte_digits b
    rw [List.cons_append, List.cons_append, List.singleton_append, percentDecodeBytes?,
      digitValue?_upperHexDigit _ hhigh, digitValue?_upperHexDigit _ hlow]
    cases percentDecodeBytes? rest with
    | none => rfl
    | some bytes => exact congrArg (fun b => some (b :: bytes)) hbyte

/-- Bytes are read back. -/
theorem percentDecodeBytes?_flatMap (bytes : List UInt8) :
    percentDecodeBytes? (bytes.flatMap percentEncodeByte) = some bytes := by
  induction bytes with
  | nil => rfl
  | cons b bytes ih =>
    rw [List.flatMap_cons, percentDecodeBytes?_append_byte, ih]
    rfl

theorem ofUtf8?_utf8 (cs : List Char) : ofUtf8? (utf8 cs) = some cs := by
  have hbytes : ByteArray.mk (utf8 cs).toArray = cs.utf8Encode :=
    ByteArray.ext List.data_toByteArray.symm
  rw [ofUtf8?, hbytes, List.utf8Decode?_utf8Encode]
  rfl

/-- A text is read back, as an encoding that is well formed. -/
theorem percentDecode?_percentEncode (cs : List Char) :
    percentDecode? (percentEncode cs) = some cs := by
  rw [percentDecode?, percentEncode, percentDecodeBytes?_flatMap, Option.bind_some, ofUtf8?_utf8]

theorem percentDecode_percentEncode (cs : List Char) : percentDecode (percentEncode cs) = cs := by
  rw [percentDecode, percentDecode?_percentEncode, Option.getD_some]

end Stencil.Text
