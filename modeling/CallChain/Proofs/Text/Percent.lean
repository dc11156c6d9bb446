/-
# Percent-encoded texts

A percent-encoded text consists of unreserved characters and escapes, so it has no
character that means anything in an address or in a template. Its escapes write the bytes
of the text in UTF-8, and reading them gives the text back.
-/

import CallChain.Text.Percent

namespace CallChain.Text

/-! ## The grammar of an encoded text -/

/-- Whether a character is a hexadecimal digit as escapes write it. -/
def IsCapitalHex (c : Char) : Prop := c.isDigit = true ∨ ('A' ≤ c ∧ c ≤ 'F')

/-- A text of unreserved characters and escapes. -/
inductive Escaped : List Char → Prop
  /-- The empty text. -/
  | nil : Escaped []
  /-- An unreserved character in front. -/
  | plain {c : Char} {rest : List Char} (hc : isUnreserved c = true) (hrest : Escaped rest) :
    Escaped (c :: rest)
  /-- An escape in front. -/
  | escape {high low : Char} {rest : List Char} (hhigh : IsCapitalHex high)
    (hlow : IsCapitalHex low) (hrest : Escaped rest) : Escaped ('%' :: high :: low :: rest)

theorem Escaped.append {front rest : List Char} (hfront : Escaped front) (hrest : Escaped rest) :
    Escaped (front ++ rest) := by
  induction hfront with
  | nil => exact hrest
  | plain hc _ ih => exact .plain hc ih
  | escape hhigh hlow _ ih => exact .escape hhigh hlow ih

theorem isCapitalHex_ne_open {c : Char} (h : IsCapitalHex c) : c ≠ '\x7b' := by
  rintro rfl
  rcases h with h | h
  · exact absurd h (by decide)
  · exact absurd h.2 (by decide)

/-- No brace opens in an encoded text. -/
theorem Escaped.ne_open {text : List Char} (h : Escaped text) : ∀ c ∈ text, c ≠ '\x7b' := by
  induction h with
  | nil => exact nofun
  | plain hc _ ih =>
      intro d hd
      rcases List.mem_cons.mp hd with rfl | hd
      · rintro rfl
        exact absurd hc (by decide)
      · exact ih d hd
  | escape hhigh hlow _ ih =>
      intro d hd
      simp only [List.mem_cons] at hd
      rcases hd with rfl | rfl | rfl | hd
      · decide
      · exact isCapitalHex_ne_open hhigh
      · exact isCapitalHex_ne_open hlow
      · exact ih d hd

/-! ## One byte -/

theorem isCapitalHex_digit {n : Nat} (h : n < 16) : IsCapitalHex (capitalHexDigit n) := by
  have hall : ∀ m < 16, (capitalHexDigit m).isDigit = true ∨
      ('A' ≤ capitalHexDigit m ∧ capitalHexDigit m ≤ 'F') := by decide
  exact hall n h

theorem hexValue?_capitalHexDigit {n : Nat} (h : n < 16) :
    hexValue? (capitalHexDigit n) = some n := by
  have hall : ∀ m < 16, hexValue? (capitalHexDigit m) = some m := by decide
  exact hall n h

theorem escaped_percentByte (byte : UInt8) : Escaped (percentByte byte) := by
  have hbyte := byte.toNat_lt
  exact .escape (isCapitalHex_digit (by omega)) (isCapitalHex_digit (by omega)) .nil

/-- An escape is read as its byte, whatever follows it. -/
theorem percentBytes?_percentByte (byte : UInt8) (rest : List Char) :
    percentBytes? (percentByte byte ++ rest) = (percentBytes? rest).map (byte :: ·) := by
  have hbyte := byte.toNat_lt
  have hhigh := hexValue?_capitalHexDigit (n := byte.toNat / 16) (by omega)
  have hlow := hexValue?_capitalHexDigit (n := byte.toNat % 16) (by omega)
  have hvalue : UInt8.ofNat (16 * (byte.toNat / 16) + byte.toNat % 16) = byte := by
    rw [Nat.div_add_mod, UInt8.ofNat_toNat]
  simp only [percentByte, List.cons_append, List.nil_append, percentBytes?, hhigh, hlow,
    Option.bind_eq_bind, Option.bind_some, hvalue]
  cases percentBytes? rest <;> rfl

theorem percentBytes?_bytes (bytes : List UInt8) (rest : List Char) :
    percentBytes? (bytes.flatMap percentByte ++ rest) =
      (percentBytes? rest).map (bytes ++ ·) := by
  induction bytes with
  | nil => simp
  | cons byte bytes ih =>
      rw [List.flatMap_cons, List.append_assoc, percentBytes?_percentByte, ih, Option.map_map]
      rfl

theorem percentBytes?_plain {c : Char} (hc : c ≠ '%') (rest : List Char) :
    percentBytes? (c :: rest) = (percentBytes? rest).map (String.utf8EncodeChar c ++ ·) := by
  rw [percentBytes?.eq_3 c rest (by rintro _ _ _ rfl; exact absurd rfl hc)]
  simp only [if_neg hc]
  cases percentBytes? rest <;> rfl

/-! ## Whole texts -/

/-- The encoding of one character. -/
def encodedChar (c : Char) : List Char := if isUnreserved c then [c] else percentChar c

theorem percentEncode_eq (text : String) :
    percentEncode text = String.ofList (text.toList.flatMap encodedChar) := rfl

theorem escaped_encodedChar (c : Char) : Escaped (encodedChar c) := by
  unfold encodedChar
  split
  · next hc => exact .plain hc .nil
  · have hbytes : ∀ bytes : List UInt8, Escaped (bytes.flatMap percentByte) := by
      intro bytes
      induction bytes with
      | nil => exact .nil
      | cons byte bytes ih => exact (escaped_percentByte byte).append ih
    exact hbytes _

theorem percentBytes?_encodedChar (c : Char) (rest : List Char) :
    percentBytes? (encodedChar c ++ rest) =
      (percentBytes? rest).map (String.utf8EncodeChar c ++ ·) := by
  unfold encodedChar
  split
  · next hc =>
    have hne : c ≠ '%' := by
      rintro rfl
      exact absurd hc (by decide)
    exact percentBytes?_plain hne rest
  · exact percentBytes?_bytes _ rest

/-- An encoded text consists of unreserved characters and escapes. -/
theorem escaped_percentEncode (text : String) : Escaped (percentEncode text).toList := by
  rw [percentEncode_eq, String.toList_ofList]
  induction text.toList with
  | nil => exact .nil
  | cons c rest ih => exact (escaped_encodedChar c).append ih

/-- Reading an encoded text gives the text back. -/
theorem percentDecode?_percentEncode (text : String) :
    percentDecode? (percentEncode text) = some text := by
  have hbytes : ∀ chars : List Char, percentBytes? (chars.flatMap encodedChar) =
      some (chars.flatMap String.utf8EncodeChar) := by
    intro chars
    induction chars with
    | nil => rfl
    | cons c chars ih => rw [List.flatMap_cons, percentBytes?_encodedChar, ih]; rfl
  have harray : ByteArray.mk (text.toList.flatMap String.utf8EncodeChar).toArray =
      text.toList.utf8Encode := by
    rw [List.utf8Encode]
    exact ByteArray.ext List.data_toByteArray.symm
  have hvalid : (text.toList.utf8Encode).IsValidUTF8 := ByteArray.isValidUTF8_utf8Encode
  rw [percentDecode?, percentEncode_eq, String.toList_ofList, hbytes, Option.bind_eq_bind,
    Option.bind_some, harray, String.fromUTF8?, dif_pos hvalid]
  apply congrArg some
  rw [← String.toByteArray_inj]
  exact String.utf8Encode_toList

end CallChain.Text
