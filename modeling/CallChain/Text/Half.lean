/-
# Halves of pairs

An escape can name one half of a pair of code units without the other. Such a half
is no character, and a text that holds one is not written in UTF-8; apart from that
it is a text like any other. Here a character of a block that is not assigned stands
in for it. Who has to tell the two apart is given the characters that are taken for
halves: for a text without halves, these may be none.
-/

namespace CallChain.Text

/-- The character that stands in for half a pair, given its code unit. -/
def ofHalf (unit : Nat) : Char := Char.ofNat (0xd0000 + unit)

/-- Whether a character stands in for half a pair. -/
def isHalf (c : Char) : Bool := 0xdd800 ≤ c.toNat && c.toNat < 0xde000

/-- Whether a text can be written in UTF-8, given which of its characters are taken
for halves. -/
def isEncodable (half : Char → Bool) (text : String) : Bool := !text.toList.any half

theorem toNat_ofCode {code : Nat} (h : code.isValidChar) : (Char.ofNat code).toNat = code := by
  rw [Char.ofNat, dif_pos h]
  rfl

theorem isHalf_ofHalf {unit : Nat} (hlow : 0xd800 ≤ unit) (hhigh : unit < 0xe000) :
    isHalf (ofHalf unit) = true := by
  rw [isHalf, ofHalf, toNat_ofCode (Or.inr ⟨by omega, by omega⟩), Bool.and_eq_true,
    decide_eq_true_iff, decide_eq_true_iff]
  exact ⟨by omega, by omega⟩

/-- With no characters taken for halves, every text can be written. -/
@[simp] theorem isEncodable_none (text : String) : isEncodable (fun _ => false) text = true := by
  simp [isEncodable]

end CallChain.Text
