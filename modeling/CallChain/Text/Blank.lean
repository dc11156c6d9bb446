/-
# Blanks

What counts as blank is the property White_Space of Unicode 14 together with the
four information separators U+001C to U+001F. Trimming, splitting into words and
the blanks inside a placeholder all use this one class. Around a number only white
space is trimmed, without the separators.
-/

import CallChain.Text.Basic

namespace CallChain.Text

/-- The code points that count as blank, as closed ranges. -/
def blankRanges : List (Nat × Nat) :=
  [(0x09, 0x0d), (0x1c, 0x20), (0x85, 0x85), (0xa0, 0xa0), (0x1680, 0x1680), (0x2000, 0x200a),
   (0x2028, 0x2029), (0x202f, 0x202f), (0x205f, 0x205f), (0x3000, 0x3000)]

/-- Whether a character is blank. -/
def isBlank (c : Char) : Bool := inRanges blankRanges c.toNat

/-- The characters from the first one that is not blank. -/
def trimStart (text : List Char) : List Char := text.dropWhile isBlank

/-- The characters up to the last one that is not blank. -/
def trimEnd (text : List Char) : List Char := (text.reverse.dropWhile isBlank).reverse

/-- The characters without the blanks at both ends. -/
def trimChars (text : List Char) : List Char := trimEnd (trimStart text)

/-- Whether a character is white space. -/
def isWhite (c : Char) : Bool := isBlank c && !(0x1c ≤ c.toNat && c.toNat ≤ 0x1f)

/-- The characters without the white space at both ends. -/
def trimWhite (text : List Char) : List Char :=
  ((text.dropWhile isWhite).reverse.dropWhile isWhite).reverse

/-- The text without the blanks at both ends. -/
def trim (text : String) : String := String.ofList (trimChars text.toList)

/-- Whether nothing is left of a text once its blanks are trimmed. -/
def isBlankText (text : String) : Bool := text.toList.all isBlank

/-- The words of a text: its maximal runs of characters that are not blank. -/
def wordsFrom : List Char → List (List Char)
  | [] => []
  | c :: rest =>
    if isBlank c then wordsFrom rest
    else match rest with
      | [] => [[c]]
      | next :: _ =>
        if isBlank next then [c] :: wordsFrom rest
        else match wordsFrom rest with
          | [] => [[c]]
          | word :: words => (c :: word) :: words

/-- The words of a text, joined by single blanks. -/
def oneLine (text : String) : String :=
  String.ofList (joinWith [' '] (wordsFrom text.toList))

/-- The first word of a text and what follows it, each without blanks at its
ends; nothing for a blank text. -/
def firstWord (text : String) : Option (String × Option String) :=
  let chars := trimChars text.toList
  if chars.isEmpty then none
  else
    let word := chars.takeWhile (fun c => !isBlank c)
    let rest := trimStart (chars.dropWhile (fun c => !isBlank c))
    some (String.ofList word, if rest.isEmpty then none else some (String.ofList rest))

end CallChain.Text
