/-
# Places in a YAML text

A cursor is a place in a text: the characters that are left, and the line and
column of the first of them. Lines end at line feeds and at the two line ends of
Unicode; all other line ends have been turned into line feeds before. Between
tokens stand spaces, line ends and comments; tabs do not separate tokens.
-/

namespace CallChain.Yaml

/-- Whether a character ends a line. -/
def isBreak (c : Char) : Bool := c = '\n' || c = '\u2028' || c = '\u2029'

/-- Whether a character ends a line or separates the words of one. -/
def isGap (c : Char) : Bool := c = ' ' || c = '\t' || isBreak c

/-- Whether a text is at its end or starts with a gap. -/
def startsGap : List Char → Bool
  | [] => true
  | c :: _ => isGap c

/-- The text with a line feed for every line end that is not one of Unicode's. -/
def withLineFeeds : List Char → List Char
  | '\r' :: '\n' :: rest => '\n' :: withLineFeeds rest
  | c :: rest => (if c = '\r' || c = '\u0085' then '\n' else c) :: withLineFeeds rest
  | [] => []

/-- Whether a character may occur in a document at all. -/
def isPrintable (c : Char) : Bool :=
  c = '\t' || c = '\n' || c = '\r' || c = '\u0085' || (' ' ≤ c && c ≤ '~') ||
    (0xa0 ≤ c.toNat && c.toNat ≠ 0xfffe && c.toNat ≠ 0xffff)

/-- A place in a text. -/
structure Cursor where
  /-- The characters from here on. -/
  rest : List Char
  /-- How many lines have ended before. -/
  line : Nat := 0
  /-- How many characters of this line have been passed. -/
  column : Nat := 0

namespace Cursor

/-- The place after the next character. A byte order mark takes no column. -/
def next (c : Cursor) : Cursor :=
  match c.rest with
  | [] => c
  | x :: rest =>
    if isBreak x then ⟨rest, c.line + 1, 0⟩
    else ⟨rest, c.line, if x = '\ufeff' then c.column else c.column + 1⟩

/-- The place after the next `n` characters. -/
def move (c : Cursor) (n : Nat) : Cursor := n.repeat next c

/-- Whether the text ends here. -/
def isEnd (c : Cursor) : Bool := c.rest.isEmpty

/-- How many characters stand before the next token; `inComment` says that the
text starts inside a comment. -/
def skipped : Bool → List Char → Nat
  | _, [] => 0
  | inComment, c :: rest =>
    if isBreak c then skipped false rest + 1
    else if inComment || c = ' ' then skipped inComment rest + 1
    else if c = '#' then skipped true rest + 1
    else 0

/-- The place of the next token. -/
def toToken (c : Cursor) : Cursor := c.move (skipped false c.rest)

/-- Whether an entry of a list starts here: a hyphen before a gap. -/
def startsEntry (c : Cursor) : Bool :=
  match c.rest with
  | '-' :: rest => startsGap rest
  | _ => false

end Cursor

/-- What the gap between two words of a folded text stands for: a single line end
is a space, of several the first is left out, and a gap within a line stays. -/
def folded (gap : List Char) : List Char :=
  match gap.filter isBreak with
  | [] => gap
  | first :: others =>
    if first ≠ '\n' then first :: others else if others.isEmpty then [' '] else others

end CallChain.Yaml
