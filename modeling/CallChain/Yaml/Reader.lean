/-
# Reading YAML

`Yaml.read` reads the one document of a text. Block lists and mappings are told
apart by their columns: the entries of one stand in one column, what belongs to an
entry stands further to the right, and only a list under a key may stand in the
column of the key. Inside brackets columns do not count. A key is a scalar on one
line of at most 1024 characters. Anchors, tags, explicit keys and several
documents in one text are not read.

Each reader takes a place and gives what it read with the place after it; block
readers go on to the next token, which has to stand on a new line. The first
argument bounds the calls of the readers, of which at most four in a row take no
character; the second one says how many more lists and mappings may be opened inside
each other.
-/

import CallChain.Yaml.Written

namespace CallChain.Yaml

/-- The largest number of characters between the start of a key and its colon. -/
def keyLimit : Nat := 1024

/-- The place of the colon after a key that starts at `start` and ends at `stop`. -/
def keyColon? (flow : Bool) (start stop : Cursor) : Option Cursor :=
  let colon := stop.toToken
  match colon.rest with
  | ':' :: rest =>
    if colon.line = start.line && start.rest.length - colon.rest.length ≤ keyLimit &&
        (flow || startsGap rest) then some colon
    else none
  | _ => none

/-- The next token after something that ended on a line; it has to stand on a later
line. -/
def nextLine? (last : Nat) (c : Cursor) : Option Cursor :=
  let token := c.toToken
  if token.isEnd || last < token.line then some token else none

/-! ## Answers -/

/-- How many lists and mappings may be open at a place, for a reader that is called from
nowhere deep: each takes two of a thousand calls that may be open, of which the callers
have forty. -/
def nestingLimit : Nat := 480

/-- A reader's answer, or why it stops. -/
abbrev Reading := Except (Refusal Unit)

/-- The answer of a reader at a text that it cannot read. -/
def malformed {α : Type} : Reading α := .error (.malformed ())

/-- The answer of a reader that may find nothing it can read. -/
def found {α : Type} : Option α → Reading α
  | some a => .ok a
  | none => malformed

/-! ## Inside brackets -/

/-- What a value inside brackets ends before. -/
def endsFlowValue (c : Cursor) : Bool :=
  c.rest.head?.any fun x => [',', ']', '\x7d'].contains x

mutual
/-- The tree at a place inside brackets. -/
def readFlow : Nat → Nat → Cursor → Reading (Tree × Cursor)
  | 0, _, _ => malformed
  | depth + 1, levels, c =>
    match c.rest, levels with
    | '[' :: _, 0 | '\x7b' :: _, 0 => .error .tooDeep
    | '[' :: _, levels + 1 =>
      (readFlowItems depth levels c.next.toToken).map fun (items, after) => (.list items, after)
    | '\x7b' :: _, levels + 1 =>
      (readFlowEntries depth levels c.next.toToken).map fun (entries, after) =>
        (.mapping entries, after)
    | _, _ => (found (token? true 0 c)).map fun t => (.leaf t.lexeme, t.next)

/-- The tree after a colon inside brackets; nothing may stand there. -/
def readFlowValue : Nat → Nat → Cursor → Reading (Tree × Cursor)
  | 0, _, _ => malformed
  | depth + 1, levels, c =>
    if endsFlowValue c then .ok (.none, c) else readFlow depth levels c

/-- A tree inside brackets that may be a key with its tree. -/
def readFlowPair : Nat → Nat → Cursor → Reading ((Tree × Option Tree) × Cursor)
  | 0, _, _ => malformed
  | depth + 1, levels, c => do
    let (tree, after) ← readFlow depth levels c
    if after.toToken.rest.head? == some ':' then
      let colon ← found (keyColon? true c after)
      let (value, left) ← readFlowValue depth levels colon.next.toToken
      return ((tree, some value), left)
    else return ((tree, none), after)

/-- The items of a list up to its closing bracket. -/
def readFlowItems : Nat → Nat → Cursor → Reading (List Tree × Cursor)
  | 0, _, _ => malformed
  | depth + 1, levels, c =>
    if c.rest.head? == some ']' then .ok ([], c.next)
    else do
      let ((tree, value), after) ← readFlowPair depth levels c
      let item ← match value, tree with
        | none, _ => .ok tree
        | some v, .leaf key => .ok (.mapping [(key, v)])
        | some _, _ => malformed
      let token := after.toToken
      match token.rest with
      | ',' :: _ =>
        (readFlowItems depth levels token.next.toToken).map fun (items, left) =>
          (item :: items, left)
      | ']' :: _ => .ok ([item], token.next)
      | _ => malformed

/-- The entries of a mapping up to its closing brace. -/
def readFlowEntries : Nat → Nat → Cursor → Reading (List (Lexeme × Tree) × Cursor)
  | 0, _, _ => malformed
  | depth + 1, levels, c =>
    if c.rest.head? == some '\x7d' then .ok ([], c.next)
    else do
      let ((tree, value), after) ← readFlowPair depth levels c
      let entry ← match tree with
        | .leaf key => .ok (key, value.getD .none)
        | _ => malformed
      let token := after.toToken
      match token.rest with
      | ',' :: _ =>
        (readFlowEntries depth levels token.next.toToken).map fun (entries, left) =>
          (entry :: entries, left)
      | '\x7d' :: _ => .ok ([entry], token.next)
      | _ => malformed
end

/-! ## Blocks -/

/-- Whether a block of lines starts here. -/
def startsLines (c : Cursor) : Bool := c.rest.head? == some '|' || c.rest.head? == some '>'

/-- The tree of a scalar outside brackets; the next token has to stand on a new
line. -/
def finishScalar (t : Option Token) : Reading (Tree × Cursor) := do
  let t ← found t
  let next ← found (nextLine? t.last t.next)
  return (.leaf t.lexeme, next)

mutual
/-- The tree at a place outside brackets. Its continuation lines have to stand at
column `floor` or further to the right; `opens` says whether a block list or
mapping may start here. -/
def readBlock : Nat → Nat → Nat → Bool → Cursor → Reading (Tree × Cursor)
  | 0, _, _, _, _ => malformed
  | depth + 1, levels, floor, opens, c =>
    if c.startsEntry then
      if opens then readList depth levels c.column c else malformed
    else match c.rest with
      | '[' :: _ | '\x7b' :: _ => do
        let (tree, after) ← readFlow depth levels c
        let next ← found (nextLine? after.line after)
        return (tree, next)
      | '|' :: _ => finishScalar (blockToken? false floor c)
      | '>' :: _ => finishScalar (blockToken? true floor c)
      | _ => do
        let t ← found (token? false floor c)
        match (if opens then keyColon? false c t.next else none), levels with
        | none, _ => finishScalar (some t)
        | some _, 0 => .error .tooDeep
        | some colon, levels + 1 =>
          (readEntries depth levels c.column t.lexeme colon).map fun (entries, after) =>
            (.mapping entries, after)

/-- The list whose entries stand in a column. -/
def readList : Nat → Nat → Nat → Cursor → Reading (Tree × Cursor)
  | 0, _, _, _ => malformed
  | _ + 1, 0, _, _ => .error .tooDeep
  | depth + 1, levels + 1, column, c =>
    (readItems depth levels column c).map fun (items, after) => (.list items, after)

/-- The tree that belongs to the indicator at a place, of an entry that starts in
a column. Under a key a list may stand in the same column, and a block of lines may
start there in any case. -/
def readContent : Nat → Nat → Nat → Bool → Cursor → Reading (Tree × Cursor)
  | 0, _, _, _, _ => malformed
  | depth + 1, levels, column, isField, indicator =>
    let token := indicator.next.toToken
    if token.isEnd then .ok (.none, token)
    else if token.line = indicator.line then
      readBlock depth levels (column + 1) (!isField) token
    else if column < token.column || (token.column = column && startsLines token) then
      readBlock depth levels (column + 1) true token
    else if isField && token.column = column && token.startsEntry then
      readList depth levels column token
    else .ok (.none, token)

/-- The items of the list in a column, from the hyphen of the first one on. -/
def readItems : Nat → Nat → Nat → Cursor → Reading (List Tree × Cursor)
  | 0, _, _, _ => malformed
  | depth + 1, levels, column, hyphen => do
    let (item, after) ← readContent depth levels column false hyphen
    if after.column = column && after.startsEntry then
      (readItems depth levels column after).map fun (items, left) => (item :: items, left)
    else return ([item], after)

/-- The entries of the mapping in a column, from a key and its colon on. -/
def readEntries : Nat → Nat → Nat → Lexeme → Cursor → Reading (List (Lexeme × Tree) × Cursor)
  | 0, _, _, _, _ => malformed
  | depth + 1, levels, column, key, colon => do
    let (tree, after) ← readContent depth levels column true colon
    if after.isEnd || after.column < column then return ([(key, tree)], after)
    else if after.column = column then
      let t ← found (token? false (column + 1) after)
      let other ← found (keyColon? false after t.next)
      (readEntries depth levels column t.lexeme other).map fun (entries, left) =>
        ((key, tree) :: entries, left)
    else malformed
end

/-! ## Documents -/

/-- Whether a line separates documents. -/
def isSeparator (line : List Char) : Bool :=
  (['-', '-', '-'].isPrefixOf line || ['.', '.', '.'].isPrefixOf line) && startsGap (line.drop 3)

/-- Whether some line of a text separates documents. -/
def hasSeparator (text : List Char) : Bool := (Text.splitAt '\n' text).any isSeparator

/-- The tree of the document that starts at a place. -/
def readDocument (c : Cursor) : Reading Tree :=
  let depth := 5 * c.rest.length + 5
  let start := c.toToken
  let (opens, token) :=
    if isSeparator start.rest && start.column = 0 && start.rest.head? == some '-' then
      let token := (start.move 3).toToken
      (decide (start.line < token.line), token)
    else (true, start)
  if hasSeparator (List.replicate token.column ' ' ++ token.rest) then malformed
  else if token.isEnd then .ok .none
  else do
    let (tree, after) ← readBlock depth nestingLimit 0 opens token
    if after.isEnd then return tree else malformed

/-- The document that a text writes. -/
def read (text : String) : Reading Node :=
  if text.toList.all isPrintable then
    let chars := withLineFeeds text.toList
    (readDocument ⟨if chars.head? == some '\ufeff' then chars.drop 1 else chars, 0, 0⟩).bind
      Tree.node
  else malformed

end CallChain.Yaml
