/-
# Written scalars

A scalar is written between single or double quotes, without quotes, or as a block
of indented lines. Each reader starts at the first character of the scalar and
gives its text with the places where it ends: `last` is the line of its last
character, `next` the place after it and the gap that belongs to it. The fuel of
the readers is the number of characters that are left, as each turn takes one.
-/

import CallChain.Json.Reader
import CallChain.Yaml.Cursor
import CallChain.Yaml.Tree

namespace CallChain.Yaml

/-- A scalar that was read. -/
structure Token where
  /-- How it is written. -/
  lexeme : Lexeme
  /-- The line on which it ends. -/
  last : Nat
  /-- The place after it. -/
  next : Cursor

/-! ## Between quotes -/

/-- The character that an escape writes by a single letter. -/
def letterEscape? (c : Char) : Option Char :=
  [('0', '\x00'), ('a', '\x07'), ('b', '\x08'), ('t', '\t'), ('\t', '\t'), ('n', '\n'),
   ('v', '\x0b'), ('f', '\x0c'), ('r', '\r'), ('e', '\x1b'), (' ', ' '), ('"', '"'),
   ('\\', '\\'), ('/', '/'), ('N', '\u0085'), ('_', '\u00a0'), ('L', '\u2028'),
   ('P', '\u2029')].lookup c

/-- How many hexadecimal digits follow a letter that starts an escape by number. -/
def escapeWidth? (c : Char) : Option Nat := [('x', 2), ('u', 4), ('U', 8)].lookup c

/-- The code point that the next `width` characters write. -/
def codePoint? (width : Nat) (rest : List Char) : Option Nat :=
  if rest.length < width then none else Text.ofHex? (rest.take width)

/-- The character that an escape by number writes, with the number of characters it
takes after its letter. Two halves of a pair are read together. -/
def numberEscape? (width : Nat) (rest : List Char) : Option (Char × Nat) := do
  let point ← codePoint? width rest
  let paired := match rest.drop width with
    | '\\' :: 'u' :: more =>
      if Json.isHighHalf point then (codePoint? 4 more).filter Json.isLowHalf else none
    | _ => none
  match paired with
  | some low =>
    return (Char.ofNat (0x10000 + (point - 0xd800) * 0x400 + (low - 0xdc00)), width + 6)
  | none =>
    if point < 0x110000 then return (Json.unitChar point, width) else none

/-- The text up to the closing quote, and the place after it. -/
def readQuoted (double : Bool) : Nat → Cursor → Option (List Char × Cursor)
  | 0, _ => none
  | fuel + 1, c =>
    let goOn (text : List Char) (taken : Nat) : Option (List Char × Cursor) :=
      (readQuoted double fuel (c.move taken)).map fun (more, after) => (text ++ more, after)
    match c.rest with
    | [] => none
    | x :: rest =>
      if isGap x then
        let gap := c.rest.takeWhile isGap
        goOn (folded gap) gap.length
      else if double then
        if x = '"' then some ([], c.next)
        else if x = '\\' then
          match rest with
          | [] => none
          | e :: more =>
            if isBreak e then
              let gap := more.takeWhile isGap
              goOn (gap.filter isBreak) (gap.length + 2)
            else match letterEscape? e, escapeWidth? e with
              | some d, _ => goOn [d] 2
              | none, some width =>
                match numberEscape? width more with
                | some (d, taken) => goOn [d] (taken + 2)
                | none => none
              | none, none => none
        else goOn [x] 1
      else if x = '\'' then
        if rest.head? == some '\'' then goOn ['\''] 2 else some ([], c.next)
      else goOn [x] 1

/-- The scalar that starts with a quote. -/
def quotedToken? (double : Bool) (c : Cursor) : Option Token :=
  (readQuoted double c.rest.length c.next).map fun (text, after) =>
    ⟨⟨text, false⟩, after.line, after⟩

/-! ## Without quotes -/

/-- Whether a character ends a scalar without quotes inside brackets. -/
def isFlowMark (c : Char) : Bool := [',', '?', '[', ']', '\x7b', '\x7d'].contains c

/-- Whether a colon before this text ends a scalar without quotes. -/
def endsAtColon (flow : Bool) (rest : List Char) : Bool :=
  startsGap rest ||
    (flow && (rest.head?.any fun c => [',', '[', ']', '\x7b', '\x7d'].contains c))

/-- The characters of one word of a scalar without quotes. -/
def plainWord (flow : Bool) : List Char → List Char
  | [] => []
  | c :: rest =>
    if isGap c || (c = ':' && endsAtColon flow rest) || (flow && isFlowMark c) then []
    else c :: plainWord flow rest

/-- The words of a scalar without quotes with the gaps between them, the line of
the last one, and the place after the gap that follows it. Outside brackets a word
has to stand at column `floor` or further to the right. -/
def readPlain (flow : Bool) (floor : Nat) : Nat → Cursor → List Char × Nat × Cursor
  | 0, c => ([], c.line, c)
  | fuel + 1, c =>
    let word := plainWord flow c.rest
    let after := c.move word.length
    let gap := after.rest.takeWhile fun x => x = ' ' || isBreak x
    let next := after.move gap.length
    if word.isEmpty || gap.isEmpty || next.rest.head? == some '#' ||
        (!flow && next.column < floor) then (word, after.line, next)
    else
      let (more, last, left) := readPlain flow floor fuel next
      if more.isEmpty then (word, after.line, left) else (word ++ folded gap ++ more, last, left)

/-- Whether a scalar without quotes may start here. -/
def startsPlain (flow : Bool) : List Char → Bool
  | [] => false
  | c :: rest =>
    if isGap c then false
    else if ['-', '?', ':'].contains c then !startsGap rest && (c = '-' || !flow)
    else !("[]\x7b\x7d,#&*!|>'\"%@".toList.contains c || c.toNat = 0x60)

/-- The scalar without quotes that starts here. -/
def plainToken? (flow : Bool) (floor : Nat) (c : Cursor) : Option Token :=
  if startsPlain flow c.rest then
    let (text, last, next) := readPlain flow floor c.rest.length c
    some ⟨⟨text, true⟩, last, next⟩
  else none

/-- The scalar with or without quotes that starts here. -/
def token? (flow : Bool) (floor : Nat) (c : Cursor) : Option Token :=
  match c.rest with
  | '"' :: _ => quotedToken? true c
  | '\'' :: _ => quotedToken? false c
  | _ => plainToken? flow floor c

/-! ## Blocks of lines -/

/-- What becomes of the line ends at the end of a block. -/
inductive Chomping where
  /-- The last line end of the text stays. -/
  | clip
  /-- No line end stays. -/
  | strip
  /-- All line ends stay. -/
  | keep
  deriving DecidableEq

/-- The chomping that a character asks for. -/
def chomping? : Char → Option Chomping
  | '+' => some .keep
  | '-' => some .strip
  | _ => none

/-- The indentation that a character asks for. -/
def increment? (c : Char) : Option Nat :=
  if '1' ≤ c && c ≤ '9' then some (c.toNat - 48) else none

/-- The indicators at the start of a block, in either order, and how many
characters they take. -/
def blockIndicators (rest : List Char) : Chomping × Option Nat × Nat :=
  match rest with
  | [] => (.clip, none, 0)
  | a :: more =>
    let second := more.head?
    match chomping? a, increment? a with
    | some chomping, _ =>
      match second.bind increment? with
      | some n => (chomping, some n, 2)
      | none => (chomping, none, 1)
    | none, some n =>
      match second.bind chomping? with
      | some chomping => (chomping, some n, 2)
      | none => (.clip, some n, 1)
    | none, none => (.clip, none, 0)

/-- The line ends of blank lines, and the number of characters that they take; a
line loses at most `indent` spaces, of which `column` have been taken. -/
def blankLines (indent : Nat) : Nat → List Char → List Char × Nat
  | _, [] => ([], 0)
  | column, c :: rest =>
    if isBreak c then
      let (breaks, taken) := blankLines indent 0 rest
      (c :: breaks, taken + 1)
    else if c = ' ' && column < indent then
      let (breaks, taken) := blankLines indent (column + 1) rest
      (breaks, taken + 1)
    else ([], 0)

/-- The largest number of spaces at the start of some blank line, or before the
first character that is no space. -/
def widestBlank : Nat → List Char → Nat
  | column, c :: rest =>
    if c = ' ' then max (column + 1) (widestBlank (column + 1) rest)
    else if isBreak c then widestBlank 0 rest
    else 0
  | _, [] => 0

/-- Whether a line starts with a space or a tab. -/
def startsIndented (rest : List Char) : Bool :=
  rest.head? == some ' ' || rest.head? == some '\t'

/-- The text of the lines from a place on, with the last line end and the line ends
of the blank lines after it. -/
def readLines (fold : Bool) (indent : Nat) : Nat → Cursor →
    List Char × List Char × List Char × Cursor
  | 0, c => ([], [], [], c)
  | fuel + 1, c =>
    let line := c.rest.takeWhile fun x => !isBreak x
    let lineEnd := c.move line.length
    let ending := lineEnd.rest.take 1
    let below := lineEnd.move 1
    let (breaks, taken) := blankLines indent below.column below.rest
    let next := below.move taken
    if next.column = indent && !next.isEnd && !ending.isEmpty then
      let joint :=
        if fold && ending = ['\n'] && !startsIndented c.rest && !startsIndented next.rest then
          (if breaks.isEmpty then [' '] else [])
        else ending
      let (more, tail) := readLines fold indent fuel next
      (line ++ joint ++ breaks ++ more, tail)
    else (line, ending, breaks, next)

/-- The scalar that is written as a block of lines. The place is that of its
indicator; the lines have to start at column `floor` or further to the right. -/
def blockToken? (fold : Bool) (floor : Nat) (c : Cursor) : Option Token :=
  let (chomping, increment, taken) := blockIndicators (c.rest.drop 1)
  let header := c.move (1 + taken)
  if startsGap header.rest && header.rest.head? != some '\t' then
    let comment := header.move (header.rest.takeWhile (· = ' ')).length
    let ending := if comment.rest.head? == some '#' then
        comment.move (comment.rest.takeWhile fun x => !isBreak x).length
      else comment
    if ending.isEnd || ending.rest.head?.any isBreak then
      let below := ending.move 1
      let least := max floor 1
      let indent := match increment with
        | none => max least (widestBlank 0 below.rest)
        | some n => least + n - 1
      let (breaks, blank) := blankLines indent 0 below.rest
      let start := below.move blank
      let (text, lineEnd, tail, next) :=
        if start.column = indent && !start.isEnd then
          let (text, tail) := readLines fold indent start.rest.length start
          (breaks ++ text, tail)
        else ([], [], breaks, start)
      let closing := match chomping with
        | .clip => lineEnd
        | .strip => []
        | .keep => lineEnd ++ tail
      some ⟨⟨text ++ closing, false⟩, c.line, next⟩
    else none
  else none

end CallChain.Yaml
