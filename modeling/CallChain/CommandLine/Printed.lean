/-
# What is printed

What a program prints goes to a file or to another program as well as to a terminal,
so the sequences that tell a terminal to change colours are left out: an escape, an
opening bracket, digits with question marks and semicolons, and a letter. A line that
is meant to end in a carriage return and a line feed ends in the line feed alone.
-/

import CallChain.Text.Basic

namespace CallChain.CommandLine

/-- Whether a character may stand in a sequence for a terminal before its letter. -/
def isSequenceChar (c : Char) : Bool := c.isDigit || c = ';' || c = '?'

/-- How many characters the sequence for a terminal takes that a text starts with;
nothing if it starts with none. -/
def sequenceLength? : List Char → Option Nat
  | '\x1b' :: '[' :: rest =>
    let inside := rest.takeWhile isSequenceChar
    if (rest.drop inside.length).head?.any Char.isAlpha then some (inside.length + 3) else none
  | _ => none

/-- A text without the sequences for a terminal. `skip` counts the characters of a
sequence still to be passed. -/
def withoutSequencesFrom : Nat → List Char → List Char
  | _, [] => []
  | skip + 1, _ :: rest => withoutSequencesFrom skip rest
  | 0, c :: rest =>
    match sequenceLength? (c :: rest) with
    | some length => withoutSequencesFrom (length - 1) rest
    | none => c :: withoutSequencesFrom 0 rest

/-- A text without the sequences for a terminal. -/
def withoutSequences (text : String) : String :=
  String.ofList (withoutSequencesFrom 0 text.toList)

/-- A text without the carriage returns that stand before a line feed. -/
def withPlainLineEnds : List Char → List Char
  | '\r' :: '\n' :: rest => '\n' :: withPlainLineEnds rest
  | c :: rest => c :: withPlainLineEnds rest
  | [] => []

/-- What lines look like once they are printed. -/
def printed (lines : List String) : String :=
  String.ofList (withPlainLineEnds
    (lines.flatMap fun line => (withoutSequences line).toList ++ ['\n']))

end CallChain.CommandLine
