/-
# Renaming references

Ids are only meant for the session that made them, so a document refers to an
earlier step by its place. `toPlace` turns the ids in the placeholders of a text
into places, `toId` turns places into ids; both touch only references to steps
before a given place, and nothing of a text but the reference inside a
placeholder. A placeholder has a reference to rename when its text, blanks
aside, starts with a word that the end, a dot or an opening bracket follows.

Where places become ids, a place of too many digits is a problem; `textProblem?` and
its companions give the first one, and what renames places asks them before.
-/

import CallChain.Reference.Expression
import CallChain.Reference.Template
import CallChain.Text.Word
import CallChain.Value.Basic

namespace CallChain

/-- The parts of a placeholder whose reference may be renamed. -/
structure HoleParts where
  /-- The blanks before the reference. -/
  before : List Char
  /-- The reference. -/
  reference : List Char
  /-- What follows the reference. -/
  after : List Char
  deriving DecidableEq

namespace HoleParts

/-- Whether a character may start a reference. -/
def startsReference (c : Char) : Bool := c.isAlpha || c = '_'

/-- Whether a character may stand in a reference. -/
def continuesReference (c : Char) : Bool := Text.isWordChar c || c = '-'

/-- The parts of what stands in a placeholder; nothing if it does not start with a
reference. -/
def ofInner? (inner : List Char) : Option HoleParts :=
  let before := inner.takeWhile Text.isBlank
  match inner.dropWhile Text.isBlank with
  | [] => none
  | c :: rest =>
    let after := rest.dropWhile continuesReference
    if startsReference c && (after.all Text.isBlank || after.head? == some '.'
        || after.head? == some '[') then
      some ⟨before, c :: rest.takeWhile continuesReference, after⟩
    else none

/-- The placeholder with another reference. -/
def withReference (p : HoleParts) (reference : String) : List Char :=
  p.before ++ reference.toList ++ p.after

end HoleParts

/-- What a reference becomes; nothing when it stays. -/
abbrev Renaming := String → Option String

namespace Renaming

/-- References by id to steps before `before` become their places. -/
def toPlace (stepIds : List String) (before : Int) : Renaming := fun reference =>
  (stepIds.idxOf? reference).bind fun place =>
    if (place : Int) < before then some (Reference.ofPlace place) else none

/-- References by place to steps before `before` become their ids. -/
def toId (stepIds : List String) (before : Int) : Renaming := fun reference =>
  match Reference.place reference with
  | .ok (some place) => if (place : Int) < before then stepIds[place]? else none
  | _ => none

/-- A piece with its reference renamed. -/
def renamePiece (f : Renaming) : Piece → Piece
  | .literal text => .literal text
  | .hole inner =>
    match HoleParts.ofInner? inner with
    | none => .hole inner
    | some parts => match f (String.ofList parts.reference) with
      | none => .hole inner
      | some reference => .hole (parts.withReference reference)

/-- A text with the references in its placeholders renamed. -/
def text (f : Renaming) (s : String) : String :=
  String.ofList (Template.render ((Template.pieces s.toList).map (renamePiece f)))

/-- Whether a text starts with the braces of a placeholder. -/
def startsOpen (s : String) : Bool := ['\x7b', '\x7b'].isPrefixOf s.toList

/-- The text between the doubled braces that a text starts and ends with; the text
itself when it does not. -/
def withoutBraces (s : String) : String :=
  if startsOpen s && ['\x7d', '\x7d'].isSuffixOf s.toList then
    String.ofList ((s.toList.drop 2).take (s.length - 4))
  else s

/-- An expression with its reference renamed, as in a placeholder. An expression
that already starts with doubled braces is renamed as a text. -/
def expression (f : Renaming) (s : String) : String :=
  if startsOpen s then text f s
  else withoutBraces (text f ("\x7b\x7b" ++ s ++ "\x7d\x7d"))

/-- Bindings of parameters with the references of their expressions renamed. -/
def mappings (f : Renaming) (bindings : Fields String) : Fields String :=
  bindings.mapValues (expression f)

/-- A value with the references of a text renamed. -/
def value (f : Renaming) : Value → Value
  | .text s => .text (text f s)
  | other => other

/-- The problem of the place that a piece refers to. -/
def pieceProblem? : Piece → Option NumberProblem
  | .literal _ => none
  | .hole inner => (HoleParts.ofInner? inner).bind fun parts =>
    match Reference.place (String.ofList parts.reference) with
    | .error problem => some problem
    | .ok _ => none

/-- The first problem of a place that a text refers to. -/
def textProblem? (s : String) : Option NumberProblem :=
  (Template.pieces s.toList).findSome? pieceProblem?

/-- The first problem of a place that an expression refers to. -/
def expressionProblem? (s : String) : Option NumberProblem :=
  if startsOpen s then textProblem? s else textProblem? ("\x7b\x7b" ++ s ++ "\x7d\x7d")

/-- The first problem of a place that bindings of parameters refer to. -/
def mappingsProblem? (bindings : Fields String) : Option NumberProblem :=
  bindings.findSome? fun entry =>
    if entry.2 = "" then none else expressionProblem? entry.2

/-- The first problem of a place that a value refers to. -/
def valueProblem? : Value → Option NumberProblem
  | .text s => textProblem? s
  | _ => none

end Renaming

end CallChain
