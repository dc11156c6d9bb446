/-
# Placeholders in a text

A text may hold placeholders: an expression between doubled braces. `pieces` cuts
a text, once and for all, into literal stretches and holes; everything that reads
or changes placeholders works on these pieces. A hole is a non-empty run of
characters without braces, with two braces directly before it and two directly
after; holes are taken from the left and do not overlap. Putting the pieces
together again gives back the text.
-/

import CallChain.Text.Blank

namespace CallChain

/-- A stretch of a text that holds placeholders. -/
inductive Piece where
  /-- Characters that stand for themselves. -/
  | literal (text : List Char)
  /-- What stands between the braces of a placeholder. -/
  | hole (inner : List Char)
  deriving DecidableEq

namespace Piece

/-- The characters of a piece. -/
def render : Piece → List Char
  | literal text => text
  | hole inner => '\x7b' :: '\x7b' :: inner ++ ['\x7d', '\x7d']

/-- Whether a piece is a hole. -/
def isHole : Piece → Bool
  | hole _ => true
  | literal _ => false

/-- The expression of a hole: what stands in it without blanks at the ends. -/
def expression? : Piece → Option String
  | hole inner => some (String.ofList (Text.trimChars inner))
  | literal _ => none

end Piece

namespace Template

/-- Whether a character may stand inside a hole. -/
def isInner (c : Char) : Bool := c != '\x7b' && c != '\x7d'

/-- What stands in the hole that a text starts with. -/
def holeAt? : List Char → Option (List Char)
  | '\x7b' :: '\x7b' :: rest =>
    let inner := rest.takeWhile isInner
    match rest.dropWhile isInner with
    | '\x7d' :: '\x7d' :: _ => if inner.isEmpty then none else some inner
    | _ => none
  | _ => none

/-- The pieces with a character put in front. -/
def consLiteral (c : Char) : List Piece → List Piece
  | .literal text :: pieces => .literal (c :: text) :: pieces
  | pieces => .literal [c] :: pieces

/-- The pieces of a text. `skip` counts the characters of a hole still to be
passed. -/
def piecesFrom : Nat → List Char → List Piece
  | _, [] => []
  | skip + 1, _ :: rest => piecesFrom skip rest
  | 0, c :: rest =>
    match holeAt? (c :: rest) with
    | some inner => .hole inner :: piecesFrom (inner.length + 3) rest
    | none => consLiteral c (piecesFrom 0 rest)

/-- The literal stretches and holes of a text, in order. -/
def pieces (text : List Char) : List Piece := piecesFrom 0 text

/-- The text that pieces make. -/
def render (ps : List Piece) : List Char := ps.flatMap Piece.render

/-- A text that starts with a hole is the hole and a rest. -/
theorem eq_of_holeAt? {text inner : List Char} (h : holeAt? text = some inner) :
    ∃ rest, text = (Piece.hole inner).render ++ rest := by
  unfold holeAt? at h
  split at h
  · next rest =>
    dsimp only at h
    split at h
    · next tail htail =>
      split at h
      · cases h
      · cases h
        refine ⟨tail, ?_⟩
        have hsplit := List.takeWhile_append_dropWhile (p := isInner) (l := rest)
        rw [htail] at hsplit
        simp only [Piece.render, List.cons_append, List.append_assoc, List.nil_append]
        rw [hsplit]
    · cases h
  · cases h

@[simp] theorem render_consLiteral (c : Char) (ps : List Piece) :
    render (consLiteral c ps) = c :: render ps := by
  match ps with
  | [] => rfl
  | .literal text :: rest => rfl
  | .hole inner :: rest => rfl

theorem render_piecesFrom (skip : Nat) (text : List Char) :
    render (piecesFrom skip text) = text.drop skip := by
  induction text generalizing skip with
  | nil => cases skip <;> rfl
  | cons c rest ih =>
    match skip with
    | skip + 1 => simpa [piecesFrom] using ih skip
    | 0 =>
      simp only [piecesFrom]
      split
      · next inner hinner =>
        obtain ⟨tail, htail⟩ := eq_of_holeAt? hinner
        simp only [Piece.render, List.cons_append, List.cons.injEq] at htail
        obtain ⟨rfl, rfl⟩ := htail
        have hdrop : List.drop inner.length (inner ++ ['\x7d', '\x7d'] ++ tail)
            = ['\x7d', '\x7d'] ++ tail := by simp
        have hrender := ih (inner.length + 3)
        simp only [render, List.flatMap_cons] at hrender ⊢
        rw [hrender]
        simp [Piece.render]
      · simp [ih 0]

/-- Cutting a text into pieces loses nothing. -/
theorem render_pieces (text : List Char) : render (pieces text) = text :=
  render_piecesFrom 0 text

/-- Whether a text holds a placeholder. -/
def hasHole (text : String) : Bool := (pieces text.toList).any Piece.isHole

/-- The expression of a text that is one placeholder, blanks around it aside. -/
def whole? (text : String) : Option String :=
  match pieces (Text.trimChars text.toList) with
  | [piece] => piece.expression?
  | _ => none

end Template

end CallChain
