/-
# Reading a text from the left

Templates of several kinds are read in the same way: at each character either a piece of some
shape starts, and reading goes on behind it, or the character stands for itself. A reader that
works along the characters counts those of a piece that it still has to pass.
-/

namespace CallChain.Text

/-- A reader that passes as many characters as it has counted reads on behind them. -/
theorem skip_append {β : Type} (read : Nat → List Char → β)
    (hskip : ∀ skip c rest, read (skip + 1) (c :: rest) = read skip rest)
    (front rest : List Char) : read front.length (front ++ rest) = read 0 rest := by
  induction front with
  | nil => rfl
  | cons c front ih => rw [List.length_cons, List.cons_append, hskip, ih]

/-- Induction on a text as it is read: it is empty, or starts with the source of a piece, or
with a character at which no piece is read. -/
theorem induction_of_pieces {α : Type} {P IsInner : List Char → Prop}
    {source : List Char → List Char} {pieceAt? : List Char → Option α}
    (hne : ∀ inner, source inner ≠ [])
    (hcases : ∀ text, (∃ inner rest, IsInner inner ∧ text = source inner ++ rest) ∨
      pieceAt? text = none)
    (nil : P []) (piece : ∀ inner rest, IsInner inner → P rest → P (source inner ++ rest))
    (char : ∀ c rest, pieceAt? (c :: rest) = none → P rest → P (c :: rest)) : ∀ text, P text
  | [] => nil
  | c :: rest => by
      rcases hcases (c :: rest) with ⟨inner, tail, hinner, htext⟩ | hnone
      · have hlength : tail.length < (c :: rest).length := by
          rw [htext, List.length_append]
          exact Nat.lt_add_of_pos_left (List.length_pos_iff.mpr (hne inner))
        rw [htext]
        exact piece inner tail hinner (induction_of_pieces hne hcases nil piece char tail)
      · exact char c rest hnone (induction_of_pieces hne hcases nil piece char rest)
  termination_by text => text.length
  decreasing_by
    · exact hlength
    · exact Nat.lt_succ_self rest.length

end CallChain.Text
