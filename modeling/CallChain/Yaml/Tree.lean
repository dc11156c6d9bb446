/-
# Trees of written scalars

What is written in a document comes before what it means: a tree of lexemes, which
are the texts of scalars with or without quotes. `Tree.node` gives the tree its
meaning. A mapping may take entries from other mappings under the key `<<`, which is
written without quotes; its own entries count before those, and of several mappings
the first counts most.
-/

import CallChain.Yaml.Plain

namespace CallChain.Yaml

/-- A scalar as it is written. -/
structure Lexeme where
  /-- Its text. -/
  text : List Char
  /-- Whether it is written without quotes. -/
  isPlain : Bool
  deriving DecidableEq

namespace Lexeme

/-- The lexeme of what is absent. -/
def none : Lexeme := ⟨[], true⟩

/-- The scalar that a lexeme means. -/
def scalar (l : Lexeme) : Except (Refusal Unit) Scalar :=
  if !l.isPlain then .ok (.text (String.ofList l.text))
  else if l.text = ['<', '<'] then .error (.malformed ())
  else Scalar.ofPlain l.text

/-- Whether a key takes the entries of other mappings. -/
def takesOthers (l : Lexeme) : Bool := l.isPlain && l.text = ['<', '<']

/-- The scalar that a lexeme means as a key, where an equals sign is a text. -/
def key (l : Lexeme) : Except (Refusal Unit) Scalar :=
  if l.text = ['='] then .ok (.text "=") else l.scalar

end Lexeme

/-- What is written in a document. -/
inductive Tree where
  /-- A single scalar. -/
  | leaf (l : Lexeme)
  /-- A list. -/
  | list (items : List Tree)
  /-- Trees by key, in order. -/
  | mapping (entries : List (Lexeme × Tree))

namespace Tree

/-- The tree of what is absent. -/
def none : Tree := leaf Lexeme.none

/-- The entries that a mapping takes from a node: those of a mapping, or of all
mappings of a list, the last one first. -/
def taken : Node → Except (Refusal Unit) (List (Scalar × Node))
  | .mapping entries => .ok entries
  | .list items => match items.mapM Node.mapping? with
    | some mappings => .ok mappings.reverse.flatten
    | Option.none => .error (.malformed ())
  | .scalar _ => .error (.malformed ())

mutual
/-- The node that a tree means. -/
def node : Tree → Except (Refusal Unit) Node
  | leaf l => l.scalar.map .scalar
  | list items => (nodes items).map .list
  | mapping entries => (entryNodes entries).map fun (others, own) => .ofEntries (others ++ own)

/-- The nodes that trees mean. -/
def nodes : List Tree → Except (Refusal Unit) (List Node)
  | [] => .ok []
  | item :: items => do
    let first ← node item
    let others ← nodes items
    return first :: others

/-- The entries that a mapping takes from others, and its own. -/
def entryNodes : List (Lexeme × Tree) →
    Except (Refusal Unit) (List (Scalar × Node) × List (Scalar × Node))
  | [] => .ok ([], [])
  | (l, tree) :: entries => do
    if l.takesOthers then
      let first ← taken (← node tree)
      let (others, own) ← entryNodes entries
      return (first ++ others, own)
    else
      let key ← l.key
      let value ← node tree
      let (others, own) ← entryNodes entries
      return (others, (key, value) :: own)
end

end Tree

end CallChain.Yaml
