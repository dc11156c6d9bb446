/-
# Nodes of a YAML document

API documents and settings files are written in YAML, of which JSON is a part. A
document is a tree of scalars, lists and mappings. Unlike the fields of an object,
the keys of a mapping may be any scalars; two keys are the same when they are
equal as texts or as numbers, where a truth value counts as zero or one.

What a document can hold beside these, such as bytes, sets and pairs, is foreign: it
is told by what is seen of it. So is a list or a mapping that holds itself, from the
place on at which it is met again.
-/

import CallChain.Value.Display
import CallChain.Yaml.Moment

namespace CallChain.Yaml

/-- Why the text of a value cannot be written. -/
inductive TextProblem where
  /-- A number in it has too many digits. -/
  | longNumber
  /-- Its lists and mappings are inside each other too deeply. -/
  | tooDeep
  deriving DecidableEq

/-- A value that is of no kind of its own, by what is seen of it. -/
structure Foreign where
  /-- Whether it counts as present. -/
  isTruthy : Bool
  /-- Its text. -/
  display : String
  /-- How many values are open at a time when its text is written. -/
  depth : Nat := 1
  /-- Whether each number in it can be written. -/
  canDisplay : Bool := true
  /-- The text that it is taken for: bytes are taken for the text that they write. -/
  text? : Option String := none
  /-- The texts that it is taken for: a set of texts is taken for a list of them. -/
  texts? : Option (List String) := none
  deriving DecidableEq

/-- A single value of a document. -/
inductive Scalar where
  /-- The absent value. -/
  | null
  /-- A truth value. -/
  | bool (b : Bool)
  /-- A whole number. -/
  | int (n : Int)
  /-- A floating-point number. -/
  | float (x : Binary64)
  /-- A text. -/
  | text (s : String)
  /-- A date, perhaps with a time of day. -/
  | moment (m : Moment)
  /-- Any other value. -/
  | foreign (f : Foreign)
  deriving DecidableEq

/-- A node of a document. -/
inductive Node where
  /-- A single value. -/
  | scalar (s : Scalar)
  /-- A list of nodes. -/
  | list (items : List Node)
  /-- Nodes by key, in order. -/
  | mapping (entries : List (Scalar × Node))

namespace Scalar

/-- The value that a scalar is taken for; a moment is taken for none. -/
def value? : Scalar → Option Value
  | null => some .null
  | bool b => some (.bool b)
  | int n => some (.int n)
  | float x => some (.float x)
  | text s => some (.text s)
  | moment _ => none
  | foreign f => f.text?.map .text

/-- The text that a scalar is taken for. -/
def text? : Scalar → Option String
  | text s => some s
  | foreign f => f.text?
  | _ => none

/-- The scalar that stands for all scalars that are the same key. -/
def key : Scalar → Scalar
  | bool b => int (if b then 1 else 0)
  | float x => match x.toInt? with
    | some n => int n
    | none => float x
  | other => other

/-- The text of a scalar inside a list or a mapping. -/
def inner : Scalar → String
  | moment m => m.inner
  | foreign f => f.display
  | other => (other.value?.getD .null).inner

/-- The text of a scalar. -/
def display : Scalar → String
  | moment m => m.display
  | foreign f => f.display
  | other => (other.value?.getD .null).display

/-- Whether a scalar counts as present: null, false, zero and the empty text do
not. -/
def isTruthy : Scalar → Bool
  | foreign f => f.isTruthy
  | s => (s.value?.map Value.isTruthy).getD true

/-- Why the text of a scalar cannot be written, where `levels` is how many values may be
open at a time. -/
def textProblem? : Nat → Scalar → Option TextProblem
  | 0, _ => some .tooDeep
  | _ + 1, int n => if isWritable n then none else some .longNumber
  | levels + 1, foreign f =>
    if levels + 1 < f.depth then some .tooDeep
    else if f.canDisplay then none else some .longNumber
  | _ + 1, _ => none

end Scalar

/-- The entries of a mapping with one key bound anew: in its old place, under the
key that stands there, or at the end. -/
def setEntry (entries : List (Scalar × Node)) (key : Scalar) (node : Node) :
    List (Scalar × Node) :=
  match entries with
  | [] => [(key, node)]
  | (k, old) :: rest =>
    if k.key = key.key then (k, node) :: rest else (k, old) :: setEntry rest key node

namespace Node

/-- The mapping that entries make when they are bound one after another. -/
def ofEntries (entries : List (Scalar × Node)) : Node :=
  mapping (entries.foldl (fun bound entry => setEntry bound entry.1 entry.2) [])

/-- The absent node. -/
def null : Node := scalar .null

/-- The items of a list. -/
def list? : Node → Option (List Node)
  | list items => some items
  | _ => none

/-- The entries of a mapping. -/
def mapping? : Node → Option (List (Scalar × Node))
  | mapping entries => some entries
  | _ => none

/-- The text that a node is taken for. -/
def text? : Node → Option String
  | scalar s => s.text?
  | _ => none

/-- The texts that a node is taken for: those of the items of a list. -/
def texts? : Node → Option (List String)
  | list items => items.mapM text?
  | scalar (.foreign f) => f.texts?
  | _ => none

/-- Whether a node counts as present: null, false, zero, and empty texts, lists and
mappings do not. -/
def isTruthy : Node → Bool
  | scalar s => s.isTruthy
  | list items => !items.isEmpty
  | mapping entries => !entries.isEmpty

mutual
/-- The text of a node inside a list or a mapping. -/
def inner : Node → String
  | scalar s => s.inner
  | list items => "[" ++ innerItems items ++ "]"
  | mapping entries => "\x7b" ++ innerEntries entries ++ "\x7d"

/-- The texts of the items of a list, separated by commas. -/
def innerItems : List Node → String
  | [] => ""
  | [item] => inner item
  | item :: items => inner item ++ ", " ++ innerItems items

/-- The texts of the entries of a mapping, separated by commas. -/
def innerEntries : List (Scalar × Node) → String
  | [] => ""
  | [(key, node)] => key.inner ++ ": " ++ inner node
  | (key, node) :: entries => key.inner ++ ": " ++ inner node ++ ", " ++ innerEntries entries
end

mutual
/-- Why the text of a node cannot be written, where `levels` is how many values may be
open at a time. -/
def textProblem? : Nat → Node → Option TextProblem
  | levels, scalar s => s.textProblem? levels
  | 0, _ => some .tooDeep
  | levels + 1, list items => itemsProblem? levels items
  | levels + 1, mapping entries => entriesProblem? levels entries

/-- Why the texts of nodes cannot be written: the problem of the first one that has any. -/
def itemsProblem? : Nat → List Node → Option TextProblem
  | _, [] => none
  | levels, item :: items => (textProblem? levels item).or (itemsProblem? levels items)

/-- Why the texts of the keys and nodes of a mapping cannot be written: the first
problem in order. -/
def entriesProblem? : Nat → List (Scalar × Node) → Option TextProblem
  | _, [] => none
  | levels, (key, node) :: entries =>
    ((key.textProblem? levels).or (textProblem? levels node)).or
      (entriesProblem? levels entries)
end

/-- The text of a node; a text is its own text. -/
def display : Node → String
  | scalar s => s.display
  | other => other.inner

end Node

/-- The node under a text in the entries of a mapping. -/
def nodeAt? (entries : List (Scalar × Node)) (name : String) : Option Node :=
  (entries.find? (·.1 = .text name)).map Prod.snd

end CallChain.Yaml
