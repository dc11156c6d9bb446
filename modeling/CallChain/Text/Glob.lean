/-
# Glob patterns

A pattern is matched against a whole text. `*` stands for any characters, `?` for
one character, `[…]` for one character of a set and `[!…]` for one outside it;
line ends and slashes are characters like all others. A set may hold ranges, and
a range whose ends are reversed is empty. A `[` that is never closed stands for
itself.

`runs` says what it means to match; it tries every length of a `*`. `marks` gives
the same for all ends of a text at once, in as many steps as the product of both
lengths, and `marks_eq` says that the two agree.
-/

namespace CallChain.Text

/-- One element of a pattern. -/
inductive Glob where
  /-- Exactly this character. -/
  | char (c : Char)
  /-- Any one character. -/
  | one
  /-- Any number of characters. -/
  | many
  /-- One character that lies in some range, or with `outside` in none. -/
  | set (outside : Bool) (ranges : List (Char × Char))
  deriving Repr

namespace Glob

/-- The characters of a set up to its closing bracket, and what follows it. A
bracket that comes first belongs to the set. -/
def setBody? : List Char → Option (List Char × List Char)
  | [] => none
  | first :: rest =>
    match rest.dropWhile (· != ']') with
    | [] => none
    | _ :: after => some (first :: rest.takeWhile (· != ']'), after)

/-- The ranges that the characters of a set write: `a-z` is a range, any other
character a range of its own; a hyphen at either end is a plain character. -/
def rangesOf : List Char → List (Char × Char)
  | low :: '-' :: high :: rest => (low, high) :: rangesOf rest
  | c :: rest => (c, c) :: rangesOf rest
  | [] => []

/-- The elements of a pattern. `skip` counts the characters of a set still to be
passed. -/
def parseFrom : Nat → List Char → List Glob
  | _, [] => []
  | skip + 1, _ :: rest => parseFrom skip rest
  | 0, '*' :: rest => many :: parseFrom 0 rest
  | 0, '?' :: rest => one :: parseFrom 0 rest
  | 0, '[' :: rest =>
    let outside := rest.head? == some '!'
    match setBody? (if outside then rest.drop 1 else rest) with
    | none => char '[' :: parseFrom 0 rest
    | some (body, _) =>
      set outside (rangesOf body) ::
        parseFrom (body.length + (if outside then 2 else 1)) rest
  | 0, c :: rest => char c :: parseFrom 0 rest

/-- The elements of a pattern. -/
def parse (pattern : String) : List Glob := parseFrom 0 pattern.toList

/-- Whether an element other than `many` accepts a character. -/
def accepts : Glob → Char → Bool
  | char d, c => c == d
  | one, _ => true
  | many, _ => false
  | set outside ranges, c => (ranges.any fun (low, high) => low ≤ c && c ≤ high) != outside

/-- All ends of a text, from the whole text to the empty one. -/
def ends : List Char → List (List Char)
  | [] => [[]]
  | c :: rest => (c :: rest) :: ends rest

/-- Whether a text as a whole matches the elements of a pattern. -/
def runs : List Glob → List Char → Bool
  | [], text => text.isEmpty
  | many :: rest, text => (ends text).any (runs rest)
  | element :: rest, c :: text => element.accepts c && runs rest text
  | _ :: _, [] => false

/-- For each place of a list whether some mark is set from there on. -/
def markedAfter : List Bool → List Bool
  | [] => []
  | mark :: marks =>
    let later := markedAfter marks
    (mark || later.head?.getD false) :: later

/-- For each character whether it is accepted and the mark after it is set. -/
def markedNext (accepted : Char → Bool) : List Char → List Bool → List Bool
  | c :: text, _ :: marks =>
    (accepted c && marks.head?.getD false) :: markedNext accepted text marks
  | _, _ => [false]

/-- For each end of a text whether it matches the elements of a pattern. -/
def marks : List Glob → List Char → List Bool
  | [], text => (ends text).map List.isEmpty
  | many :: rest, text => markedAfter (marks rest text)
  | element :: rest, text => markedNext element.accepts text (marks rest text)

/-- The first end of a text is the text itself. -/
theorem head?_map_ends {α : Type} (f : List Char → α) (text : List Char) :
    ((ends text).map f).head? = some (f text) := by
  cases text <;> rfl

theorem markedAfter_map_ends (f : List Char → Bool) (text : List Char) :
    markedAfter ((ends text).map f) = (ends text).map fun t => (ends t).any f := by
  induction text with
  | nil => simp [ends, markedAfter]
  | cons c text ih =>
    have h := head?_map_ends (fun t => (ends t).any f) text
    simp only [ends, List.map_cons, markedAfter, ih, h, Option.getD_some, List.any_cons]

theorem markedNext_map_ends (element : Glob) (rest : List Glob) (h : element ≠ many)
    (text : List Char) :
    markedNext element.accepts text ((ends text).map (runs rest)) =
      (ends text).map (runs (element :: rest)) := by
  have runs_cons : ∀ (c : Char) (t : List Char),
      runs (element :: rest) (c :: t) = (element.accepts c && runs rest t) := by
    intro c t; cases element <;> simp_all [runs]
  have runs_nil : runs (element :: rest) [] = false := by cases element <;> simp_all [runs]
  induction text with
  | nil => simp [ends, markedNext, runs_nil]
  | cons c text ih =>
    simp only [ends, List.map_cons, markedNext, head?_map_ends, Option.getD_some, ih, runs_cons]

/-- The marks of a pattern say which ends of a text match it. -/
theorem marks_eq (pattern : List Glob) (text : List Char) :
    marks pattern text = (ends text).map (runs pattern) := by
  induction pattern with
  | nil => rfl
  | cons element rest ih =>
    by_cases h : element = many
    · subst h
      simp only [marks, ih, markedAfter_map_ends]
      congr 1
    · have unfolded : marks (element :: rest) text =
          markedNext element.accepts text (marks rest text) := by
        cases element <;> simp_all [marks]
      rw [unfolded, ih, markedNext_map_ends element rest h]

/-- Whether a text as a whole matches a pattern. -/
def «matches» (pattern text : String) : Bool :=
  (marks (parse pattern) text.toList).head?.getD false

/-- Matching is what the elements of a pattern say about the whole text. -/
theorem matches_eq_runs (pattern text : String) :
    «matches» pattern text = runs (parse pattern) text.toList := by
  simp only [«matches», marks_eq, head?_map_ends, Option.getD_some]

end Glob

end CallChain.Text
