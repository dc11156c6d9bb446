/-
# Selecting inside values

A route is a list of selectors, each a field of an object or an item of a list, and it leads
to at most one value inside another. It is written as a path: a dot before each name,
brackets around each index. Walking along the path that a route writes leads where the route
leads, and to null where it leads nowhere.

An index of more than `digitLimit` digits is one thing that a route can name and that walking
does not read. It is met only if the route leads to a list in front of it, which
`Value.Overruns` says.
-/

import CallChain.Proofs.Reference.Naming
import CallChain.Proofs.Text.Trimming
import CallChain.Proofs.Value.Walking

namespace CallChain

/-! ## Routes -/

/-- A field of an object, or an item of a list. -/
inductive Selector where
  /-- The field of a name. -/
  | key (name : String)
  /-- The item at a position. -/
  | index (position : Nat)
  deriving DecidableEq

/-- Selectors to be followed one after another. -/
abbrev Route := List Selector

namespace Selector

/-- A selector as it is written behind what it selects from. -/
def text : Selector → List Char
  | key name => '.' :: name.toList
  | index position => '[' :: (Nat.toDigits 10 position ++ [']'])

/-- Whether a name is not empty and holds no dot and no bracket. -/
def Plain : Selector → Prop
  | key name => name ≠ "" ∧ ∀ c ∈ name.toList, c ≠ '.' ∧ c ≠ '[' ∧ c ≠ ']'
  | index _ => True

theorem plain_key {name : String} (hne : name ≠ "")
    (h : name.toList.all (fun c => c != '.' && c != '[' && c != ']') = true) :
    (key name).Plain := by
  refine ⟨hne, fun c hc => ?_⟩
  simpa [and_assoc] using List.all_eq_true.mp h c hc

/-- The move that a selector is read as. -/
def move : Selector → Move
  | key name => .name name
  | index position => .ofDigits (Nat.toDigits 10 position)

end Selector

namespace Route

/-- A route as it is written behind a reference. -/
def text (route : Route) : List Char := route.flatMap Selector.text

/-- The path that a route writes: a name at its start stands without the dot. -/
def path (route : Route) : List Char :=
  match route with
  | .key name :: rest => name.toList ++ text rest
  | route => text route

/-- Whether a route can be told from the text that it writes. -/
structure Writable (route : Route) : Prop where
  /-- The names are plain. -/
  plain : ∀ s ∈ route, s.Plain
  /-- A name at the end does not end in a blank. -/
  ends : ∀ name, route.getLast? = some (.key name) → Text.EndsBare name.toList

variable {route : Route}

theorem writable_key {name : String} (h : (Selector.key name).Plain)
    (hends : name.toList.getLast?.any Text.isBlank = false) : Writable [.key name] := by
  constructor
  · intro s hs
    rwa [List.mem_singleton.mp hs]
  · intro other hother c hc
    cases hother
    rwa [hc] at hends

theorem writable_index (position : Nat) : Writable [.index position] := by
  constructor
  · intro s hs
    rw [List.mem_singleton.mp hs]
    trivial
  · nofun

theorem Writable.cons (h : route.Writable) (hne : route ≠ []) {s : Selector} (hs : s.Plain) :
    Writable (s :: route) := by
  constructor
  · intro t ht
    rcases List.mem_cons.mp ht with rfl | ht
    · exact hs
    · exact h.plain t ht
  · intro name hname
    rw [List.getLast?_cons_of_ne_nil hne] at hname
    exact h.ends name hname

end Route

namespace Value

/-- What a selector selects; nothing if the value has another shape or no such part. -/
def select? (v : Value) : Selector → Option Value
  | .key name => v.field? name
  | .index position => v.list?.bind fun items => items[position]?

/-- Where a route leads inside a value, if it leads anywhere. -/
def at? (v : Value) (route : Route) : Option Value := route.foldlM select? v

/-- Whether a route asks a list for an item whose index has too many digits to be read. -/
def Overruns (v : Value) (route : Route) : Prop :=
  ∃ front position back items, route = front ++ .index position :: back ∧
    v.at? front = some (.list items) ∧ 10 ^ digitLimit ≤ position

end Value

/-- A route whose indexes can all be read overruns nothing. -/
theorem Value.not_overruns {route : Route} (h : ∀ n, .index n ∈ route → n < 10 ^ digitLimit)
    (v : Value) : ¬ v.Overruns route := by
  rintro ⟨front, position, back, items, rfl, -, hlong⟩
  exact Nat.not_lt.mpr hlong (h position (by simp))

/-! ## Following a route -/

/-- A number beyond the limit is written with more digits than are read. -/
theorem Text.digitLimit_lt_length {n : Nat} (h : 10 ^ digitLimit ≤ n) :
    digitLimit < (Nat.toDigits 10 n).length := by
  refine Nat.lt_of_not_le fun hshort => Nat.not_lt.mpr h ?_
  exact (Nat.length_toDigits_le_iff (by decide) (by decide)).mp hshort

namespace Move

theorem ofDigits_toDigits {n : Nat} (h : n < 10 ^ digitLimit) :
    ofDigits (Nat.toDigits 10 n) = .index n := by
  have hlength := (Nat.length_toDigits_le_iff (by decide) (by decide)).mpr h
  rw [ofDigits, Text.readNumber_eq_ok_iff.mpr ⟨hlength, Text.digitsValue_toDigits n⟩]

theorem ofDigits_toDigits_long {n : Nat} (h : 10 ^ digitLimit ≤ n) :
    ∃ digits, digitLimit < digits ∧ ofDigits (Nat.toDigits 10 n) = .longIndex digits := by
  have hlength := Text.digitLimit_lt_length h
  refine ⟨_, hlength, ?_⟩
  rw [ofDigits, Text.readNumber, if_pos hlength]

end Move

namespace Value

variable {v w : Value} {s : Selector} {route : Route}

theorem at?_nil (v : Value) : v.at? [] = some v := rfl

theorem at?_cons (v : Value) (s : Selector) (route : Route) :
    v.at? (s :: route) = (v.select? s).bind fun w => w.at? route := rfl

theorem overruns_cons : v.Overruns (s :: route) ↔
    (∃ position items, s = .index position ∧ v = .list items ∧ 10 ^ digitLimit ≤ position) ∨
      ∃ w, v.select? s = some w ∧ w.Overruns route := by
  constructor
  · rintro ⟨front, position, back, items, hroute, hat, hlong⟩
    cases front with
    | nil =>
        rw [List.nil_append, List.cons.injEq] at hroute
        exact Or.inl ⟨position, items, hroute.1, Option.some.inj hat, hlong⟩
    | cons t front =>
        rw [List.cons_append, List.cons.injEq] at hroute
        obtain ⟨rfl, hroute⟩ := hroute
        rw [at?_cons, Option.bind_eq_some_iff] at hat
        obtain ⟨w, hw, hat⟩ := hat
        exact Or.inr ⟨w, hw, front, position, back, items, hroute, hat, hlong⟩
  · rintro (⟨position, items, rfl, rfl, hlong⟩ |
      ⟨w, hw, front, position, back, items, rfl, hat, hlong⟩)
    · exact ⟨[], position, route, items, rfl, rfl, hlong⟩
    · refine ⟨s :: front, position, back, items, rfl, ?_, hlong⟩
      rw [at?_cons, hw]
      exact hat

/-- A selector that can be read leads to what it selects, and to null if it selects nothing. -/
theorem follow_move (h : ¬ ∃ position items, s = .index position ∧ v = .list items ∧
    10 ^ digitLimit ≤ position) : s.move.follow v = .ok ((v.select? s).getD .null) := by
  cases s with
  | key name => rfl
  | index position =>
      rw [Selector.move]
      rcases Nat.lt_or_ge position (10 ^ digitLimit) with hshort | hlong
      · rw [Move.ofDigits_toDigits hshort]
        cases v with
        | list items => simp [Move.follow, select?, list?]
        | _ => rfl
      · obtain ⟨digits, -, hmove⟩ := Move.ofDigits_toDigits_long hlong
        rw [hmove]
        cases v with
        | list items => exact absurd ⟨position, items, rfl, rfl, hlong⟩ h
        | _ => rfl

theorem follow_cons (v : Value) (move : Move) (moves : List Move) :
    v.follow (move :: moves) = move.follow v >>= fun w => w.follow moves := rfl

theorem follow_append (v : Value) (moves others : List Move) :
    v.follow (moves ++ others) = v.follow moves >>= fun w => w.follow others :=
  List.foldlM_append

/-- Following what a route is read as leads where the route leads, and to null where it
leads nowhere. -/
theorem follow_route (h : ¬ v.Overruns route) :
    v.follow (route.map Selector.move) = .ok ((v.at? route).getD .null) := by
  induction route generalizing v with
  | nil => rfl
  | cons s route ih =>
      rw [overruns_cons, not_or] at h
      rw [List.map_cons, follow_cons, follow_move h.1, at?_cons]
      cases hselect : v.select? s with
      | none => exact follow_null _
      | some w => exact ih fun hw => h.2 ⟨w, hselect, hw⟩

/-- Following what a route is read as ends at the first index that is not read. -/
theorem follow_route_of_overruns (h : v.Overruns route) :
    ∃ digits, digitLimit < digits ∧
      v.follow (route.map Selector.move) = .error (.longText digits) := by
  induction route generalizing v with
  | nil =>
      obtain ⟨front, position, back, items, hroute, -⟩ := h
      simp at hroute
  | cons s route ih =>
      rw [List.map_cons, follow_cons]
      by_cases hhere : ∃ position items, s = .index position ∧ v = .list items ∧
          10 ^ digitLimit ≤ position
      · obtain ⟨position, items, rfl, rfl, hlong⟩ := hhere
        obtain ⟨digits, hdigits, hmove⟩ := Move.ofDigits_toDigits_long hlong
        refine ⟨digits, hdigits, ?_⟩
        rw [Selector.move, hmove]
        rfl
      · obtain ⟨w, hselect, hw⟩ := (overruns_cons.mp h).resolve_left hhere
        obtain ⟨digits, hdigits, herror⟩ := ih hw
        refine ⟨digits, hdigits, ?_⟩
        rw [follow_move hhere, hselect]
        exact herror

end Value

/-! ## Reading a route from its path -/

namespace Move

/-- The digits in a bracket are read up to its end. -/
theorem indexes?_digits (read rest : List Char) {digits : List Char}
    (hdigits : ∀ c ∈ digits, Text.isDigit c = true) (hne : read ++ digits ≠ []) :
    indexes? (some read) (digits ++ ']' :: rest) =
      (indexes? none rest).map (ofDigits (read ++ digits) :: ·) := by
  induction digits generalizing read with
  | nil =>
      rw [List.append_nil] at hne ⊢
      rw [List.nil_append, indexes?, if_pos rfl, if_neg (by simpa using hne)]
  | cons c digits ih =>
      have hc := hdigits c List.mem_cons_self
      have hopen : c ≠ ']' := by
        rintro rfl
        exact absurd hc (by decide)
      rw [List.cons_append, indexes?, if_neg hopen, if_pos hc,
        ih (read ++ [c]) (fun d hd => hdigits d (List.mem_cons_of_mem c hd)) (by simp)]
      simp

theorem indexes?_text (positions : List Nat) :
    indexes? none (Route.text (positions.map .index)) =
      some ((positions.map Selector.index).map Selector.move) := by
  induction positions with
  | nil => rfl
  | cons position positions ih =>
      have hdigits : ∀ c ∈ Nat.toDigits 10 position, Text.isDigit c = true :=
        fun c hc => Text.isDigit_of_isDigit (Nat.isDigit_of_mem_toDigits (by decide) (by decide) hc)
      have htext : Route.text ((position :: positions).map .index) =
          '[' :: (Nat.toDigits 10 position ++ ']' :: Route.text (positions.map .index)) := by
        simp [Route.text, Selector.text]
      simp only [htext, indexes?, if_true]
      rw [indexes?_digits [] _ hdigits (by simp [Nat.toDigits_ne_nil]), ih]
      rfl

/-- Whether a segment makes the given moves, and further ones for the indexes that are put
behind it. -/
structure Opens (segment : List Char) (moves : List Move) : Prop where
  /-- The segment holds no dot. -/
  dotless : ∀ c ∈ segment, c ≠ '.'
  /-- With indexes behind it, the segment makes its moves and theirs. -/
  reads : ∀ positions : List Nat, ofSegment? (segment ++ Route.text (positions.map .index)) =
    some (moves ++ (positions.map Selector.index).map Selector.move)

/-- A segment of a name alone. -/
theorem opens_name {name : List Char} (hname : ∀ c ∈ name, c ≠ '.' ∧ c ≠ '[' ∧ c ≠ ']') :
    Opens name (if name.isEmpty then [] else [.name (String.ofList name)]) := by
  refine ⟨fun c hc => (hname c hc).1, fun positions => ?_⟩
  have hchars : ∀ c ∈ name, isNameChar c = true := by
    intro c hc
    simp [isNameChar, hname c hc]
  -- the name ends where the first index begins
  have htake : (Route.text (positions.map .index)).takeWhile isNameChar = [] := by
    cases positions <;> rfl
  have hdrop : (Route.text (positions.map .index)).dropWhile isNameChar =
      Route.text (positions.map .index) := by
    cases positions <;> rfl
  rw [ofSegment?, List.takeWhile_append_of_pos hchars, List.dropWhile_append_of_pos hchars,
    htake, hdrop, List.append_nil, indexes?_text]
  cases name <;> rfl

theorem Opens.index {segment : List Char} {moves : List Move} (h : Opens segment moves)
    (position : Nat) :
    Opens (segment ++ (Selector.index position).text)
      (moves ++ [(Selector.index position).move]) := by
  constructor
  · intro c hc
    rcases List.mem_append.mp hc with hc | hc
    · exact h.dotless c hc
    · rintro rfl
      simp only [Selector.text, List.mem_cons, List.mem_append] at hc
      rcases hc with hc | hc | hc
      · exact absurd hc (by decide)
      · exact absurd (Nat.isDigit_of_mem_toDigits (by decide) (by decide) hc) (by decide)
      · exact absurd hc (by decide)
  · intro positions
    simpa [Route.text] using h.reads (position :: positions)

end Move

namespace Value

variable {route : Route}

/-- The induction is on the route. What is written of it so far is either behind a dot or the
segment that is still open: a name ends that segment, an index becomes part of it. -/
theorem walk_segments (hplain : ∀ s ∈ route, s.Plain) {segment : List Char} {moves : List Move}
    (hopens : Move.Opens segment moves) (v : Value) :
    (Text.splitAt '.' (segment ++ route.text)).foldlM followSegment v =
      v.follow (moves ++ route.map Selector.move) := by
  induction route generalizing segment moves v with
  | nil =>
      have hreads := hopens.reads []
      simp only [List.map_nil, Route.text, List.flatMap_nil, List.append_nil] at hreads ⊢
      rw [Text.splitAt_eq_singleton hopens.dotless]
      simp [followSegment, hreads]
  | cons s route ih =>
      have hrest : ∀ t ∈ route, t.Plain := fun t ht => hplain t (List.mem_cons_of_mem s ht)
      cases s with
      | key name =>
          obtain ⟨hne, hname⟩ := hplain (.key name) List.mem_cons_self
          have htext : segment ++ Route.text (.key name :: route) =
              segment ++ '.' :: (name.toList ++ Route.text route) := by
            simp [Route.text, Selector.text]
          have hreads := hopens.reads []
          simp only [List.map_nil, Route.text, List.flatMap_nil, List.append_nil] at hreads
          have hsegment : followSegment v segment = v.follow moves := by
            rw [followSegment, hreads]
          have hopen : Move.Opens name.toList [.name name] := by
            simpa [hne] using Move.opens_name hname
          rw [htext, Text.splitAt_append, Text.splitAt_eq_singleton hopens.dotless,
            List.singleton_append, List.foldlM_cons, hsegment, List.map_cons, follow_append]
          congr 1
          funext w
          exact ih hrest hopen w
      | index position =>
          have htext : segment ++ Route.text (.index position :: route) =
              segment ++ (Selector.index position).text ++ Route.text route := by
            simp [Route.text]
          rw [htext, ih hrest (hopens.index position) v]
          simp

/-- Walking along the path that a route writes is following what the route is read as. -/
theorem walk_path (h : route.Writable) (v : Value) :
    v.walk (String.ofList route.path) = v.follow (route.map Selector.move) := by
  rw [walk, String.toList_ofList]
  have hopen : Move.Opens [] [] := Move.opens_name (by simp)
  cases route with
  | nil => rfl
  | cons s route =>
      cases s with
      | index position => exact walk_segments h.plain hopen v
      | key name =>
          obtain ⟨hne, hname⟩ := h.plain (.key name) List.mem_cons_self
          have hname' : Move.Opens name.toList [.name name] := by
            simpa [hne] using Move.opens_name hname
          exact walk_segments (fun t ht => h.plain t (List.mem_cons_of_mem _ ht)) hname' v

end Value

namespace Route

variable {route : Route}

/-- What a route writes ends in neither a blank nor a dot. -/
theorem Writable.getLast?_text (h : route.Writable) {c : Char}
    (hc : route.text.getLast? = some c) : Text.isBlank c = false ∧ c ≠ '.' := by
  rcases List.eq_nil_or_concat route with rfl | ⟨front, s, rfl⟩
  · cases hc
  · rw [List.concat_eq_append] at h hc
    rw [text, List.flatMap_append, List.flatMap_singleton, List.getLast?_append] at hc
    cases s with
    | index position =>
        have hlast : (Selector.index position).text.getLast? = some ']' := by
          rw [Selector.text, ← List.cons_append, List.getLast?_concat]
        rw [hlast] at hc
        cases hc
        decide
    | key name =>
        obtain ⟨hne, hname⟩ := h.plain (.key name) (by simp)
        obtain ⟨d, hd⟩ : ∃ d, name.toList.getLast? = some d :=
          ⟨_, List.getLast?_eq_some_getLast (by simpa using hne)⟩
        have hlast : (Selector.key name).text.getLast? = some d := by
          rw [Selector.text, List.getLast?_cons, hd]
          rfl
        rw [hlast] at hc
        cases hc
        exact ⟨h.ends name (by simp) c hd, (hname c (List.mem_of_getLast? hd)).1⟩

end Route

end CallChain
