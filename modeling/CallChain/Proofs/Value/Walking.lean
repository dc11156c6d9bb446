/-
# Walking along paths

A path is walked segment by segment, and an empty segment leads nowhere else. Two paths with
a dot between them are therefore walked one after the other, whatever they are: null stays
null along the second one, and an index of too many digits that the first one meets is met by
both together.

Such an index is the only thing that walking fails at, and its digits stand in the path.
-/

import CallChain.Value.Path

namespace CallChain

namespace Text

theorem splitAt_append (separator : Char) (front back : List Char) :
    splitAt separator (front ++ separator :: back) =
      splitAt separator front ++ splitAt separator back := by
  induction front with
  | nil => simp [splitAt]
  | cons c front ih =>
      by_cases hc : c = separator
      · rw [List.cons_append, splitAt, if_pos hc, splitAt, if_pos hc, ih, List.cons_append]
      · rw [List.cons_append, splitAt, if_neg hc, splitAt, if_neg hc, ih]
        cases hsplit : splitAt separator front with
        | nil => exact absurd hsplit (splitAt_ne_nil separator front)
        | cons piece pieces => rfl

theorem splitAt_eq_singleton {separator : Char} {text : List Char}
    (h : ∀ c ∈ text, c ≠ separator) : splitAt separator text = [text] := by
  induction text with
  | nil => rfl
  | cons c text ih =>
      rw [splitAt, if_neg (h c List.mem_cons_self),
        ih fun d hd => h d (List.mem_cons_of_mem c hd)]

end Text

namespace Value

/-- Two paths that a dot joins are walked one after the other. -/
theorem walk_dot (v : Value) (p q : String) :
    v.walk (p ++ "." ++ q) = v.walk p >>= fun w => w.walk q := by
  have hjoined : (p ++ "." ++ q).toList = p.toList ++ '.' :: q.toList := by simp
  have hsplit : Text.splitAt '.' (p ++ "." ++ q).toList =
      Text.splitAt '.' p.toList ++ Text.splitAt '.' q.toList := by
    rw [hjoined, Text.splitAt_append]
  calc
    v.walk (p ++ "." ++ q) =
        (Text.splitAt '.' p.toList ++ Text.splitAt '.' q.toList).foldlM followSegment v := by
      rw [walk, hsplit]
    _ = v.walk p >>= fun w => w.walk q := List.foldlM_append

end Value

/-! ## What walking fails at -/

/-- Whether a problem is that of digits, more than are read, that stand in a text. -/
def NumberProblem.StandsIn (problem : NumberProblem) (text : List Char) : Prop :=
  ∃ digits, digits <:+: text ∧ (∀ c ∈ digits, Text.isDigit c = true) ∧
    digitLimit < digits.length ∧ problem = .longText digits.length

theorem NumberProblem.StandsIn.mono {problem : NumberProblem} {part text : List Char}
    (h : problem.StandsIn part) (hpart : part <:+: text) : problem.StandsIn text := by
  obtain ⟨digits, hdigits, hrest⟩ := h
  exact ⟨digits, hdigits.trans hpart, hrest⟩

theorem exists_of_foldlM_eq_error {ε α β : Type} {f : β → α → Except ε β} {items : List α}
    {start : β} {e : ε} (h : items.foldlM f start = .error e) :
    ∃ item ∈ items, ∃ b, f b item = .error e := by
  induction items generalizing start with
  | nil => cases h
  | cons item items ih =>
      rw [List.foldlM_cons] at h
      cases hitem : f start item with
      | error e' =>
          rw [hitem] at h
          cases h
          exact ⟨item, List.mem_cons_self, start, hitem⟩
      | ok next =>
          rw [hitem] at h
          obtain ⟨other, hother, hfails⟩ := ih h
          exact ⟨other, List.mem_cons_of_mem item hother, hfails⟩

namespace Text

variable {text : List Char}

theorem infix_joinWith {separator piece : List Char} {pieces : List (List Char)}
    (h : piece ∈ pieces) : piece <:+: joinWith separator pieces := by
  cases pieces with
  | nil => cases h
  | cons first pieces =>
      rw [joinWith_cons]
      rcases List.mem_cons.mp h with rfl | h
      · exact (List.prefix_append _ _).isInfix
      · obtain ⟨front, back, rfl⟩ := List.append_of_mem h
        rw [List.flatMap_append, List.flatMap_cons]
        exact ⟨first ++ front.flatMap (separator ++ ·) ++ separator, back.flatMap (separator ++ ·),
          by simp⟩

theorem infix_of_mem_splitAt {separator : Char} {piece : List Char}
    (h : piece ∈ splitAt separator text) : piece <:+: text := by
  rw [← joinWith_splitAt separator text]
  exact infix_joinWith h

theorem standsIn_of_readNumber {digits : List Char} {problem : NumberProblem}
    (hdigits : ∀ c ∈ digits, isDigit c = true) (h : readNumber digits = .error problem) :
    problem.StandsIn digits ∧ problem = .longText digits.length := by
  unfold readNumber at h
  split at h
  · next hlong =>
    cases h
    exact ⟨⟨digits, List.infix_refl digits, hdigits, hlong, rfl⟩, rfl⟩
  · cases h

end Text

namespace Move

theorem standsIn_of_ofDigits {digits : List Char} {n : Nat}
    (hdigits : ∀ c ∈ digits, Text.isDigit c = true) (h : ofDigits digits = .longIndex n) :
    (NumberProblem.longText n).StandsIn digits := by
  unfold ofDigits at h
  split at h
  · cases h
  · next problem hread =>
    cases h
    obtain ⟨hstands, rfl⟩ := Text.standsIn_of_readNumber hdigits hread
    exact hstands

/-- The digits of an index stand in the bracket that is open or behind it. -/
theorem standsIn_of_indexes? {read : Option (List Char)} {text : List Char} {moves : List Move}
    {n : Nat} (hread : ∀ c ∈ read.getD [], Text.isDigit c = true)
    (h : indexes? read text = some moves) (hn : .longIndex n ∈ moves) :
    (NumberProblem.longText n).StandsIn (read.getD [] ++ text) := by
  induction text generalizing read moves with
  | nil =>
      rw [indexes?] at h
      split at h
      · cases h
        cases hn
      · cases h
  | cons c rest ih =>
      have hbehind : rest <:+: read.getD [] ++ c :: rest :=
        ((List.suffix_cons c rest).trans (List.suffix_append _ _)).isInfix
      cases read with
      | none =>
          simp only [indexes?] at h
          split at h
          · have hopen : ∀ c ∈ (some ([] : List Char)).getD [], Text.isDigit c = true := nofun
            exact (ih hopen h hn).mono hbehind
          · split at h
            · cases h
              cases hn
            · cases h
      | some read =>
          simp only [indexes?] at h
          split at h
          · split at h
            · cases h
            · obtain ⟨others, hothers, rfl⟩ := Option.map_eq_some_iff.mp h
              rcases List.mem_cons.mp hn with hhere | hn
              · exact (standsIn_of_ofDigits hread hhere.symm).mono (List.prefix_append _ _).isInfix
              · have hclosed : ∀ c ∈ (none : Option (List Char)).getD [],
                    Text.isDigit c = true := nofun
                exact (ih hclosed hothers hn).mono hbehind
          · split at h
            · next hc =>
              have hlonger : ∀ d ∈ (some (read ++ [c])).getD [], Text.isDigit d = true := by
                intro d hd
                rcases List.mem_append.mp hd with hd | hd
                · exact hread d hd
                · rwa [List.mem_singleton.mp hd]
              simpa using ih hlonger h hn
            · cases h

theorem standsIn_of_ofSegment? {segment : List Char} {moves : List Move} {n : Nat}
    (h : ofSegment? segment = some moves) (hn : .longIndex n ∈ moves) :
    (NumberProblem.longText n).StandsIn segment := by
  obtain ⟨indexes, hindexes, hmoves⟩ := Option.bind_eq_some_iff.mp h
  have hmem : .longIndex n ∈ indexes := by
    cases hmoves
    split at hn
    · exact hn
    · simpa using hn
  have hclosed : ∀ c ∈ (none : Option (List Char)).getD [], Text.isDigit c = true := nofun
  exact (standsIn_of_indexes? hclosed hindexes hmem).mono (List.dropWhile_suffix _).isInfix

end Move

namespace Value

theorem mem_of_follow_eq_error {v : Value} {moves : List Move} {problem : NumberProblem}
    (h : v.follow moves = .error problem) : ∃ n, .longIndex n ∈ moves ∧ problem = .longText n := by
  obtain ⟨move, hmove, w, hw⟩ := exists_of_foldlM_eq_error h
  cases move with
  | name field => cases hw
  | index position => cases w <;> cases hw
  | longIndex n =>
      cases w with
      | list items =>
          cases hw
          exact ⟨n, hmove, rfl⟩
      | _ => cases hw

theorem standsIn_of_walk {v : Value} {path : String} {problem : NumberProblem}
    (h : v.walk path = .error problem) : problem.StandsIn path.toList := by
  obtain ⟨segment, hsegment, w, hw⟩ := exists_of_foldlM_eq_error h
  unfold followSegment at hw
  split at hw
  · next moves hmoves =>
    obtain ⟨n, hn, rfl⟩ := mem_of_follow_eq_error hw
    exact (Move.standsIn_of_ofSegment? hmoves hn).mono (Text.infix_of_mem_splitAt hsegment)
  · cases hw

end Value

end CallChain
