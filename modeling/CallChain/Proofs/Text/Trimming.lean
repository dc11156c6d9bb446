/-
# Trimming

Trimming takes blanks from the two ends of a text and nothing else. A text is
therefore its trimmed form between two runs of blanks, and a text that starts and
ends with no blank is its own trimmed form.
-/

import CallChain.Text.Blank

namespace CallChain.Text

/-- Whether a text starts with no blank. -/
def StartsBare (text : List Char) : Prop := ∀ c, text.head? = some c → isBlank c = false

/-- Whether a text ends with no blank. -/
def EndsBare (text : List Char) : Prop := ∀ c, text.getLast? = some c → isBlank c = false

theorem trimStart_append {blanks : List Char} (h : ∀ c ∈ blanks, isBlank c = true)
    (text : List Char) : trimStart (blanks ++ text) = trimStart text :=
  List.dropWhile_append_of_pos h

theorem trimStart_eq_self {text : List Char} (h : StartsBare text) : trimStart text = text := by
  cases text with
  | nil => rfl
  | cons c rest =>
      have hc : isBlank c = false := h c rfl
      rw [trimStart, List.dropWhile_cons_of_neg (by simp [hc])]

theorem startsBare_trimStart (text : List Char) : StartsBare (trimStart text) := by
  intro c hc
  have hnot := List.head?_dropWhile_not isBlank text
  rw [← trimStart, hc] at hnot
  exact hnot

theorem exists_trimStart (text : List Char) :
    ∃ blanks, (∀ c ∈ blanks, isBlank c = true) ∧ text = blanks ++ trimStart text :=
  ⟨text.takeWhile isBlank, fun _ hc => List.all_eq_true.mp List.all_takeWhile _ hc,
    List.takeWhile_append_dropWhile.symm⟩

theorem trimEnd_append {blanks : List Char} (h : ∀ c ∈ blanks, isBlank c = true)
    (text : List Char) : trimEnd (text ++ blanks) = trimEnd text := by
  rw [trimEnd, List.reverse_append, List.dropWhile_append_of_pos, trimEnd]
  intro c hc
  exact h c (List.mem_reverse.mp hc)

theorem trimEnd_eq_self {text : List Char} (h : EndsBare text) : trimEnd text = text := by
  have hself : trimStart text.reverse = text.reverse := by
    apply trimStart_eq_self
    intro c hc
    exact h c (by rwa [List.head?_reverse] at hc)
  rw [trimEnd, ← trimStart, hself, List.reverse_reverse]

theorem endsBare_trimEnd (text : List Char) : EndsBare (trimEnd text) := by
  intro c hc
  rw [trimEnd, List.getLast?_reverse] at hc
  exact startsBare_trimStart text.reverse c hc

theorem exists_trimEnd (text : List Char) :
    ∃ blanks, (∀ c ∈ blanks, isBlank c = true) ∧ text = trimEnd text ++ blanks := by
  obtain ⟨blanks, hblank, htext⟩ := exists_trimStart text.reverse
  refine ⟨blanks.reverse, fun c hc => hblank c (List.mem_reverse.mp hc), ?_⟩
  rw [trimEnd, ← trimStart, ← List.reverse_append, ← htext, List.reverse_reverse]

/-- Taking blanks from the end leaves the start as it is. -/
theorem startsBare_trimEnd {text : List Char} (h : StartsBare text) :
    StartsBare (trimEnd text) := by
  obtain ⟨blanks, -, htext⟩ := exists_trimEnd text
  intro c hc
  apply h c
  rw [htext, List.head?_append, hc]
  rfl

/-- A text is its trimmed form between two runs of blanks. -/
theorem exists_trimChars (text : List Char) :
    ∃ before after, (∀ c ∈ before, isBlank c = true) ∧ (∀ c ∈ after, isBlank c = true) ∧
      text = before ++ (trimChars text ++ after) := by
  obtain ⟨before, hbefore, htext⟩ := exists_trimStart text
  obtain ⟨after, hafter, hstart⟩ := exists_trimEnd (trimStart text)
  exact ⟨before, after, hbefore, hafter, by rw [trimChars, ← hstart, ← htext]⟩

theorem infix_trim (text : String) : (trim text).toList <:+: text.toList := by
  obtain ⟨before, after, -, -, hsplit⟩ := exists_trimChars text.toList
  rw [trim, String.toList_ofList]
  exact ⟨before, after, by rw [List.append_assoc, ← hsplit]⟩

/-- Blanks around a text that has none at its ends are what is trimmed. -/
theorem trimChars_eq {before text after : List Char} (hbefore : ∀ c ∈ before, isBlank c = true)
    (hafter : ∀ c ∈ after, isBlank c = true) (hstart : StartsBare text) (hend : EndsBare text) :
    trimChars (before ++ (text ++ after)) = text := by
  rw [trimChars, trimStart_append hbefore]
  cases text with
  | nil =>
      have hnil : trimStart after = [] := by
        rw [← List.append_nil after, trimStart_append hafter]
        rfl
      rw [List.nil_append, hnil]
      rfl
  | cons c rest =>
      have hbare : StartsBare (c :: rest ++ after) := fun d hd => hstart d hd
      rw [trimStart_eq_self hbare, trimEnd_append hafter, trimEnd_eq_self hend]

theorem startsBare_trimChars (text : List Char) : StartsBare (trimChars text) :=
  startsBare_trimEnd (startsBare_trimStart text)

theorem endsBare_trimChars (text : List Char) : EndsBare (trimChars text) :=
  endsBare_trimEnd (trimStart text)

/-- Nothing is left of blanks, and of nothing else. -/
theorem trimChars_eq_nil_iff {text : List Char} :
    trimChars text = [] ↔ ∀ c ∈ text, isBlank c = true := by
  constructor
  · intro h
    obtain ⟨before, after, hbefore, hafter, htext⟩ := exists_trimChars text
    rw [h, List.nil_append] at htext
    intro c hc
    rw [htext] at hc
    exact (List.mem_append.mp hc).elim (hbefore c) (hafter c)
  · intro h
    have hnil := trimChars_eq h (fun c (hc : c ∈ []) => absurd hc List.not_mem_nil)
      (startsBare_trimChars []) (endsBare_trimChars [])
    simpa [trimChars, trimStart, trimEnd] using hnil

theorem isBlankText_iff {text : String} :
    isBlankText text = true ↔ trimChars text.toList = [] := by
  rw [isBlankText, List.all_eq_true, trimChars_eq_nil_iff]

@[simp]
theorem trimChars_trimChars (text : List Char) : trimChars (trimChars text) = trimChars text := by
  have hnone : ∀ c ∈ ([] : List Char), isBlank c = true := nofun
  have h := trimChars_eq hnone hnone (startsBare_trimChars text) (endsBare_trimChars text)
  simpa using h

end CallChain.Text
