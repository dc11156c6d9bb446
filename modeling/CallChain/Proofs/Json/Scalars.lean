/-
# Where words and numbers end

A word or a number is read character by character, and neither goes on at a quote or at an
opening brace. What stands from there on makes no difference to what is read, and is left
with the rest.
-/

import CallChain.Json.Reader

namespace CallChain.Json

/-- Whether a text is empty or starts where no word and no number goes on. -/
def StopsScalar (rest : List Char) : Prop := ∀ c ∈ rest.head?, c = '"' ∨ c = '\x7b'

theorem stopsScalar_nil : StopsScalar [] := by
  intro c hc
  cases hc

section Before

variable {rest : List Char}

/-- What stands from a stop on decides about no other first character. -/
theorem StopsScalar.head?_append (h : StopsScalar rest) {text : List Char} {d : Char}
    (hquote : d ≠ '"') (hopen : d ≠ '\x7b') :
    (text ++ rest).head? = some d ↔ text.head? = some d := by
  cases text with
  | cons c text => rfl
  | nil =>
      refine ⟨fun hd => ?_, nofun⟩
      rcases h d hd with rfl | rfl
      · exact absurd rfl hquote
      · exact absurd rfl hopen

theorem StopsScalar.takeWhile_append (h : StopsScalar rest) {p : Char → Bool}
    (hquote : p '"' = false) (hopen : p '\x7b' = false) (text : List Char) :
    (text ++ rest).takeWhile p = text.takeWhile p ∧
      (text ++ rest).dropWhile p = text.dropWhile p ++ rest := by
  induction text with
  | nil =>
      cases rest with
      | nil => exact ⟨rfl, rfl⟩
      | cons c rest =>
          have hc : p c = false := by
            rcases h c rfl with rfl | rfl
            · exact hquote
            · exact hopen
          simp [hc]
  | cons c text ih =>
      by_cases hc : p c = true
      · simp [hc, ih.1, ih.2]
      · simp [hc]

/-! ## What is cut off at the start -/

/-- Whether what cuts a text in two cuts it before any stop, and not differently for what
follows there. -/
def CutsBefore {α : Type} (span : List Char → α × List Char) : Prop :=
  ∀ text rest, StopsScalar rest → span (text ++ rest) = ((span text).1, (span text).2 ++ rest) ∧
    (span text).2 <:+ text

theorem cutsBefore_spanDigits : CutsBefore spanDigits := by
  intro text rest hrest
  obtain ⟨htake, hdrop⟩ := hrest.takeWhile_append (p := Char.isDigit) rfl rfl text
  exact ⟨by rw [spanDigits, htake, hdrop, spanDigits], List.dropWhile_suffix _⟩

theorem cutsBefore_spanWhole : CutsBefore spanWhole := by
  have hdigits : ∀ text : List Char, text.head? ≠ some '0' → spanWhole text = spanDigits text := by
    intro text h
    unfold spanWhole
    split
    · exact absurd rfl h
    · rfl
  intro text rest hrest
  by_cases hzero : text.head? = some '0'
  · obtain ⟨tail, rfl⟩ := List.head?_eq_some_iff.mp hzero
    exact ⟨rfl, List.suffix_cons '0' tail⟩
  · have hzero' := mt (hrest.head?_append (by decide) (by decide)).mp hzero
    rw [hdigits _ hzero, hdigits _ hzero']
    exact cutsBefore_spanDigits text rest hrest

theorem cutsBefore_spanFraction : CutsBefore spanFraction := by
  have hnone : ∀ text : List Char, text.head? ≠ some '.' → spanFraction text = ([], text) := by
    intro text h
    unfold spanFraction
    split
    · exact absurd rfl h
    · rfl
  intro text rest hrest
  by_cases hpoint : text.head? = some '.'
  · obtain ⟨tail, rfl⟩ := List.head?_eq_some_iff.mp hpoint
    obtain ⟨hdigits, hleft⟩ := cutsBefore_spanDigits tail rest hrest
    simp only [List.cons_append, spanFraction, hdigits]
    split
    · exact ⟨rfl, List.suffix_rfl⟩
    · exact ⟨rfl, hleft.trans (List.suffix_cons '.' tail)⟩
  · have hpoint' := mt (hrest.head?_append (by decide) (by decide)).mp hpoint
    rw [hnone _ hpoint, hnone _ hpoint']
    exact ⟨rfl, List.suffix_rfl⟩

theorem cutsBefore_spanSign : CutsBefore spanSign := by
  have hnone : ∀ text : List Char, text.head? ≠ some '+' → text.head? ≠ some '-' →
      spanSign text = (false, text) := by
    intro text hplus hminus
    unfold spanSign
    split
    · exact absurd rfl hplus
    · exact absurd rfl hminus
    · rfl
  intro text rest hrest
  by_cases hplus : text.head? = some '+'
  · obtain ⟨tail, rfl⟩ := List.head?_eq_some_iff.mp hplus
    exact ⟨rfl, List.suffix_cons '+' tail⟩
  by_cases hminus : text.head? = some '-'
  · obtain ⟨tail, rfl⟩ := List.head?_eq_some_iff.mp hminus
    exact ⟨rfl, List.suffix_cons '-' tail⟩
  · have hplus' := mt (hrest.head?_append (by decide) (by decide)).mp hplus
    have hminus' := mt (hrest.head?_append (by decide) (by decide)).mp hminus
    rw [hnone _ hplus hminus, hnone _ hplus' hminus']
    exact ⟨rfl, List.suffix_rfl⟩

theorem cutsBefore_spanExponent : CutsBefore spanExponent := by
  intro text rest hrest
  cases text with
  | nil =>
      refine ⟨?_, List.suffix_rfl⟩
      cases rest with
      | nil => rfl
      | cons c rest =>
          have hletter : ¬ (decide (c = 'e') || decide (c = 'E')) = true := by
            rcases hrest c rfl with rfl | rfl <;> decide
          simp only [List.nil_append, spanExponent, if_neg hletter]
  | cons c tail =>
      obtain ⟨hsign, hunsigned⟩ := cutsBefore_spanSign tail rest hrest
      obtain ⟨hdigits, hleft⟩ := cutsBefore_spanDigits (spanSign tail).2 rest hrest
      simp only [List.cons_append, spanExponent, hsign, hdigits]
      split
      · split
        · exact ⟨rfl, List.suffix_rfl⟩
        · exact ⟨rfl, hleft.trans (hunsigned.trans (List.suffix_cons c tail))⟩
      · exact ⟨rfl, List.suffix_rfl⟩

/-! ## Words and numbers -/

/-- Whether what may read something at the start of a text reads it before any stop, and not
differently for what follows there. -/
def ReadsBefore {α : Type} (read : List Char → Option (α × List Char)) : Prop :=
  ∀ text rest, StopsScalar rest →
    read (text ++ rest) = (read text).map (fun (a, left) => (a, left ++ rest)) ∧
      ∀ a left, read text = some (a, left) → left <:+ text

theorem readsBefore_readUnsigned? (negative : Bool) : ReadsBefore (readUnsigned? negative) := by
  intro text rest hrest
  obtain ⟨hwhole, hafterWhole⟩ := cutsBefore_spanWhole text rest hrest
  obtain ⟨hfraction, hafterFraction⟩ := cutsBefore_spanFraction (spanWhole text).2 rest hrest
  obtain ⟨hexponent, hafter⟩ :=
    cutsBefore_spanExponent (spanFraction (spanWhole text).2).2 rest hrest
  have hleft := hafter.trans (hafterFraction.trans hafterWhole)
  simp only [readUnsigned?, hwhole, hfraction, hexponent]
  split
  · exact ⟨rfl, nofun⟩
  · split
    · refine ⟨rfl, fun a left h => ?_⟩
      cases h
      exact hleft
    · refine ⟨rfl, fun a left h => ?_⟩
      cases h
      exact hleft

theorem readsBefore_readNumber? : ReadsBefore readNumber? := by
  intro text rest hrest
  by_cases hminus : text.head? = some '-'
  · obtain ⟨tail, rfl⟩ := List.head?_eq_some_iff.mp hminus
    obtain ⟨hsame, hleft⟩ := readsBefore_readUnsigned? true tail rest hrest
    exact ⟨hsame, fun a left h => (hleft a left h).trans (List.suffix_cons '-' tail)⟩
  · have hminus' := mt (hrest.head?_append (by decide) (by decide)).mp hminus
    simp only [readNumber?, if_neg hminus, if_neg hminus']
    exact readsBefore_readUnsigned? false text rest hrest

/-- A word stands before a stop or not at all. -/
theorem StopsScalar.prefix_append_iff (h : StopsScalar rest) {word : List Char}
    (hword : ∀ c ∈ word, c ≠ '"' ∧ c ≠ '\x7b') (text : List Char) :
    word <+: text ++ rest ↔ word <+: text := by
  refine ⟨fun hprefix => ?_, fun hprefix => hprefix.trans (List.prefix_append text rest)⟩
  rcases List.prefix_or_prefix_of_prefix hprefix (List.prefix_append text rest) with
    hfront | ⟨more, rfl⟩
  · exact hfront
  · obtain ⟨left, hleft⟩ := hprefix
    rw [List.append_assoc, List.append_cancel_left_eq] at hleft
    cases more with
    | nil => simp
    | cons c more =>
        have hc := hword c (List.mem_append_right text List.mem_cons_self)
        rcases h c (by rw [← hleft]; rfl) with heq | heq
        · exact absurd heq hc.1
        · exact absurd heq hc.2

theorem readsBefore_readWord? : ReadsBefore readWord? := by
  intro text rest hrest
  have hwords : ∀ entry ∈ words, ∀ c ∈ entry.1, c ≠ '"' ∧ c ≠ '\x7b' := by
    intro entry hentry c hc
    have hall := List.all_eq_true.mp (show words.all (fun entry =>
      entry.1.all (fun c => c ≠ '"' && c ≠ '\x7b')) = true by decide) entry hentry
    simpa using List.all_eq_true.mp hall c hc
  unfold readWord?
  generalize words = all at hwords
  induction all with
  | nil => exact ⟨rfl, nofun⟩
  | cons entry others ih =>
      obtain ⟨word, v⟩ := entry
      have hsame := hrest.prefix_append_iff (hwords (word, v) List.mem_cons_self) text
      rw [List.findSome?_cons, List.findSome?_cons]
      by_cases hprefix : word <+: text
      · have hprefix' := hsame.mpr hprefix
        obtain ⟨left, rfl⟩ := hprefix
        simp only [List.isPrefixOf_iff_prefix.mpr (List.prefix_append word _), if_true,
          List.drop_left, List.append_assoc]
        refine ⟨rfl, fun a other h => ?_⟩
        cases h
        exact List.suffix_append word left
      · have hprefix' := mt hsame.mp hprefix
        rw [← List.isPrefixOf_iff_prefix] at hprefix hprefix'
        simp only [if_neg hprefix, if_neg hprefix']
        exact ih fun entry hentry => hwords entry (List.mem_cons_of_mem _ hentry)

theorem readsBefore_readScalar? : ReadsBefore readScalar? := by
  intro text rest hrest
  obtain ⟨hword, hleft⟩ := readsBefore_readWord? text rest hrest
  unfold readScalar?
  rw [hword]
  cases hread : readWord? text with
  | none => exact readsBefore_readNumber? text rest hrest
  | some found =>
      obtain ⟨v, left⟩ := found
      refine ⟨rfl, fun a other h => ?_⟩
      cases h
      exact hleft v left hread

end Before

/-! ## Words and numbers before a brace -/

theorem exists_cut_open (text : List Char) :
    ∃ front rest, text = front ++ rest ∧ '\x7b' ∉ front ∧ StopsScalar rest := by
  refine ⟨text.takeWhile (· ≠ '\x7b'), text.dropWhile (· ≠ '\x7b'),
    List.takeWhile_append_dropWhile.symm, fun hmem => ?_, fun c hc => Or.inr ?_⟩
  · have hne := List.all_eq_true.mp List.all_takeWhile _ hmem
    simp at hne
  · have hstop := List.head?_dropWhile_not (· ≠ '\x7b') text
    rw [Option.mem_def.mp hc] at hstop
    simpa using hstop

/-- A word or a number has no opening brace in it. -/
theorem exists_before_of_readScalar? {text left : List Char} {a : Except NumberProblem Value}
    (h : readScalar? text = some (a, left)) :
    ∃ before, text = before ++ left ∧ '\x7b' ∉ before := by
  obtain ⟨front, rest, rfl, hfront, hrest⟩ := exists_cut_open text
  obtain ⟨heq, hsplit⟩ := readsBefore_readScalar? front rest hrest
  rw [heq] at h
  obtain ⟨⟨a', left'⟩, hread, hpair⟩ := Option.map_eq_some_iff.mp h
  cases hpair
  obtain ⟨before, rfl⟩ := hsplit _ left' hread
  rw [List.mem_append, not_or] at hfront
  exact ⟨before, List.append_assoc before left' rest, hfront.1⟩

/-! ## What a word or a number starts with -/

/-- Whether a word or a number may start with a character. -/
def StartsScalar (c : Char) : Prop := c.isDigit = true ∨ c ∈ ['-', 'n', 't', 'f', 'N', 'I']

/-- The characters that stand for themselves between texts, words and numbers. -/
def marks : List Char := ['[', ']', '\x7b', '\x7d', ',', ':']

/-- No word and no number starts with a blank, a quote, a byte order mark or a character that
stands for itself. -/
theorem StartsScalar.not_mem {c : Char} (h : StartsScalar c) :
    isSpace c = false ∧ c ∉ '"' :: '\ufeff' :: marks := by
  have hnone : ∀ d ∈ [' ', '\t', '\n', '\r', '"', '\ufeff'] ++ marks,
      d.isDigit = false ∧ d ∉ ['-', 'n', 't', 'f', 'N', 'I'] := by
    simp only [marks, List.cons_append, List.nil_append, List.forall_mem_cons]
    refine ⟨?_, ?_, ?_, ?_, ?_, ?_, ?_, ?_, ?_, ?_, ?_, ?_, fun d hd => nomatch hd⟩ <;> decide
  have hnot : c ∉ [' ', '\t', '\n', '\r', '"', '\ufeff'] ++ marks := by
    intro hmem
    obtain ⟨hdigit, hletter⟩ := hnone c hmem
    rcases h with h | h
    · rw [hdigit] at h
      cases h
    · exact hletter h
  simp only [List.cons_append, List.nil_append, List.mem_cons, not_or] at hnot
  exact ⟨by simp [isSpace, hnot], by simp [hnot]⟩

theorem startsScalar_of_readUnsigned? {negative : Bool} {text : List Char}
    {found : Except NumberProblem Value × List Char}
    (h : readUnsigned? negative text = some found) :
    ∃ c rest, text = c :: rest ∧ StartsScalar c := by
  have hwhole : (spanWhole text).1 ≠ [] := by
    intro hnil
    simp [readUnsigned?, hnil] at h
  cases text with
  | nil => exact absurd rfl hwhole
  | cons c rest =>
      refine ⟨c, rest, rfl, Or.inl ?_⟩
      unfold spanWhole at hwhole
      split at hwhole
      · next heq =>
          rw [(List.cons.inj heq).1]
          rfl
      · cases hdigit : c.isDigit with
        | true => rfl
        | false => exact absurd (List.takeWhile_cons_of_neg (by simp [hdigit])) hwhole

theorem startsScalar_of_readScalar? {text : List Char}
    {found : Except NumberProblem Value × List Char} (h : readScalar? text = some found) :
    ∃ c rest, text = c :: rest ∧ StartsScalar c := by
  unfold readScalar? at h
  split at h
  · next hword =>
      have hletters : ∀ entry ∈ words, ∃ c rest, entry.1 = c :: rest ∧
          c ∈ ['-', 'n', 't', 'f', 'N', 'I'] := by simp [words]
      obtain ⟨entry, hentry, hfound⟩ := List.exists_of_findSome?_eq_some hword
      obtain ⟨c, rest, heq, hc⟩ := hletters entry hentry
      dsimp only at hfound
      split at hfound
      · next hprefix =>
          obtain ⟨left, rfl⟩ := List.isPrefixOf_iff_prefix.mp hprefix
          exact ⟨c, rest ++ left, by rw [heq]; rfl, Or.inr hc⟩
      · cases hfound
  · unfold readNumber? at h
    split at h
    · next hminus =>
        obtain ⟨tail, rfl⟩ := List.head?_eq_some_iff.mp hminus
        exact ⟨'-', tail, rfl, Or.inr List.mem_cons_self⟩
    · exact startsScalar_of_readUnsigned? h

/-! ## What a word or a number is read as -/

/-- Whether a value is a word or a number. -/
def IsAtom : Value → Prop
  | .null | .bool _ | .int _ | .float _ => True
  | .text _ | .list _ | .object _ => False

theorem isAtom_of_readUnsigned? {negative : Bool} {text left : List Char} {v : Value}
    (h : readUnsigned? negative text = some (.ok v, left)) : IsAtom v := by
  unfold readUnsigned? at h
  dsimp only at h
  split at h
  · cases h
  · split at h
    · rw [Option.some.injEq, Prod.mk.injEq] at h
      cases hnumber : Text.readNumber (spanWhole text).1 with
      | error problem =>
          rw [hnumber] at h
          cases h.1
      | ok n =>
          rw [hnumber] at h
          cases h.1
          trivial
    · cases h
      trivial

theorem isAtom_of_readScalar? {text left : List Char} {v : Value}
    (h : readScalar? text = some (.ok v, left)) : IsAtom v := by
  unfold readScalar? at h
  split at h
  · next w rest hword =>
    cases h
    have hwords : ∀ entry ∈ words, IsAtom entry.2 := by simp [words, IsAtom]
    obtain ⟨entry, hentry, hfound⟩ := List.exists_of_findSome?_eq_some hword
    dsimp only at hfound
    split at hfound
    · cases hfound
      exact hwords entry hentry
    · cases hfound
  · unfold readNumber? at h
    split at h
    · exact isAtom_of_readUnsigned? h
    · exact isAtom_of_readUnsigned? h

end CallChain.Json
