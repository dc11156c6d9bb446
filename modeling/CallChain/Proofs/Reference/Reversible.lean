/-
# Renaming there and back

Writing ids as places is undone by writing places as ids, in texts and in everything that
holds texts: in expressions, values, bindings and parameters. What is needed of these is
the same for all of them. Two renamings in turn are one renaming, a renaming depends on the
references alone and renames each of them, and the references are words. From these laws
the rest follows once, reference by reference.

Both renamings change the references in the holes of a text and nothing else; `Relabels`
says so without the functions that do it.
-/

import CallChain.Proofs.Document.Canonical

namespace CallChain

/-! ## Ids that are no places -/

namespace Reference

/-- Whether an id has the form of a place: the word for places and then digits. -/
def IsPlaceWord (id : String) : Prop :=
  ∃ digits : List Char, digits ≠ [] ∧ (∀ c ∈ digits, Text.isDigit c = true) ∧
    id.toList = placeWord ++ digits

theorem isPlaceWord_ofPlace (n : Nat) : IsPlaceWord (ofPlace n) :=
  ⟨Nat.toDigits 10 n, Nat.toDigits_ne_nil,
    fun _ hc => Text.isDigit_of_isDigit
      (Nat.isDigit_of_mem_toDigits (by decide) (by decide) hc),
    by simp [ofPlace, Text.natText, placeWord]⟩

theorem placeDigits?_ne_nil {reference : String} {digits : List Char}
    (h : placeDigits? reference = some digits) : digits ≠ [] := by
  have hwritten : ∀ written : List Char,
      (if written.isEmpty || !written.all Text.isDigit then none else some written) =
        some digits → digits ≠ [] := by
    intro written hread
    split at hread
    · cases hread
    · next hnot =>
      cases hread
      rintro rfl
      exact hnot rfl
  unfold placeDigits? at h
  dsimp only at h
  split at h
  · exact hwritten _ h
  · cases h

/-- A word that has not the form of a place is read as none. -/
theorem place_of_not_isPlaceWord {reference : String} (hword : IsWord reference.toList)
    (h : ¬ IsPlaceWord reference) : place reference = .ok none := by
  cases hread : placeDigits? reference with
  | none => rw [place, hread]
  | some digits =>
      obtain ⟨hdigits, hlist⟩ := eq_of_placeDigits? hread
      rcases hlist with hlist | hlist
      · exact absurd ⟨digits, placeDigits?_ne_nil hread, hdigits, hlist⟩ h
      · have hfeed : HoleParts.continuesReference '\n' = true :=
          hword.continues _ (by rw [hlist]; simp)
        rw [HoleParts.continuesReference_of_isBlank (by decide)] at hfeed
        cases hfeed

end Reference

namespace Renaming

/-! ## One renaming after the other, on one reference -/

section Words

variable {ids : List String} {before : Int} {reference : String}

/-- An id becomes the place at which it stands. -/
theorem toPlace_eq_some {image : String} (h : toPlace ids before reference = some image) :
    ∃ n, image = Reference.ofPlace n ∧ ids[n]? = some reference ∧ (n : Int) < before := by
  obtain ⟨n, hn, himage⟩ := Option.bind_eq_some_iff.mp h
  obtain ⟨hlt, heq, -⟩ := List.idxOf?_eq_some_iff.mp hn
  split at himage
  · next hbefore =>
    cases himage
    exact ⟨n, rfl, by rw [List.getElem?_eq_getElem hlt, heq], hbefore⟩
  · cases himage

variable (hform : ∀ id ∈ ids, ¬ Reference.IsPlaceWord id)

include hform

/-- A place that has been written is no id, so it stays. -/
theorem toPlace_andThen_toPlace (reference : String) :
    ((toPlace ids before).andThen (toPlace ids before)) reference =
      toPlace ids before reference := by
  rw [andThen]
  cases himage : toPlace ids before reference with
  | none => rfl
  | some image =>
      obtain ⟨n, rfl, -, -⟩ := toPlace_eq_some himage
      have hnot : Reference.ofPlace n ∉ ids :=
        fun hmem => hform _ hmem (Reference.isPlaceWord_ofPlace n)
      simp only [toPlace_of_not_mem hnot, Option.getD_none]

variable (hlength : ids.length ≤ 10 ^ digitLimit)

include hlength

/-- A place that is written for an id is read as it was written, and the id is read as none. -/
theorem place_of_toPlace {image : String} (hword : Reference.IsWord reference.toList)
    (h : toPlace ids before reference = some image) :
    Reference.place reference = .ok none ∧
      ∃ n, Reference.place image = .ok (some n) ∧ ids[n]? = some reference ∧
        (n : Int) < before := by
  obtain ⟨n, rfl, hget, hbefore⟩ := toPlace_eq_some h
  have hlt : n < ids.length := (List.getElem?_eq_some_iff.mp hget).1
  exact ⟨Reference.place_of_not_isPlaceWord hword (hform _ (List.mem_of_getElem? hget)),
    n, Reference.place_ofPlace (Nat.lt_of_lt_of_le hlt hlength), hget, hbefore⟩

/-- An id that has become a place becomes itself again. -/
theorem toPlace_andThen_toId (hword : Reference.IsWord reference.toList) :
    (((toPlace ids before).andThen (toId ids before)) reference).getD reference =
      (toId ids before reference).getD reference := by
  rw [andThen]
  cases himage : toPlace ids before reference with
  | none => rfl
  | some image =>
      obtain ⟨hnone, n, hplace, hget, hbefore⟩ := place_of_toPlace hform hlength hword himage
      have hback : toId ids before image = some reference := by
        rw [toId, hplace]
        dsimp only
        rw [if_pos hbefore, hget]
      have hstays : toId ids before reference = none := by rw [toId, hnone]
      simp only [hback, hstays, Option.getD_some, Option.getD_none]

end Words

/-! ## What cannot be read -/

/-- The problem of the place that a reference writes. -/
def placeProblem? (reference : String) : Option NumberProblem :=
  match Reference.place reference with
  | .error problem => some problem
  | .ok _ => none

/-- The first problem of a text is that of its first reference that has one. -/
theorem textProblem?_eq (s : String) : textProblem? s = (references s).findSome? placeProblem? := by
  have hpieces : ∀ ps : List Piece, ps.findSome? pieceProblem? =
      ((ps.filterMap Piece.inner?).filterMap fun text =>
        (HoleParts.ofInner? text).map fun parts => String.ofList parts.reference).findSome?
          placeProblem? := by
    intro ps
    induction ps with
    | nil => rfl
    | cons piece ps ih =>
        cases piece with
        | literal text => exact ih
        | hole text =>
            rw [List.findSome?_cons, ih]
            cases hparts : HoleParts.ofInner? text with
            | none => simp [pieceProblem?, Piece.inner?, hparts]
            | some p =>
                simp only [pieceProblem?, Piece.inner?, hparts, List.filterMap_cons,
                  Option.bind_some, Option.map_some, List.findSome?_cons]
                rfl
  exact hpieces _

theorem placeProblem?_toPlace {ids : List String} {before : Int} {reference : String}
    (hform : ∀ id ∈ ids, ¬ Reference.IsPlaceWord id) (hlength : ids.length ≤ 10 ^ digitLimit)
    (hword : Reference.IsWord reference.toList) :
    placeProblem? ((toPlace ids before reference).getD reference) = placeProblem? reference := by
  cases himage : toPlace ids before reference with
  | none => rfl
  | some image =>
      obtain ⟨hnone, n, hplace, -, -⟩ := place_of_toPlace hform hlength hword himage
      simp only [Option.getD_some, placeProblem?, hplace, hnone]

/-- A reference has a problem when it is a place of more digits than are read. -/
theorem placeProblem?_ne_none_iff {reference : String} :
    placeProblem? reference ≠ none ↔ ∃ digits, Reference.placeDigits? reference = some digits ∧
      digitLimit < digits.length := by
  rw [placeProblem?, Reference.place]
  cases Reference.placeDigits? reference with
  | none => simp
  | some digits =>
      by_cases hlong : digitLimit < digits.length
      · simp [Text.readNumber, hlong, Except.map]
      · simp [Text.readNumber_eq_ok_iff.mpr ⟨Nat.le_of_not_lt hlong, rfl⟩, hlong, Except.map]

/-! ## Whatever holds references -/

variable {α : Type}

/-- The laws of renaming the references of things that hold some. -/
structure Lawful (rename : Renaming → α → α) (problem? : α → Option NumberProblem)
    (references : α → List String) : Prop where
  /-- Two renamings in turn are one. -/
  rename_rename : ∀ {f g : Renaming}, f.IntoWords → ∀ a,
    rename g (rename f a) = rename (f.andThen g) a
  /-- A renaming depends on what it makes of the references. -/
  congr : ∀ {f g : Renaming} {a : α}, (∀ r ∈ references a, (f r).getD r = (g r).getD r) →
    rename f a = rename g a
  /-- The renaming that renames nothing changes nothing. -/
  unchanged : ∀ a, rename stay a = a
  /-- The references are renamed one by one. -/
  references_rename : ∀ {f : Renaming}, f.IntoWords → ∀ a,
    references (rename f a) = (references a).map fun r => (f r).getD r
  /-- References are words. -/
  isWord : ∀ a, ∀ r ∈ references a, Reference.IsWord r.toList
  /-- The first problem is that of the first reference that has one. -/
  problem?_eq : ∀ a, problem? a = (references a).findSome? placeProblem?

/-- What writing places as ids makes of a thing: the first problem that there is, or the thing
renamed. -/
def withIds (rename : Renaming → α → α) (problem? : α → Option NumberProblem)
    (ids : List String) (before : Int) (a : α) : Except NumberProblem α :=
  match problem? a with
  | some problem => .error problem
  | none => .ok (rename (toId ids before) a)

/-- That writing ids as places can be undone, and when writing places as ids is refused. -/
structure Reversible (rename : Renaming → α → α) (problem? : α → Option NumberProblem)
    (references : α → List String) (ids : List String) (before : Int) : Prop where
  /-- Ids are written as places once and for all. -/
  again : ∀ a, rename (toPlace ids before) (rename (toPlace ids before) a) =
    rename (toPlace ids before) a
  /-- Writing places as ids gives the same, whether ids were written as places or not. -/
  undone : ∀ a, withIds rename problem? ids before (rename (toPlace ids before) a) =
    withIds rename problem? ids before a
  /-- What has no place that would be written as an id is restored, unless it is refused. -/
  restored : ∀ a, (∀ r ∈ references a, toId ids before r = none) →
    (∃ problem, withIds rename problem? ids before (rename (toPlace ids before) a) =
      .error problem) ∨
    withIds rename problem? ids before (rename (toPlace ids before) a) = .ok a
  /-- It is refused when a reference is a place of more digits than a number is read from. -/
  refused_iff : ∀ a, (∃ problem, withIds rename problem? ids before a = .error problem) ↔
    ∃ r ∈ references a, ∃ digits, Reference.placeDigits? r = some digits ∧
      digitLimit < digits.length

namespace Lawful

variable {rename : Renaming → α → α} {problem? : α → Option NumberProblem}
  {references : α → List String} (h : Lawful rename problem? references)

include h

theorem problem?_rename {f : Renaming} (hf : f.IntoWords) {a : α}
    (hkeeps : ∀ r ∈ references a, placeProblem? ((f r).getD r) = placeProblem? r) :
    problem? (rename f a) = problem? a := by
  rw [h.problem?_eq, h.problem?_eq, h.references_rename hf, List.findSome?_map]
  generalize references a = words at hkeeps
  induction words with
  | nil => rfl
  | cons r words ih =>
      rw [List.findSome?_cons, List.findSome?_cons, Function.comp, hkeeps r List.mem_cons_self,
        ih fun x hx => hkeeps x (List.mem_cons_of_mem r hx)]

theorem withIds_eq_error_iff {ids : List String} {before : Int} {a : α} :
    (∃ problem, withIds rename problem? ids before a = .error problem) ↔
      ∃ r ∈ references a, ∃ digits, Reference.placeDigits? r = some digits ∧
        digitLimit < digits.length := by
  have hproblem : (∃ problem, withIds rename problem? ids before a = .error problem) ↔
      problem? a ≠ none := by
    rw [withIds]
    cases problem? a <;> simp
  rw [hproblem, h.problem?_eq, ne_eq, List.findSome?_eq_none_iff]
  simp only [not_forall, exists_prop, ← ne_eq, placeProblem?_ne_none_iff]

/-- Of whatever has these laws, ids that are written as places can be written back. -/
theorem reversible {ids : List String} (hform : ∀ id ∈ ids, ¬ Reference.IsPlaceWord id)
    (hlength : ids.length ≤ 10 ^ digitLimit) (before : Int) :
    Reversible rename problem? references ids before := by
  have hwords := intoWords_toPlace ids before
  have hundone : ∀ a, withIds rename problem? ids before (rename (toPlace ids before) a) =
      withIds rename problem? ids before a := by
    intro a
    have hproblem : problem? (rename (toPlace ids before) a) = problem? a :=
      h.problem?_rename hwords fun r hr => placeProblem?_toPlace hform hlength (h.isWord a r hr)
    have hrename : rename (toId ids before) (rename (toPlace ids before) a) =
        rename (toId ids before) a := by
      rw [h.rename_rename hwords]
      exact h.congr fun r hr => toPlace_andThen_toId hform hlength (h.isWord a r hr)
    rw [withIds, withIds, hproblem, hrename]
  refine ⟨fun a => ?_, hundone, fun a hstays => ?_, fun a => h.withIds_eq_error_iff⟩
  · rw [h.rename_rename hwords]
    exact h.congr fun r _ => by rw [toPlace_andThen_toPlace hform]
  · have hself : rename (toId ids before) a = a := by
      rw [h.congr (g := stay) fun r hr => by rw [hstays r hr, stay], h.unchanged]
    rw [hundone, withIds]
    cases problem? a with
    | some problem => exact Or.inl ⟨problem, rfl⟩
    | none => exact Or.inr (congrArg Except.ok hself)

end Lawful

/-! ## Texts, expressions and what holds them -/

theorem isWord_of_mem_references {s r : String} (h : r ∈ references s) :
    Reference.IsWord r.toList := by
  obtain ⟨inside, -, hr⟩ := List.mem_filterMap.mp h
  obtain ⟨p, hp, rfl⟩ := Option.map_eq_some_iff.mp hr
  rw [String.toList_ofList]
  exact (HoleParts.ofInner?_eq_some_iff.mp hp).1.reference

theorem expression_stay (s : String) : expression stay s = s := by
  cases hs : startsOpen s with
  | true => rw [expression_of_open hs, text_stay]
  | false => rw [expression_of_not hs, text_stay, withoutBraces_wrapped hs]

theorem lawful_text : Lawful text textProblem? references where
  rename_rename := text_text
  congr := text_congr
  unchanged := text_stay
  references_rename := references_text
  isWord _ _ := isWord_of_mem_references
  problem?_eq := textProblem?_eq

theorem lawful_expression :
    Lawful expression expressionProblem? fun s => references (wrapped s) where
  rename_rename := expression_expression
  congr := expression_congr
  unchanged := expression_stay
  references_rename := references_expression
  isWord _ _ := isWord_of_mem_references
  problem?_eq s := by rw [expressionProblem?_eq, textProblem?_eq]

/-- The references of a value that is a text. -/
def valueReferences : Value → List String
  | .text s => references s
  | _ => []

theorem lawful_value : Lawful value valueProblem? valueReferences where
  rename_rename hf v := by
    cases v with
    | text s => exact congrArg Value.text (text_text hf s)
    | _ => rfl
  congr {f g v} hrefs := by
    cases v with
    | text s => exact congrArg Value.text (text_congr hrefs)
    | _ => rfl
  unchanged v := by
    cases v with
    | text s => exact congrArg Value.text (text_stay s)
    | _ => rfl
  references_rename hf v := by
    cases v with
    | text s => exact references_text hf s
    | _ => rfl
  isWord v r hr := by
    cases v with
    | text s => exact isWord_of_mem_references hr
    | _ => cases hr
  problem?_eq v := by
    cases v with
    | text s => exact textProblem?_eq s
    | _ => rfl

theorem findSome?_flatMap {β γ : Type} (find : β → Option γ) (parts : α → List β) (as : List α) :
    (as.flatMap parts).findSome? find = as.findSome? fun a => (parts a).findSome? find := by
  induction as with
  | nil => rfl
  | cons a as ih =>
      rw [List.flatMap_cons, List.findSome?_append, List.findSome?_cons, ih]
      cases (parts a).findSome? find <;> rfl

/-- Parameters are renamed text by text. -/
theorem lawful_parameters :
    Lawful (fun f p => Parameters.mapText (text f) p) (fun p => p.texts.findSome? textProblem?)
      fun p => p.texts.flatMap references where
  rename_rename hf p := by
    rw [Parameters.mapText_mapText]
    exact Parameters.mapText_congr fun s _ => text_text hf s
  congr hrefs := Parameters.mapText_congr fun s hs =>
    text_congr fun r hr => hrefs r (List.mem_flatMap.mpr ⟨s, hs, hr⟩)
  unchanged p := by
    obtain ⟨path, query, body⟩ := p
    have hsame : text stay = id := funext text_stay
    have hquery : QueryValue.mapText id = id := by
      funext q
      cases q <;> rfl
    simp [Parameters.mapText, hsame, hquery, Fields.mapValues]
  references_rename hf p := by
    rw [Parameters.texts_mapText, List.flatMap_map, List.map_flatMap]
    simp only [references_text hf]
  isWord p r hr := by
    obtain ⟨s, -, hr⟩ := List.mem_flatMap.mp hr
    exact isWord_of_mem_references hr
  problem?_eq p := by
    rw [findSome?_flatMap]
    exact congrArg (fun find => p.texts.findSome? find) (funext textProblem?_eq)

/-- Bindings are renamed expression by expression. -/
theorem lawful_mappings :
    Lawful mappings mappingsProblem? fun bindings =>
      (bindings.map Prod.snd).flatMap fun s => references (wrapped s) where
  rename_rename hf bindings := by
    rw [mappings, mappings, Fields.mapValues_mapValues]
    exact Fields.mapValues_congr fun s _ => expression_expression hf s
  congr hrefs := Fields.mapValues_congr fun s hs =>
    expression_congr fun r hr => hrefs r (List.mem_flatMap.mpr ⟨s, hs, hr⟩)
  unchanged bindings := by
    have hsame : expression stay = id := funext expression_stay
    simp [mappings, hsame, Fields.mapValues]
  references_rename hf bindings := by
    rw [mappings, Fields.map_snd_mapValues, List.flatMap_map, List.map_flatMap]
    simp only [references_expression hf]
  isWord bindings r hr := by
    obtain ⟨s, -, hr⟩ := List.mem_flatMap.mp hr
    exact isWord_of_mem_references hr
  problem?_eq bindings := by
    -- an empty expression is not looked at, and would have no problem
    have hentry : ∀ s : String, (if s = "" then none else expressionProblem? s) =
        (references (wrapped s)).findSome? placeProblem? := by
      intro s
      rw [← textProblem?_eq, ← expressionProblem?_eq]
      split
      · next hempty =>
        rw [hempty]
        decide
      · rfl
    rw [findSome?_flatMap, mappingsProblem?, List.findSome?_map]
    exact congrArg (fun find => List.findSome? find bindings) (funext fun entry => hentry entry.2)

/-! ## What stays -/

/-- Whether a text is another one with its references renamed: both are read from the left, and
all characters are the same but those of a reference in a placeholder. -/
inductive Relabels (f : Renaming) : List Char → List Char → Prop
  /-- Both texts end. -/
  | done : Relabels f [] []
  /-- A character at which no placeholder starts stays. -/
  | char {c : Char} {rest rest' : List Char} (hnone : Template.holeAt? (c :: rest) = none)
    (hrest : Relabels f rest rest') : Relabels f (c :: rest) (c :: rest')
  /-- The blanks before a reference and what follows it stay. -/
  | reference {p : HoleParts} {rest rest' : List Char} (hp : p.WellFormed)
    (hinside : Template.IsContent (p.before ++ p.reference ++ p.after))
    (hrest : Relabels f rest rest') :
    Relabels f ((Piece.hole (p.before ++ p.reference ++ p.after)).render ++ rest)
      ((Piece.hole (p.before ++ ((f (String.ofList p.reference)).getD
        (String.ofList p.reference)).toList ++ p.after)).render ++ rest')
  /-- A placeholder that does not start with a reference stays. -/
  | other {inside rest rest' : List Char} (hinside : Template.IsContent inside)
    (hnone : ∀ p : HoleParts, p.WellFormed → inside ≠ p.before ++ p.reference ++ p.after)
    (hrest : Relabels f rest rest') :
    Relabels f ((Piece.hole inside).render ++ rest) ((Piece.hole inside).render ++ rest')

/-- Renaming keeps all but the references in placeholders. -/
theorem relabels_mapHoles (f : Renaming) (chars : List Char) :
    Relabels f chars (Template.mapHoles (inner f) chars) := by
  induction chars using Template.induction with
  | nil => exact .done
  | char c rest hnone ih =>
      rw [Template.mapHoles_char _ hnone]
      exact .char hnone ih
  | hole inside rest hinside ih =>
      rw [Template.mapHoles_hole _ hinside]
      cases hp : HoleParts.ofInner? inside with
      | none =>
          rw [inner_of_none hp]
          refine .other hinside (fun p hwell heq => ?_) ih
          have hsome := HoleParts.ofInner?_eq_some_iff.mpr ⟨hwell, heq.trans (by simp)⟩
          rw [hp] at hsome
          cases hsome
      | some p =>
          obtain ⟨hwell, heq⟩ := HoleParts.ofInner?_eq_some_iff.mp hp
          rw [← List.append_assoc] at heq
          rw [inner_of_some hp, HoleParts.withReference]
          subst heq
          exact .reference hwell hinside ih

theorem relabels_text (f : Renaming) (s : String) : Relabels f s.toList (text f s).toList := by
  rw [toList_text]
  exact relabels_mapHoles f s.toList

/-- An expression without doubled braces of its own is changed as if it stood in a placeholder,
and the braces that are put around it for that are the ones that are taken away. -/
theorem relabels_expression (f : Renaming) {s : String} (h : startsOpen s = false) :
    Relabels f (Piece.hole s.toList).render (Piece.hole (expression f s).toList).render := by
  obtain ⟨image, himage⟩ := Template.exists_mapHoles_braced (inner f) s.toList
  have hlist : (text f (wrapped s)).toList = '\x7b' :: '\x7b' :: (image ++ ['\x7d', '\x7d']) := by
    rw [toList_text, toList_wrapped_of_not h, himage]
  have hrelabels := relabels_text f (wrapped s)
  rw [hlist, toList_wrapped_of_not h] at hrelabels
  rw [expression_of_not h, withoutBraces_of_braced hlist, String.toList_ofList]
  exact hrelabels

/-! ## Both ways of writing references -/

section Both

variable {ids : List String}

/-- Of ids none of which has the form of a place, writing them as places can be undone in texts,
expressions, values, parameters and bindings; and neither way of writing references changes
anything but the references in placeholders. -/
theorem references_reversible (hform : ∀ id ∈ ids, ¬ Reference.IsPlaceWord id)
    (hlength : ids.length ≤ 10 ^ digitLimit) (before : Int) :
    (Reversible text textProblem? references ids before ∧
      Reversible expression expressionProblem? (fun s => references (wrapped s)) ids before ∧
      Reversible value valueProblem? valueReferences ids before ∧
      Reversible (fun f => Parameters.mapText (text f)) (fun p => p.texts.findSome? textProblem?)
        (fun p => p.texts.flatMap references) ids before ∧
      Reversible mappings mappingsProblem?
        (fun bindings => (bindings.map Prod.snd).flatMap fun s => references (wrapped s))
        ids before) ∧
    ∀ f ∈ [toPlace ids before, toId ids before],
      (∀ s, Relabels f s.toList (text f s).toList) ∧
      (∀ s, startsOpen s = true → Relabels f s.toList (expression f s).toList) ∧
      (∀ s, startsOpen s = false →
        Relabels f (Piece.hole s.toList).render (Piece.hole (expression f s).toList).render) := by
  refine ⟨⟨?_, ?_, ?_, ?_, ?_⟩, fun f _ => ⟨relabels_text f, fun s hs => ?_, fun s hs => ?_⟩⟩
  · exact lawful_text.reversible hform hlength before
  · exact lawful_expression.reversible hform hlength before
  · exact lawful_value.reversible hform hlength before
  · exact lawful_parameters.reversible hform hlength before
  · exact lawful_mappings.reversible hform hlength before
  · rw [expression_of_open hs]
    exact relabels_text f s
  · exact relabels_expression f hs

/-- An id that only starts like a place, in a text with a brace before the placeholder, a place
that is too late to be written as an id, and in an expression with braces in its path. -/
theorem references_reversible_nearPlace :
    let ids := ["step0a", "u"]
    let s := "\x7b\x7b\x7b step0a.x \x7d\x7d\x7b\x7bstep5\x7d\x7d \x7b\x7bu\x7d\x7d"
    let e := "step0a.n\x7d\x7d\x7b"
    (∀ id ∈ ids, ¬ Reference.IsPlaceWord id) ∧ ids.length ≤ 10 ^ digitLimit ∧
    text (toPlace ids 1) s =
      "\x7b\x7b\x7b step0.x \x7d\x7d\x7b\x7bstep5\x7d\x7d \x7b\x7bu\x7d\x7d" ∧
    withIds text textProblem? ids 1 (text (toPlace ids 1) s) = .ok s ∧
    expression (toPlace ids 1) e = "step0.n\x7d\x7d\x7b" ∧
    withIds expression expressionProblem? ids 1 (expression (toPlace ids 1) e) = .ok e ∧
    Relabels (toPlace ids 1) s.toList (text (toPlace ids 1) s).toList := by
  intro ids s e
  have hform : ∀ id ∈ ids, ¬ Reference.IsPlaceWord id := by
    intro id hid
    rcases List.mem_pair.mp hid with rfl | rfl
    · rintro ⟨digits, -, hdigits, hlist⟩
      obtain rfl : digits = ['0', 'a'] := by simpa [Reference.placeWord] using hlist.symm
      exact absurd (hdigits 'a' (by simp)) (by decide)
    · rintro ⟨digits, -, -, hlist⟩
      simp [Reference.placeWord] at hlist
  have hlength : ids.length ≤ 10 ^ digitLimit :=
    Nat.le_trans (by decide : 2 ≤ 10 ^ 1) (Nat.pow_le_pow_right (by decide) (by decide))
  obtain ⟨⟨htext, hexpression, -⟩, hlocal⟩ := references_reversible hform hlength 1
  have hundone : withIds text textProblem? ids 1 s = .ok s := by decide +kernel
  have hundone' : withIds expression expressionProblem? ids 1 e = .ok e := by decide +kernel
  refine ⟨hform, hlength, by decide +kernel, ?_, by decide +kernel, ?_, ?_⟩
  · rw [htext.undone, hundone]
  · rw [hexpression.undone, hundone']
  · exact (hlocal _ (by simp)).1 s

end Both

end Renaming

end CallChain
