/-
# Filling in a path template

The parameters of a path template stand between braces. They can be filled in one after
another, each everywhere it stands, or all at once. When no name of a parameter and nothing
that is put in opens a brace, both give the same: what has been put in is not looked at
again, and no parameter begins or ends where none did.
-/

import CallChain.Endpoint
import CallChain.Proofs.Text.Scanning
import CallChain.Text.Basic
import Mathlib.Data.List.Find

namespace CallChain

/-! ## Replacing several patterns at once -/

namespace Text

/-- The text with every occurrence of one of some patterns replaced, each with what belongs to
it, from the left and without overlaps. `skip` counts the characters of an occurrence still
to be passed. -/
def replaceEachFrom (replacements : List (List Char × List Char)) : Nat → List Char → List Char
  | _, [] => []
  | skip + 1, _ :: rest => replaceEachFrom replacements skip rest
  | 0, c :: rest =>
    match replacements.find? fun entry => entry.1.isPrefixOf (c :: rest) with
    | some entry => entry.2 ++ replaceEachFrom replacements (entry.1.length - 1) rest
    | none => c :: replaceEachFrom replacements 0 rest

/-- The text with every occurrence of one of some patterns replaced, all at once; what is put
in is not searched again. -/
def replaceEach (replacements : List (List Char × List Char)) (text : List Char) : List Char :=
  replaceEachFrom replacements 0 text

variable {replacements : List (List Char × List Char)}

theorem replaceEach_char {c : Char} {rest : List Char}
    (h : replacements.find? (fun entry => entry.1.isPrefixOf (c :: rest)) = none) :
    replaceEach replacements (c :: rest) = c :: replaceEach replacements rest := by
  rw [replaceEach, replaceEachFrom, h]
  rfl

theorem replaceEach_pattern {pattern image rest : List Char} (hne : pattern ≠ [])
    (h : replacements.find? (fun entry => entry.1.isPrefixOf (pattern ++ rest)) =
      some (pattern, image)) :
    replaceEach replacements (pattern ++ rest) = image ++ replaceEach replacements rest := by
  obtain ⟨c, front, rfl⟩ := List.exists_cons_of_ne_nil hne
  have hskip := skip_append (replaceEachFrom replacements) (fun _ _ _ => rfl) front rest
  rw [List.cons_append] at h ⊢
  rw [replaceEach, replaceEachFrom, h]
  exact congrArg (image ++ ·) hskip

/-- Replacing one pattern everywhere is replacing each of one. -/
theorem replaceAll_eq (old new text : List Char) :
    replaceAll old new text = replaceEach [(old, new)] text := by
  have hfrom : ∀ (text : List Char) (skip : Nat),
      replaceFrom old new skip text = replaceEachFrom [(old, new)] skip text := by
    intro text
    induction text with
    | nil => intro skip; cases skip <;> rfl
    | cons c rest ih =>
        intro skip
        cases skip with
        | succ skip => exact ih skip
        | zero =>
            rw [replaceFrom, replaceEachFrom, List.find?_singleton]
            split
            · rw [ih]
            · rw [ih]
  exact hfrom text 0

end Text

/-! ## Parameters in a template -/

namespace Endpoint

/-- A parameter as it stands in a path template. -/
def braced (name : List Char) : List Char := '\x7b' :: name ++ ['\x7d']

/-- Whether characters can be the name of a parameter. -/
structure IsName (name : List Char) : Prop where
  /-- There are some. -/
  ne_nil : name ≠ []
  /-- None of them closes a brace. -/
  ne_close : ∀ c ∈ name, c ≠ '\x7d'

theorem takeWhile_close {name : List Char} (h : ∀ c ∈ name, c ≠ '\x7d') (rest : List Char) :
    (name ++ '\x7d' :: rest).takeWhile (· != '\x7d') = name := by
  rw [List.takeWhile_append_of_pos (by simpa using h)]
  simp

/-- A template starts with a parameter, or none is read at its first character. -/
theorem parameterAt?_cases (text : List Char) :
    (∃ name rest, IsName name ∧ text = braced name ++ rest) ∨ parameterAt? text = none := by
  unfold parameterAt?
  split
  · next rest =>
    dsimp only
    split
    · exact Or.inr rfl
    · next hname =>
      simp only [Bool.or_eq_true, List.isEmpty_iff, decide_eq_true_eq, not_or] at hname
      have hclose : ∀ c ∈ rest.takeWhile (· != '\x7d'), c ≠ '\x7d' := fun c hc => by
        simpa using List.all_eq_true.mp List.all_takeWhile c hc
      have hsplit := List.takeWhile_append_dropWhile (p := (· != '\x7d')) (l := rest)
      cases hdrop : rest.dropWhile (· != '\x7d') with
      | nil =>
          rw [hdrop, List.append_nil] at hsplit
          exact absurd (congrArg List.length hsplit) hname.2
      | cons c others =>
          have hc : c = '\x7d' := by
            have hnot := List.head?_dropWhile_not (· != '\x7d') rest
            rw [hdrop] at hnot
            simpa using hnot
          refine Or.inl ⟨_, others, ⟨hname.1, hclose⟩, ?_⟩
          rw [hdrop, hc] at hsplit
          simp [braced, hsplit]
  · exact Or.inr rfl

theorem parameterAt?_braced {name : List Char} (h : IsName name) (rest : List Char) :
    parameterAt? (braced name ++ rest) = some name := by
  have htake := takeWhile_close h.ne_close rest
  simp only [braced, List.cons_append, List.append_assoc, List.nil_append, parameterAt?, htake]
  simp [h.ne_nil]

/-- Whether no parameter can start at a character, whatever the names are: it opens no brace, or
the brace is closed at once or never. -/
def StartsNone (c : Char) (rest : List Char) : Prop :=
  c = '\x7b' → rest.head? = some '\x7d' ∨ '\x7d' ∉ rest

theorem startsNone_of_ne {c : Char} (hc : c ≠ '\x7b') (rest : List Char) : StartsNone c rest :=
  fun h => absurd h hc

theorem startsNone_of_parameterAt? {c : Char} {rest : List Char}
    (h : parameterAt? (c :: rest) = none) : StartsNone c rest := by
  rintro rfl
  by_cases hclose : '\x7d' ∈ rest
  · obtain ⟨name, others, rfl, hnot⟩ := List.eq_append_cons_of_mem hclose
    by_cases hne : name = []
    · exact Or.inl (by rw [hne]; rfl)
    · have hname : IsName name := ⟨hne, fun c hc heq => hnot (heq ▸ hc)⟩
      have hread := parameterAt?_braced hname others
      simp only [braced, List.cons_append, List.append_assoc, List.nil_append] at hread
      rw [h] at hread
      cases hread
  · exact Or.inr hclose

/-! ## The names of a template -/

theorem parametersFrom_braced {name : List Char} (h : IsName name) (rest : List Char) :
    parametersFrom 0 (braced name ++ rest) = name :: parametersFrom 0 rest := by
  have hread := parameterAt?_braced h rest
  have hskip := Text.skip_append parametersFrom (fun _ _ _ => rfl) (name ++ ['\x7d']) rest
  rw [List.length_append, List.length_singleton] at hskip
  rw [braced, List.cons_append, List.cons_append] at hread ⊢
  rw [parametersFrom, hread]
  exact congrArg (name :: ·) hskip

theorem parametersFrom_char {c : Char} {rest : List Char}
    (h : parameterAt? (c :: rest) = none) :
    parametersFrom 0 (c :: rest) = parametersFrom 0 rest := by
  rw [parametersFrom, h]

/-- Induction on a template as it is read: it is empty, or starts with a parameter, or with a
character at which none is read. -/
theorem parameters_induction {P : List Char → Prop} (nil : P [])
    (parameter : ∀ name rest, IsName name → P rest → P (braced name ++ rest))
    (char : ∀ c rest, parameterAt? (c :: rest) = none → P rest → P (c :: rest)) :
    ∀ text, P text :=
  Text.induction_of_pieces (fun _ => List.cons_ne_nil _ _) parameterAt?_cases nil parameter char

theorem isName_of_mem_parametersFrom (text : List Char) :
    ∀ name ∈ parametersFrom 0 text, IsName name := by
  induction text using parameters_induction with
  | nil => exact nofun
  | parameter name rest hname ih =>
      rw [parametersFrom_braced hname]
      intro other hother
      rcases List.mem_cons.mp hother with rfl | hother
      · exact hname
      · exact ih other hother
  | char c rest hnone ih =>
      rw [parametersFrom_char hnone]
      exact ih

/-! ## Filling in -/

/-- A path template with some parameters replaced all at once, each by what belongs to it. -/
def fill (images : List (List Char × List Char)) (template : List Char) : List Char :=
  Text.replaceEach (images.map fun entry => (braced entry.1, entry.2)) template

section Fill

variable {images : List (List Char × List Char)}

theorem fill_nil_images (template : List Char) : fill [] template = template := by
  induction template with
  | nil => rfl
  | cons c rest ih =>
      rw [fill, List.map_nil, Text.replaceEach_char List.find?_nil]
      exact congrArg (c :: ·) ih

variable (hnames : ∀ entry ∈ images, IsName entry.1)

include hnames

theorem fill_char {c : Char} {rest : List Char} (h : StartsNone c rest) :
    fill images (c :: rest) = c :: fill images rest := by
  apply Text.replaceEach_char
  rw [List.find?_eq_none]
  intro entry hentry hprefix
  obtain ⟨⟨name, image⟩, hmem, rfl⟩ := List.mem_map.mp hentry
  have hname := hnames _ hmem
  obtain ⟨tail, htail⟩ := List.isPrefixOf_iff_prefix.mp hprefix
  simp only [braced, List.cons_append, List.append_assoc, List.nil_append, List.cons.injEq] at htail
  obtain ⟨rfl, rfl⟩ := htail
  rcases h rfl with hhead | hnone
  · obtain ⟨d, others, rfl⟩ := List.exists_cons_of_ne_nil hname.ne_nil
    exact hname.ne_close d List.mem_cons_self (Option.some.inj hhead)
  · exact hnone (by simp)

theorem fill_append_of_ne {front : List Char} (hfront : ∀ c ∈ front, c ≠ '\x7b')
    (rest : List Char) : fill images (front ++ rest) = front ++ fill images rest := by
  induction front with
  | nil => rfl
  | cons c front ih =>
      have hc : c ≠ '\x7b' := hfront c List.mem_cons_self
      rw [List.cons_append, fill_char hnames (startsNone_of_ne hc _),
        ih fun d hd => hfront d (List.mem_cons_of_mem c hd), List.cons_append]

theorem fill_eq_self {text : List Char} (h : '\x7d' ∉ text) : fill images text = text := by
  induction text with
  | nil => rfl
  | cons c rest ih =>
      have hrest : '\x7d' ∉ rest := fun hmem => h (List.mem_cons_of_mem c hmem)
      rw [fill_char hnames fun _ => Or.inr hrest, ih hrest]

/-- Filling in behind a character makes no parameter start at it. -/
theorem startsNone_fill {c : Char} {rest : List Char} (h : StartsNone c rest) :
    StartsNone c (fill images rest) := by
  intro hc
  rcases h hc with hhead | hnone
  · cases rest with
    | nil => cases hhead
    | cons d others =>
        cases hhead
        exact Or.inl (by rw [fill_char hnames (startsNone_of_ne (by decide) _)]; rfl)
  · exact Or.inr (by rwa [fill_eq_self hnames hnone])

/-- A parameter is replaced by what belongs to its name, or stays when nothing does. -/
theorem fill_parameter {name : List Char} (hname : IsName name) (hopen : ∀ c ∈ name, c ≠ '\x7b')
    (rest : List Char) :
    fill images (braced name ++ rest) =
      ((images.find? (·.1 = name)).elim (braced name) Prod.snd) ++ fill images rest := by
  -- a pattern stands at the start of the parameter only if it is that of the same name
  have hprefix : ∀ other, IsName other →
      ((braced other).isPrefixOf (braced name ++ rest) = true ↔ other = name) := by
    intro other hother
    rw [List.isPrefixOf_iff_prefix]
    refine ⟨fun ⟨tail, htail⟩ => ?_, fun heq => heq ▸ List.prefix_append _ _⟩
    simp only [braced, List.cons_append, List.append_assoc, List.nil_append, List.cons.injEq,
      true_and] at htail
    rw [← takeWhile_close hother.ne_close tail, htail, takeWhile_close hname.ne_close rest]
  have hfind : (images.map fun entry => (braced entry.1, entry.2)).find?
      (fun entry => entry.1.isPrefixOf (braced name ++ rest)) =
        (images.find? (·.1 = name)).map fun entry => (braced entry.1, entry.2) := by
    rw [List.find?_map]
    apply congrArg (Option.map _)
    apply List.find?_congr
    intro entry hentry
    rw [Function.comp, Bool.eq_iff_iff, hprefix _ (hnames entry hentry), decide_eq_true_eq]
  cases hown : images.find? (·.1 = name) with
  | some entry =>
      obtain ⟨other, image⟩ := entry
      obtain rfl : other = name := by simpa using List.find?_some hown
      rw [hown] at hfind
      exact Text.replaceEach_pattern (List.cons_ne_nil _ _) hfind
  | none =>
      rw [hown] at hfind
      have hinside : ∀ c ∈ name ++ ['\x7d'], c ≠ '\x7b' := by
        intro c hc
        rcases List.mem_append.mp hc with hc | hc
        · exact hopen c hc
        · rw [List.mem_singleton.mp hc]
          decide
      have hrest := fill_append_of_ne hnames hinside rest
      rw [braced, List.cons_append, List.cons_append] at hfind ⊢
      rw [fill, Text.replaceEach_char hfind, Option.elim_none, List.cons_append, ← hrest]
      rfl

end Fill

/-- Filling in one more parameter afterwards is filling it in with the others, when no brace
opens in what has been put in. -/
theorem fill_fill {images : List (List Char × List Char)} {name image template : List Char}
    (hnames : ∀ entry ∈ images, IsName entry.1)
    (himages : ∀ entry ∈ images, ∀ c ∈ entry.2, c ≠ '\x7b') (hname : IsName name)
    (htemplate : ∀ other ∈ parametersFrom 0 template, ∀ c ∈ other, c ≠ '\x7b') :
    fill [(name, image)] (fill images template) = fill (images ++ [(name, image)]) template := by
  have hone : ∀ entry ∈ [(name, image)], IsName entry.1 := by
    intro entry hentry
    rw [List.mem_singleton.mp hentry]
    exact hname
  have hall : ∀ entry ∈ images ++ [(name, image)], IsName entry.1 := by
    intro entry hentry
    rcases List.mem_append.mp hentry with hentry | hentry
    · exact hnames entry hentry
    · exact hone entry hentry
  induction template using parameters_induction with
  | nil => rfl
  | char c rest hnone ih =>
      rw [parametersFrom_char hnone] at htemplate
      have hstart := startsNone_of_parameterAt? hnone
      rw [fill_char hnames hstart, fill_char hone (startsNone_fill hnames hstart),
        fill_char hall hstart, ih htemplate]
  | parameter other rest hother ih =>
      rw [parametersFrom_braced hother] at htemplate
      have hopen := htemplate other List.mem_cons_self
      have hrest := ih fun others hothers => htemplate others (List.mem_cons_of_mem _ hothers)
      rw [fill_parameter hnames hother hopen, fill_parameter hall hother hopen, List.find?_append,
        ← hrest]
      cases hown : images.find? (·.1 = other) with
      | none =>
          rw [Option.elim_none, Option.none_or, fill_parameter hone hother hopen]
      | some entry =>
          rw [Option.elim_some, Option.some_or, Option.elim_some]
          exact fill_append_of_ne hone (himages entry (List.mem_of_find?_eq_some hown)) _

end Endpoint

end CallChain
