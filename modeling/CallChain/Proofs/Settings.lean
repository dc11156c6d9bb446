/-
# Three layers of settings

Each setting comes from the topmost layer that has it: a variable that is set and not empty, or
else the settings file, or else its default. `Gives` says so of one setting and `LayeredFrom` of
all of them, together with the bounds that they have to keep.

A settings file is refused in words when it is missing, cannot be read, holds no mapping, or
gives a setting of the wrong shape or size (`Refuses`). This is not all that can be wrong with
it: a way that is too long, a file that is not written in UTF-8, what a loader of YAML reports
otherwise than by refusing the text, and a key that is no text end the loading without a word
(`Escapes`). There are no other ends, which is what `load_layered` says of every loader.
-/

import CallChain.Proofs.Files.Writing
import CallChain.Settings

namespace CallChain.Settings

open Yaml (Loader Node Scalar nodeAt?)

/-! ## Layers -/

section Layers

variable (environment : Fields String) (entries : List (Scalar × Node))

/-- Whether a variable is set, and not to the empty text. -/
def IsSet (key text : String) : Prop :=
  environment.get? key = some text ∧ text ≠ ""

/-- Whether the variable of a setting is set to a text. -/
def Overrides (name text : String) : Prop :=
  ∃ key, (key, name) ∈ variableMembers ∧ IsSet environment key text

/-- Whether the layers give a setting, where `read` says what a value is read as. -/
inductive Gives {α : Type} (name : String) (default : α) (read : Value → Option α) : α → Prop
  /-- Its variable does. -/
  | overridden {text : String} {a : α} (hset : Overrides environment name text)
    (ha : read (.text text) = some a) : Gives name default read a
  /-- No variable does, and the file does. -/
  | written {s : Scalar} {v : Value} {a : α} (hunset : ∀ text, ¬ Overrides environment name text)
    (hfile : nodeAt? entries name = some (.scalar s)) (hvalue : s.value? = some v)
    (ha : read v = some a) : Gives name default read a
  /-- Nothing does, so that it is the default. -/
  | default (hunset : ∀ text, ¬ Overrides environment name text)
    (hfile : nodeAt? entries name = none) : Gives name default read default

/-- Whether settings are those that the layers give, and keep their bounds. -/
structure LayeredFrom (home : Location) (s : Settings) : Prop where
  /-- What every address starts with is a text. -/
  baseUrl : Gives environment entries "base_url" defaultBaseUrl Value.text? s.baseUrl
  /-- The token is a text. -/
  token : Gives environment entries "token" "" Value.text? s.token
  /-- The timeout is a number. -/
  timeout : Gives environment entries "timeout" (Binary64.ofInt 30) Value.asFloat? s.timeout
  /-- It is greater than zero. -/
  timeout_positive : s.timeout.isPositive = true
  /-- The limit is a whole number. -/
  defaultLimit : Gives environment entries "default_limit" 10 Value.asInt? s.defaultLimit
  /-- It lies between 1 and 100. -/
  defaultLimit_bounds : 1 ≤ s.defaultLimit ∧ s.defaultLimit ≤ 100
  /-- Where the catalog comes from is a text, or open. -/
  catalogSource : Gives environment entries "catalog_source" none
    (Value.optional? Value.text?) s.catalogSource
  /-- Where the token is kept is a text that writes a location. -/
  tokenFile : Gives environment entries "token_store_path" (usualTokenFile home)
    (fun v => v.text?.map Location.ofText) s.tokenFile

end Layers

/-! ## Files -/

/-- Whether all keys of entries are texts. -/
def HasTextKeys (entries : List (Scalar × Node)) : Prop :=
  ∀ entry ∈ entries, ∃ name, entry.1 = .text name

/-- The file that settings are read from. -/
abbrev settingsFile (home : Location) (asked : Option Location) : Location :=
  asked.getD (usualFile home)

section Ends

variable (fs : Files) (home : Location) (environment : Fields String) (asked : Option Location)
  (yaml : Loader)

/-- Whether a file writes a document. -/
def Holds (file : Location) (document : Node) : Prop :=
  ∃ text, fs.read file = .ok text ∧ yaml.load text = .ok document

/-- The entries that the settings file gives. -/
inductive FileGives : List (Scalar × Node) → Prop
  /-- None, since nobody asked for a file and the usual one is missing. -/
  | missing (hasked : asked = none) (h : fs.has (usualFile home) = .ok false) : FileGives []
  /-- None, since its document counts as absent. -/
  | absent {document : Node} (h : Holds fs yaml (settingsFile home asked) document)
    (hfalsy : document.isTruthy = false) : FileGives []
  /-- Those of its mapping. -/
  | mapping {entries : List (Scalar × Node)}
    (h : Holds fs yaml (settingsFile home asked) (.mapping entries)) : FileGives entries

/-- Why there are no settings, and the caller is told. -/
inductive Refuses : SettingsProblem → Prop
  /-- The file that was asked for is missing. -/
  | missing {file : Location} (hasked : asked = some file) (h : fs.has file = .ok false) :
    Refuses (.missing file)
  /-- The file is there and is not read. -/
  | unread {problem : FileProblem} (hthere : fs.has (settingsFile home asked) = .ok true)
    (h : fs.read (settingsFile home asked) = .error problem)
    (htext : ∀ l, problem ≠ .notText l) : Refuses (.unreadable (settingsFile home asked))
  /-- It writes no document. -/
  | malformed {text : String} (h : fs.read (settingsFile home asked) = .ok text)
    (hyaml : yaml.load text = .error .malformed) :
    Refuses (.unreadable (settingsFile home asked))
  /-- Its document counts as present and is no mapping. -/
  | notMapping {document : Node} (h : Holds fs yaml (settingsFile home asked) document)
    (htruthy : document.isTruthy = true) (hmapping : ∀ entries, document ≠ .mapping entries) :
    Refuses (.notMapping (settingsFile home asked))
  /-- There are no settings that the layers give. -/
  | invalid {entries : List (Scalar × Node)} (h : FileGives fs home asked yaml entries)
    (hkeys : HasTextKeys entries) (hnone : ∀ s, ¬ LayeredFrom environment entries home s) :
    Refuses .invalid

/-- Why there are no settings, and nothing is said. -/
inductive Escapes : SettingsProblem → Prop
  /-- It is not known whether the file is there. -/
  | way {problem : FileProblem} (h : fs.has (settingsFile home asked) = .error problem) :
    Escapes (.badFile problem)
  /-- The file is there and is not written in UTF-8. -/
  | notText {l : Location} (hthere : fs.has (settingsFile home asked) = .ok true)
    (h : fs.read (settingsFile home asked) = .error (.notText l)) :
    Escapes (.badFile (.notText l))
  /-- A number in the file is not read. -/
  | number {text : String} {problem : NumberProblem}
    (h : fs.read (settingsFile home asked) = .ok text)
    (hyaml : yaml.load text = .error (.number problem)) : Escapes (.badNumber problem)
  /-- Lists and mappings in it are nested too deeply. -/
  | tooDeep {text : String} (h : fs.read (settingsFile home asked) = .ok text)
    (hyaml : yaml.load text = .error .tooDeep) : Escapes .tooDeep
  /-- The loader fails in a way of its own. -/
  | raised {text kind : String} (h : fs.read (settingsFile home asked) = .ok text)
    (hyaml : yaml.load text = .error (.raised kind)) : Escapes (.raised kind)
  /-- A key in it is no text. -/
  | keyNotText {entries : List (Scalar × Node)} (h : FileGives fs home asked yaml entries)
    (hkeys : ¬ HasTextKeys entries) : Escapes .keyNotText

end Ends

variable {fs : Files} {home : Location} {environment : Fields String} {asked : Option Location}
  {yaml : Loader} {fields : Fields Node} {entries : List (Scalar × Node)}
  {problem : SettingsProblem}

/-! ## What variables set -/

/-- The members with the one that a variable sets. -/
def withVariable (environment : Fields String) (fields : Fields Node) (entry : String × String) :
    Fields Node :=
  match (environment.get? entry.1).filter (· ≠ "") with
  | some value => fields.set entry.2 (.scalar (.text value))
  | none => fields

theorem withVariables_eq (environment : Fields String) (fields : Fields Node) :
    withVariables environment fields = variableMembers.foldl (withVariable environment) fields :=
  rfl

theorem withVariable_of_isSet {key text : String} (h : IsSet environment key text)
    (fields : Fields Node) (name : String) :
    withVariable environment fields (key, name) = fields.set name (.scalar (.text text)) := by
  have hsome : (environment.get? key).filter (· ≠ "") = some text :=
    Option.filter_eq_some_iff.mpr ⟨h.1, decide_eq_true h.2⟩
  rw [withVariable, hsome]

theorem withVariable_of_unset {key : String} (h : ∀ text, ¬ IsSet environment key text)
    (fields : Fields Node) (name : String) :
    withVariable environment fields (key, name) = fields := by
  have hnone : (environment.get? key).filter (· ≠ "") = none := by
    rw [Option.filter_eq_none_iff]
    intro text htext hsome
    exact h text ⟨htext, of_decide_eq_true hsome⟩
  rw [withVariable, hnone]

/-- A member that no variable sets is as it was. -/
theorem get?_foldl_of_unset {entries : List (String × String)} {name : String}
    (h : ∀ entry ∈ entries, entry.2 = name → ∀ text, ¬ IsSet environment entry.1 text)
    (fields : Fields Node) :
    Fields.get? (entries.foldl (withVariable environment) fields) name =
      Fields.get? fields name := by
  induction entries generalizing fields with
  | nil => rfl
  | cons entry entries ih =>
      obtain ⟨hfirst, hrest⟩ := List.forall_mem_cons.mp h
      rw [List.foldl_cons, ih hrest]
      obtain ⟨key, member⟩ := entry
      by_cases hset : ∃ text, IsSet environment key text
      · obtain ⟨text, hset⟩ := hset
        rw [withVariable_of_isSet hset]
        exact Fields.get?_set_of_ne _ _ fun heq => hfirst heq text hset
      · rw [withVariable_of_unset (not_exists.mp hset)]

/-- A member that a variable sets is its text, if no later variable sets the same member. -/
theorem get?_foldl_of_isSet {entries : List (String × String)}
    (hdistinct : (entries.map Prod.snd).Nodup) {key name text : String}
    (hmem : (key, name) ∈ entries) (hset : IsSet environment key text)
    (fields : Fields Node) :
    Fields.get? (entries.foldl (withVariable environment) fields) name =
      some (.scalar (.text text)) := by
  induction entries generalizing fields with
  | nil => exact absurd hmem List.not_mem_nil
  | cons entry entries ih =>
      obtain ⟨hnew, hdistinct⟩ := List.nodup_cons.mp hdistinct
      rw [List.foldl_cons]
      rcases List.mem_cons.mp hmem with rfl | hmem
      · rw [get?_foldl_of_unset fun other hother heq => ?_, withVariable_of_isSet hset,
          Fields.get?_set_self]
        exact absurd (List.mem_map.mpr ⟨other, hother, heq⟩) hnew
      · exact ih hdistinct hmem _

theorem get?_withVariables_of_overrides {name text : String}
    (h : Overrides environment name text) (fields : Fields Node) :
    Fields.get? (withVariables environment fields) name = some (.scalar (.text text)) := by
  obtain ⟨key, hmem, hset⟩ := h
  -- No two variables set the same member.
  have hdistinct : (variableMembers.map Prod.snd).Nodup := by decide
  rw [withVariables_eq]
  exact get?_foldl_of_isSet hdistinct hmem hset fields

theorem get?_withVariables_of_not_overrides {name : String}
    (h : ∀ text, ¬ Overrides environment name text) (fields : Fields Node) :
    Fields.get? (withVariables environment fields) name = Fields.get? fields name := by
  rw [withVariables_eq]
  refine get?_foldl_of_unset (fun entry hentry heq text hset => h text ⟨entry.1, ?_, hset⟩) fields
  rwa [← heq]

/-! ## Members -/

theorem members?_cons (entry : Scalar × Node) (entries : List (Scalar × Node)) :
    members? (entry :: entries) = (match entry.1 with
      | .text name => (members? entries).map ((name, entry.2) :: ·)
      | _ => none) := by
  rw [members?, List.mapM_cons]
  cases entry.1 with
  | text name => exact (Option.map_eq_bind ..).symm
  | _ => rfl

/-- Entries whose keys are texts are members, and a member is what stands under its name. -/
theorem exists_members? (h : HasTextKeys entries) : ∃ fields, members? entries = some fields ∧
    ∀ name, Fields.get? fields name = nodeAt? entries name := by
  induction entries with
  | nil => exact ⟨[], rfl, fun name => rfl⟩
  | cons entry entries ih =>
      obtain ⟨⟨key, hkey⟩, hrest⟩ := List.forall_mem_cons.mp h
      obtain ⟨fields, hfields, hget⟩ := ih hrest
      refine ⟨(key, entry.2) :: fields, by rw [members?_cons, hkey, hfields]; rfl, fun name => ?_⟩
      by_cases heq : key = name
      · simp [Fields.get?, nodeAt?, hkey, heq]
      · rw [Fields.get?, if_neg heq, hget, nodeAt?, nodeAt?, List.find?_cons_of_neg]
        simp [hkey, heq]

theorem members?_of_not_hasTextKeys (h : ¬ HasTextKeys entries) : members? entries = none := by
  induction entries with
  | nil => exact absurd (List.forall_mem_nil _) h
  | cons entry entries ih =>
      rw [members?_cons]
      split
      · next name hkey =>
        rw [ih fun hrest => h (List.forall_mem_cons.mpr ⟨⟨name, hkey⟩, hrest⟩)]
        rfl
      · rfl

section Members

variable {α : Type} {name : String} {default a : α} {read : Value → Option α}

/-- What a member is read as is what the layers give. -/
theorem member?_eq_some_iff (hfields : ∀ name, Fields.get? fields name = nodeAt? entries name) :
    member? (withVariables environment fields) name default read = some a ↔
      Gives environment entries name default read a := by
  by_cases hset : ∃ text, Overrides environment name text
  · obtain ⟨text, hset⟩ := hset
    have hget := get?_withVariables_of_overrides hset fields
    rw [member?, hget]
    constructor
    · exact fun ha => .overridden hset ha
    · intro h
      cases h with
      | @overridden other _ hother ha =>
          rw [get?_withVariables_of_overrides hother] at hget
          cases hget
          exact ha
      | written hunset => exact absurd hset (hunset text)
      | default hunset => exact absurd hset (hunset text)
  · have hunset := not_exists.mp hset
    rw [member?, get?_withVariables_of_not_overrides hunset, hfields]
    constructor
    · intro h
      split at h
      · next hfile =>
        cases h
        exact .default hunset hfile
      · next s hfile =>
        obtain ⟨v, hvalue, ha⟩ := Option.bind_eq_some_iff.mp h
        exact .written hunset hfile hvalue ha
      · cases h
    · intro h
      cases h with
      | overridden hset => exact absurd hset (hunset _)
      | written _ hfile hvalue ha =>
          simp only [hfile, hvalue]
          exact ha
      | default _ hfile => simp only [hfile]

/-- A bound that the default keeps is one that any setting has to keep. -/
theorem member?_filter_eq_some_iff {keeps : α → Bool} (hdefault : keeps default = true) :
    member? fields name default (fun v => (read v).filter keeps) = some a ↔
      member? fields name default read = some a ∧ keeps a = true := by
  rw [member?, member?]
  split
  · constructor
    · intro h
      cases h
      exact ⟨rfl, hdefault⟩
    · exact And.left
  · next s _ =>
    simp [Option.bind_eq_some_iff, Option.filter_eq_some_iff, and_assoc, ← exists_and_right]
  · exact ⟨nofun, And.left⟩

end Members

/-- What members set is what the layers give. -/
theorem ofMembers?_eq_some_iff (hfields : ∀ name, Fields.get? fields name = nodeAt? entries name)
    {s : Settings} : ofMembers? home (withVariables environment fields) = some s ↔
      LayeredFrom environment entries home s := by
  have htimeout (x : Binary64) : member? (withVariables environment fields) "timeout"
      (Binary64.ofInt 30) (fun v => v.asFloat?.filter Binary64.isPositive) = some x ↔
        Gives environment entries "timeout" (Binary64.ofInt 30) Value.asFloat? x ∧
          x.isPositive = true := by
    rw [member?_filter_eq_some_iff (by decide +kernel), member?_eq_some_iff hfields]
  have hlimit (n : Int) : member? (withVariables environment fields) "default_limit" 10
      (fun v => v.asInt?.filter fun n => 1 ≤ n && n ≤ 100) = some n ↔
        Gives environment entries "default_limit" 10 Value.asInt? n ∧ 1 ≤ n ∧ n ≤ 100 := by
    rw [member?_filter_eq_some_iff (by decide), member?_eq_some_iff hfields, Bool.and_eq_true,
      decide_eq_true_iff, decide_eq_true_iff]
  simp only [ofMembers?, Option.bind_eq_bind, Option.bind_eq_some_iff, htimeout, hlimit,
    member?_eq_some_iff hfields, Option.pure_def, Option.some.injEq]
  constructor
  · rintro ⟨_, hbase, _, htoken, _, ⟨htime, hpos⟩, _, ⟨hlim, hbounds⟩, _, hcat, _, hfile, rfl⟩
    exact ⟨hbase, htoken, htime, hpos, hlim, hbounds, hcat, hfile⟩
  · rintro ⟨hbase, htoken, htime, hpos, hlim, hbounds, hcat, hfile⟩
    exact ⟨_, hbase, _, htoken, _, ⟨htime, hpos⟩, _, ⟨hlim, hbounds⟩, _, hcat, _, hfile, rfl⟩

/-! ## Ends -/

theorem fileMembers_of_holds {document : Node}
    (h : Holds fs yaml (settingsFile home asked) document) :
    fileMembers fs home asked yaml = ofDocument (settingsFile home asked) document := by
  obtain ⟨text, hread, hyaml⟩ := h
  simp only [fileMembers, Files.has_of_read hread, hread, hyaml]

/-- The members of a file are those of its entries, unless a key is no text. -/
theorem FileGives.fileMembers_eq (h : FileGives fs home asked yaml entries) :
    fileMembers fs home asked yaml = (match members? entries with
      | some fields => .ok fields
      | none => .error .keyNotText) := by
  cases h with
  | missing hasked h =>
      cases hasked
      simp only [fileMembers, Option.getD_none, h]
      rfl
  | absent h hfalsy =>
      rw [fileMembers_of_holds h, ofDocument, hfalsy]
      rfl
  | mapping h =>
      rw [fileMembers_of_holds h, ofDocument]
      cases entries with
      | nil => rfl
      | cons entry entries =>
          simp only [Node.isTruthy, Node.mapping?, List.isEmpty_cons, Bool.not_false, if_true]
          cases members? (entry :: entries) <;> rfl

/-- A document gives entries, or is refused. -/
theorem Holds.gives_or_refuses {document : Node}
    (h : Holds fs yaml (settingsFile home asked) document) (environment : Fields String) :
    (∃ entries, FileGives fs home asked yaml entries) ∨
      ∃ problem, Refuses fs home environment asked yaml problem := by
  by_cases hmapping : ∃ entries, document = .mapping entries
  · obtain ⟨entries, rfl⟩ := hmapping
    exact .inl ⟨entries, .mapping h⟩
  · cases htruthy : document.isTruthy with
    | false => exact .inl ⟨_, .absent h htruthy⟩
    | true => exact .inr ⟨_, .notMapping h htruthy (not_exists.mp hmapping)⟩

/-- A file gives entries, or there is a problem with it. -/
theorem fileGives_or_ends (fs : Files) (home : Location) (environment : Fields String)
    (asked : Option Location) (yaml : Loader) : (∃ entries, FileGives fs home asked yaml entries) ∨
      (∃ problem, Refuses fs home environment asked yaml problem) ∨
      ∃ problem, Escapes fs home asked yaml problem := by
  cases hhas : fs.has (settingsFile home asked) with
  | error problem => exact .inr (.inr ⟨_, .way hhas⟩)
  | ok found =>
      cases found with
      | false =>
          cases asked with
          | none => exact .inl ⟨_, .missing rfl hhas⟩
          | some file => exact .inr (.inl ⟨_, .missing rfl hhas⟩)
      | true =>
          cases hread : fs.read (settingsFile home asked) with
          | error problem =>
              cases problem with
              | notText l => exact .inr (.inr ⟨_, .notText hhas hread⟩)
              | _ => exact .inr (.inl ⟨_, .unread hhas hread nofun⟩)
          | ok text =>
              cases hyaml : yaml.load text with
              | ok document =>
                  exact (Holds.gives_or_refuses ⟨text, hread, hyaml⟩ environment).imp_right .inl
              | error trouble =>
                  cases trouble with
                  | malformed => exact .inr (.inl ⟨_, .malformed hread hyaml⟩)
                  | number problem => exact .inr (.inr ⟨_, .number hread hyaml⟩)
                  | tooDeep => exact .inr (.inr ⟨_, .tooDeep hread hyaml⟩)
                  | raised kind => exact .inr (.inr ⟨_, .raised hread hyaml⟩)

/-- Entries under texts give the settings that the layers give, if there are any. -/
theorem FileGives.load_eq_ok (h : FileGives fs home asked yaml entries)
    (hkeys : HasTextKeys entries) {s : Settings} (hs : LayeredFrom environment entries home s) :
    load fs home environment asked yaml = .ok s := by
  obtain ⟨fields, hfields, hget⟩ := exists_members? hkeys
  rw [load, h.fileMembers_eq, hfields]
  simp only [Bind.bind, Except.bind, (ofMembers?_eq_some_iff hget).mpr hs]
  rfl

theorem load_of_fileMembers_error (h : fileMembers fs home asked yaml = .error problem) :
    load fs home environment asked yaml = .error problem := by
  rw [load, h]
  rfl

theorem Refuses.load_eq (h : Refuses fs home environment asked yaml problem) :
    load fs home environment asked yaml = .error problem := by
  cases h with
  | missing hasked h =>
      cases hasked
      refine load_of_fileMembers_error ?_
      simp only [fileMembers, Option.getD_some, h]
      rfl
  | unread hthere h htext =>
      refine load_of_fileMembers_error ?_
      simp only [fileMembers, hthere, h]
  | malformed h hyaml =>
      refine load_of_fileMembers_error ?_
      simp only [fileMembers, Files.has_of_read h, h, hyaml]
      rfl
  | @notMapping document h htruthy hmapping =>
      refine load_of_fileMembers_error ?_
      rw [fileMembers_of_holds h, ofDocument, if_pos htruthy]
      cases document with
      | mapping entries => exact absurd rfl (hmapping entries)
      | _ => rfl
  | @invalid entries h hkeys hnone =>
      obtain ⟨fields, hfields, hget⟩ := exists_members? hkeys
      have hmembers : ofMembers? home (withVariables environment fields) = none :=
        Option.eq_none_iff_forall_ne_some.mpr fun s hs =>
          hnone s ((ofMembers?_eq_some_iff hget).mp hs)
      rw [load, h.fileMembers_eq, hfields]
      simp only [Bind.bind, Except.bind, hmembers]
      rfl

theorem Escapes.load_eq (h : Escapes fs home asked yaml problem) :
    load fs home environment asked yaml = .error problem := by
  refine load_of_fileMembers_error ?_
  cases h with
  | way h => simp only [fileMembers, h]
  | notText hthere h => simp only [fileMembers, hthere, h]
  | number h hyaml =>
      simp only [fileMembers, Files.has_of_read h, h, hyaml]
      rfl
  | tooDeep h hyaml =>
      simp only [fileMembers, Files.has_of_read h, h, hyaml]
      rfl
  | raised h hyaml =>
      simp only [fileMembers, Files.has_of_read h, h, hyaml]
      rfl
  | keyNotText h hkeys => rw [h.fileMembers_eq, members?_of_not_hasTextKeys hkeys]

theorem Refuses.isTold (h : Refuses fs home environment asked yaml problem) :
    problem.isTold = true := by
  cases h <;> rfl

theorem Escapes.not_isTold (h : Escapes fs home asked yaml problem) : problem.isTold = false := by
  cases h <;> rfl

/-- Loading ends in one of three ways. -/
theorem load_cases (fs : Files) (home : Location) (environment : Fields String)
    (asked : Option Location) (yaml : Loader) :
    (∃ entries s, FileGives fs home asked yaml entries ∧ HasTextKeys entries ∧
      LayeredFrom environment entries home s) ∨
    (∃ problem, Refuses fs home environment asked yaml problem) ∨
    ∃ problem, Escapes fs home asked yaml problem := by
  rcases fileGives_or_ends fs home environment asked yaml with ⟨entries, h⟩ | hends
  · by_cases hkeys : HasTextKeys entries
    · by_cases hsome : ∃ s, LayeredFrom environment entries home s
      · obtain ⟨s, hs⟩ := hsome
        exact .inl ⟨entries, s, h, hkeys, hs⟩
      · exact .inr (.inl ⟨_, .invalid h hkeys (not_exists.mp hsome)⟩)
    · exact .inr (.inr ⟨_, .keyNotText h hkeys⟩)
  · exact .inr hends

theorem load_eq_ok_iff {s : Settings} : load fs home environment asked yaml = .ok s ↔
    ∃ entries, FileGives fs home asked yaml entries ∧ HasTextKeys entries ∧
      LayeredFrom environment entries home s := by
  constructor
  · intro hload
    rcases load_cases fs home environment asked yaml with
      ⟨entries, _, h, hkeys, hs⟩ | ⟨_, h⟩ | ⟨_, h⟩
    · rw [h.load_eq_ok hkeys hs] at hload
      cases hload
      exact ⟨entries, h, hkeys, hs⟩
    · rw [h.load_eq] at hload
      cases hload
    · rw [h.load_eq] at hload
      cases hload
  · rintro ⟨entries, h, hkeys, hs⟩
    exact h.load_eq_ok hkeys hs

theorem load_eq_error_iff : load fs home environment asked yaml = .error problem ↔
    Refuses fs home environment asked yaml problem ∨ Escapes fs home asked yaml problem := by
  constructor
  · intro hload
    rcases load_cases fs home environment asked yaml with ⟨_, _, h, hkeys, hs⟩ | ⟨_, h⟩ | ⟨_, h⟩
    · rw [h.load_eq_ok hkeys hs] at hload
      cases hload
    · rw [h.load_eq] at hload
      cases hload
      exact .inl h
    · rw [h.load_eq] at hload
      cases hload
      exact .inr h
  · rintro (h | h)
    · exact h.load_eq
    · exact h.load_eq

/-- A variable wins over the file, unless it is set to the empty text. -/
example :
    let fs : Files :=
      { entries := [(.ofText "c.yaml", ⟨"timeout: 5\ntoken: abc\n", .shared⟩)] }
    let environment : Fields String := [("API_TIMEOUT", "7"), ("API_TOKEN", "")]
    ((load fs (.ofText "/home") environment (some (.ofText "c.yaml"))).map fun s =>
      (s.token, s.timeout)).toOption = some ("abc", Binary64.ofInt 7) := by
  decide +kernel

/-- A key that is no text ends the loading without a word. -/
example :
    let fs : Files := { entries := [(.ofText "c.yaml", ⟨"1: x\n", .shared⟩)] }
    (match load fs (.ofText "/home") [] (some (.ofText "c.yaml")) with
      | .ok _ => none
      | .error problem => some problem) = some .keyNotText := by
  decide +kernel

end CallChain.Settings
