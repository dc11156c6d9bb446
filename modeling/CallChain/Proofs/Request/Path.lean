/-
# The path of a request

The path of a request is the template of its endpoint with all its parameters replaced at
once by their encoded texts, so that no text has a say in where a parameter stands or in
what an address means. A parameter without a text ends the building of the request, and so
does one whose text cannot be written in UTF-8; the first such parameter is the one that
is reported.
-/

import CallChain.Proofs.Request.Filling
import CallChain.Proofs.Text.Percent
import CallChain.Request.Building

namespace CallChain

namespace Builder

variable {b : Builder} {s : Step} {r : Resolver} {scope : Fields Value}

/-! ## The texts of parameters -/

/-- The text of a parameter of the path: that of its value, without blanks at the ends. -/
def pathText (s : Step) (r : Resolver) (scope : Fields Value) (name : String) :
    Except Fault String :=
  (parameterValue s r scope name ((s.inputs.path.get? name).getD (.text ""))).map fun v =>
    Text.trim v.stringify

/-- Whether a text can be put in for a parameter of the path: it has a character, and it
can be written in UTF-8. -/
def CanFill (b : Builder) (text : String) : Prop :=
  text ≠ "" ∧ Text.isEncodable b.isHalf text = true

instance (b : Builder) (text : String) : Decidable (b.CanFill text) :=
  inferInstanceAs (Decidable (_ ∧ _))

/-- The first of some parameters that cannot be filled in, and what is reported for it. -/
inductive Unfilled (b : Builder) (s : Step) (r : Resolver) (scope : Fields Value) :
    List String → Fault → Prop
  /-- Its value cannot be read. -/
  | unresolved {name : String} {names : List String} {fault : Fault}
    (h : pathText s r scope name = .error fault) : Unfilled b s r scope (name :: names) fault
  /-- Its text is empty. -/
  | blank {name : String} {names : List String} (h : pathText s r scope name = .ok "") :
    Unfilled b s r scope (name :: names) (.step (.missingParameter name))
  /-- Its text cannot be encoded. -/
  | unencoded {name text : String} {names : List String}
    (h : pathText s r scope name = .ok text)
    (hhalf : Text.isEncodable b.isHalf text = false) :
    Unfilled b s r scope (name :: names) .notEncoded
  /-- It is one after a parameter that can be. -/
  | later {name text : String} {names : List String} {fault : Fault}
    (h : pathText s r scope name = .ok text) (hfill : b.CanFill text)
    (hrest : Unfilled b s r scope names fault) : Unfilled b s r scope (name :: names) fault

/-- Whether every one of some parameters has a text that can be put in. -/
def HaveTexts (b : Builder) (s : Step) (r : Resolver) (scope : Fields Value)
    (names : List String) : Prop :=
  ∀ name ∈ names, ∃ text, pathText s r scope name = .ok text ∧ b.CanFill text

theorem HaveTexts.tail {name : String} {names : List String}
    (h : b.HaveTexts s r scope (name :: names)) : b.HaveTexts s r scope names :=
  fun other hother => h other (List.mem_cons_of_mem name hother)

theorem CanFill.haveTexts_cons {name text : String} {names : List String} (hfill : b.CanFill text)
    (hread : pathText s r scope name = .ok text) (h : b.HaveTexts s r scope names) :
    b.HaveTexts s r scope (name :: names) := by
  intro other hother
  rcases List.mem_cons.mp hother with rfl | hother
  · exact ⟨text, hread, hfill⟩
  · exact h other hother

/-- What cannot be filled in behind a parameter that can be is one of the others. -/
theorem CanFill.unfilled_tail {name text : String} {names : List String} {fault : Fault}
    (hfill : b.CanFill text) (hread : pathText s r scope name = .ok text)
    (h : b.Unfilled s r scope (name :: names) fault) : b.Unfilled s r scope names fault := by
  cases h with
  | unresolved h => rw [hread] at h; cases h
  | blank h => rw [hread] at h; cases h; exact absurd rfl hfill.1
  | unencoded h hhalf =>
      rw [hread] at h
      cases h
      exact absurd (hhalf.symm.trans hfill.2) Bool.false_ne_true
  | later _ _ hrest => exact hrest

theorem exists_unfilled_of_not_canFill {name text : String} {names : List String}
    (hread : pathText s r scope name = .ok text) (h : ¬ b.CanFill text) :
    ∃ fault, b.Unfilled s r scope (name :: names) fault := by
  by_cases hne : text = ""
  · subst hne
    exact ⟨_, .blank hread⟩
  · have hhalf : Text.isEncodable b.isHalf text = false :=
      Bool.eq_false_iff.mpr fun hencodable => h ⟨hne, hencodable⟩
    exact ⟨_, .unencoded hread hhalf⟩

/-- Some parameter cannot be filled in, or all have a text that can be put in. -/
theorem exists_unfilled_iff {names : List String} :
    (∃ fault, b.Unfilled s r scope names fault) ↔ ¬ b.HaveTexts s r scope names := by
  induction names with
  | nil =>
      refine iff_of_false ?_ fun h => h nofun
      rintro ⟨fault, h⟩
      cases h
  | cons name names ih =>
      cases hread : pathText s r scope name with
      | error fault =>
          refine iff_of_true ⟨fault, .unresolved hread⟩ fun h => ?_
          obtain ⟨text, htext, -⟩ := h name List.mem_cons_self
          rw [hread] at htext
          cases htext
      | ok text =>
          by_cases hfill : b.CanFill text
          · constructor
            · rintro ⟨fault, hfirst⟩ hall
              exact ih.mp ⟨fault, hfill.unfilled_tail hread hfirst⟩ hall.tail
            · intro hnot
              obtain ⟨fault, hfirst⟩ := ih.mpr fun hall => hnot (hfill.haveTexts_cons hread hall)
              exact ⟨fault, .later hread hfill hfirst⟩
          · refine iff_of_true (exists_unfilled_of_not_canFill hread hfill) fun h => ?_
            obtain ⟨other, htext, hother⟩ := h name List.mem_cons_self
            rw [hread] at htext
            cases htext
            exact hfill hother

/-! ## One parameter after another -/

theorem fillPath_cons (name : String) (names : List String) (path : String) :
    b.fillPath s r scope (name :: names) path =
      (pathText s r scope name).bind fun text =>
        if text = "" then .error (.step (.missingParameter name))
        else if Text.isEncodable b.isHalf text = false then .error .notEncoded
        else b.fillPath s r scope names (fillParameter path name text) := by
  rw [fillPath, pathText]
  cases parameterValue s r scope name ((s.inputs.path.get? name).getD (.text "")) with
  | error fault => rfl
  | ok v =>
      simp only [Except.map, Except.bind, bind]
      split
      · rfl
      · cases Text.isEncodable b.isHalf (Text.trim v.stringify) <;> rfl

/-- A text that can be put in is, and the others are filled in after it. -/
theorem CanFill.fillPath_cons {name text : String} (hfill : b.CanFill text)
    (h : pathText s r scope name = .ok text) (names : List String) (path : String) :
    b.fillPath s r scope (name :: names) path =
      b.fillPath s r scope names (fillParameter path name text) := by
  rw [Builder.fillPath_cons, h]
  refine (if_neg hfill.1).trans (if_neg ?_)
  rw [hfill.2]
  exact Bool.false_ne_true.symm

/-- The first parameter that cannot be filled in ends the filling in, however far it has
come. -/
theorem Unfilled.fillPath_eq {names : List String} {fault : Fault}
    (h : b.Unfilled s r scope names fault) (path : String) :
    b.fillPath s r scope names path = .error fault := by
  induction h generalizing path with
  | unresolved h => rw [fillPath_cons, h]; rfl
  | blank h => rw [fillPath_cons, h]; rfl
  | @unencoded name text names h hhalf =>
      have hne : text ≠ "" := by
        rintro rfl
        cases hhalf
      rw [fillPath_cons, h]
      exact (if_neg hne).trans (if_pos hhalf)
  | later h hfill _ ih =>
      rw [hfill.fillPath_cons h]
      exact ih _

/-- The names of parameters with their encoded texts. -/
def encodedTexts (texts : String → String) (names : List String) :
    List (List Char × List Char) :=
  names.map fun name => (name.toList, (Text.percentEncode (texts name)).toList)

theorem fillParameter_eq (path name text : String) :
    fillParameter path name text =
      String.ofList (Endpoint.fill [(name.toList, (Text.percentEncode text).toList)]
        path.toList) := by
  rw [fillParameter, Text.replaceAll_eq]
  rfl

theorem ne_open_of_mem_encodedTexts {texts : String → String} {names : List String} :
    ∀ entry ∈ encodedTexts texts names, ∀ c ∈ entry.2, c ≠ '\x7b' := by
  intro entry hentry
  obtain ⟨name, -, rfl⟩ := List.mem_map.mp hentry
  exact (Text.escaped_percentEncode _).ne_open

section Template

variable {texts : String → String} {template : List Char}
  (htemplate : ∀ name ∈ Endpoint.parametersFrom 0 template, ∀ c ∈ name, c ≠ '\x7b')

include htemplate

/-- Once some parameters have been filled in, the others are filled in as if all were at once. -/
theorem fillPath_eq_ok {done names : List String}
    (hnames : ∀ name ∈ done ++ names, Endpoint.IsName name.toList)
    (htexts : ∀ name ∈ names,
      pathText s r scope name = .ok (texts name) ∧ b.CanFill (texts name)) :
    b.fillPath s r scope names
        (String.ofList (Endpoint.fill (encodedTexts texts done) template)) =
      .ok (String.ofList (Endpoint.fill (encodedTexts texts (done ++ names)) template)) := by
  induction names generalizing done with
  | nil => rw [List.append_nil]; rfl
  | cons name names ih =>
      obtain ⟨htext, hfill⟩ := htexts name List.mem_cons_self
      have hdone : ∀ entry ∈ encodedTexts texts done, Endpoint.IsName entry.1 := by
        intro entry hentry
        obtain ⟨other, hother, rfl⟩ := List.mem_map.mp hentry
        exact hnames other (List.mem_append_left _ hother)
      have hname : Endpoint.IsName name.toList := hnames name (by simp)
      have hnext : Endpoint.fill [(name.toList, (Text.percentEncode (texts name)).toList)]
          (Endpoint.fill (encodedTexts texts done) template) =
            Endpoint.fill (encodedTexts texts (done ++ [name])) template := by
        rw [Endpoint.fill_fill hdone ne_open_of_mem_encodedTexts hname htemplate, encodedTexts,
          encodedTexts, List.map_append]
        rfl
      have hnames' : ∀ other ∈ done ++ [name] ++ names, Endpoint.IsName other.toList := by
        simpa using hnames
      have hothers := ih hnames' fun other hother => htexts other (List.mem_cons_of_mem name hother)
      rw [List.append_assoc, List.singleton_append] at hothers
      rw [hfill.fillPath_cons htext, ← hothers, fillParameter_eq, String.toList_ofList, hnext]

end Template

/-! ## The path as a whole -/

/-- The path of a request with the texts of its parameters put in. -/
def filledPath (s : Step) (texts : String → String) : String :=
  String.ofList (Endpoint.fill (encodedTexts texts s.endpoint.parameterNames)
    s.endpoint.path.toList)

theorem fillPath_eq_filledPath {texts : String → String}
    (hnames : ∀ name ∈ s.endpoint.parameterNames, '\x7b' ∉ name.toList)
    (htexts : ∀ name ∈ s.endpoint.parameterNames,
      pathText s r scope name = .ok (texts name) ∧ b.CanFill (texts name)) :
    b.fillPath s r scope s.endpoint.parameterNames s.endpoint.path = .ok (filledPath s texts) := by
  have hmem : ∀ name ∈ Endpoint.parametersFrom 0 s.endpoint.path.toList,
      String.ofList name ∈ s.endpoint.parameterNames := fun name hname =>
    List.mem_map.mpr ⟨name, hname, rfl⟩
  have htemplate : ∀ name ∈ Endpoint.parametersFrom 0 s.endpoint.path.toList,
      ∀ c ∈ name, c ≠ '\x7b' := by
    rintro name hname c hc rfl
    exact hnames _ (hmem name hname) (by rwa [String.toList_ofList])
  have hall : ∀ name ∈ [] ++ s.endpoint.parameterNames, Endpoint.IsName name.toList := by
    intro name hname
    obtain ⟨chars, hchars, rfl⟩ := List.mem_map.mp hname
    rw [String.toList_ofList]
    exact Endpoint.isName_of_mem_parametersFrom _ chars hchars
  have hfilled := fillPath_eq_ok htemplate hall htexts
  have hstart : encodedTexts texts [] = [] := rfl
  rwa [hstart, Endpoint.fill_nil_images, String.ofList_toList] at hfilled

/-- What a request is made of after its path. -/
theorem build_eq (b : Builder) (s : Step) (r : Resolver) (scope : Fields Value) :
    b.build s r scope =
      (b.fillPath s r scope s.endpoint.parameterNames s.endpoint.path).bind fun path =>
        (b.query s r scope).bind fun query => (body s r scope).map fun body =>
          { method := s.endpoint.method.name
            url := Text.dropTrailing '/' b.baseUrl ++ path
            query
            body } := rfl

theorem exists_fillPath_iff (hnames : ∀ name ∈ s.endpoint.parameterNames, '\x7b' ∉ name.toList) :
    (∃ path, b.fillPath s r scope s.endpoint.parameterNames s.endpoint.path = .ok path) ↔
      b.HaveTexts s r scope s.endpoint.parameterNames := by
  constructor
  · rintro ⟨path, hpath⟩
    by_contra hnot
    obtain ⟨fault, hfirst⟩ := exists_unfilled_iff.mpr hnot
    rw [hfirst.fillPath_eq] at hpath
    cases hpath
  · intro hall
    choose! texts htexts using hall
    exact ⟨_, fillPath_eq_filledPath hnames htexts⟩

/-- A request is built past its path when every parameter of the path has a text, and all of
them can be written in UTF-8. Its address is then that of the service with the template, all
parameters replaced at once by their encoded texts; an encoded text consists of unreserved
characters and escapes and is read as the text. Otherwise the first parameter that cannot be
filled in is reported: one without a text by its name. -/
theorem build_fillsPath (hnames : ∀ name ∈ s.endpoint.parameterNames, '\x7b' ∉ name.toList) :
    ((∃ path, b.fillPath s r scope s.endpoint.parameterNames s.endpoint.path = .ok path) ↔
      b.HaveTexts s r scope s.endpoint.parameterNames) ∧
    (∀ texts : String → String,
      (∀ name ∈ s.endpoint.parameterNames,
        pathText s r scope name = .ok (texts name) ∧ b.CanFill (texts name)) →
      b.build s r scope =
        (b.query s r scope).bind fun query => (body s r scope).map fun body =>
          { method := s.endpoint.method.name
            url := Text.dropTrailing '/' b.baseUrl ++ filledPath s texts
            query
            body }) ∧
    ((∃ fault, b.Unfilled s r scope s.endpoint.parameterNames fault) ↔
      ¬ b.HaveTexts s r scope s.endpoint.parameterNames) ∧
    (∀ fault, b.Unfilled s r scope s.endpoint.parameterNames fault →
      b.build s r scope = .error fault) ∧
    ∀ text, Text.Escaped (Text.percentEncode text).toList ∧
      Text.percentDecode? (Text.percentEncode text) = some text := by
  refine ⟨exists_fillPath_iff hnames, fun texts htexts => ?_, exists_unfilled_iff,
    fun fault hfirst => ?_, fun text => ⟨?_, ?_⟩⟩
  · rw [build_eq, fillPath_eq_filledPath hnames htexts]
    rfl
  · rw [build_eq, hfirst.fillPath_eq]
    rfl
  · exact Text.escaped_percentEncode text
  · exact Text.percentDecode?_percentEncode text

/-- A step whose path has an empty name, a name twice and a name with which another one starts. -/
def nestedNames : Step where
  id := "s1"
  endpoint := { method := .get, path := "/a/\x7bx\x7d/\x7bxy\x7d\x7bx\x7d/\x7b\x7d" }
  inputs := { path := [("x", .text " \x7bxy\x7d/?#"), ("xy", .text "é")] }

/-- The text of one parameter is the other one between braces, and is not replaced. -/
theorem build_fillsPath_nestedNames :
    let b : Builder := { baseUrl := "h//" }
    let texts := fun name : String => if name = "x" then "\x7bxy\x7d/?#" else "é"
    (∀ name ∈ nestedNames.endpoint.parameterNames, '\x7b' ∉ name.toList) ∧
    (∀ name ∈ nestedNames.endpoint.parameterNames,
      pathText nestedNames ⟨[], []⟩ [] name = .ok (texts name) ∧ b.CanFill (texts name)) ∧
    filledPath nestedNames texts =
      "/a/%7Bxy%7D%2F%3F%23/%C3%A9%7Bxy%7D%2F%3F%23/\x7b\x7d" ∧
    b.build nestedNames ⟨[], []⟩ [] = .ok
      { method := "GET"
        url := "h" ++ filledPath nestedNames texts
        query := [("limit", "10"), ("opt_pretty", "true")]
        body := none } := by
  intro b texts
  have hnames : ∀ name ∈ nestedNames.endpoint.parameterNames, '\x7b' ∉ name.toList := by
    decide +kernel
  have htexts : ∀ name ∈ nestedNames.endpoint.parameterNames,
      pathText nestedNames ⟨[], []⟩ [] name = .ok (texts name) ∧ b.CanFill (texts name) := by
    decide +kernel
  refine ⟨hnames, htexts, by decide +kernel, ?_⟩
  rw [(build_fillsPath hnames).2.1 texts htexts]
  decide +kernel

/-- A step with half a pair for its path, as a reply may bring it. -/
example :
    (Builder.build { baseUrl := "h" }
      { id := "s1"
        endpoint := { method := .get, path := "/a/\x7bx\x7d" }
        mappings := [("x", "u.gid")] }
      ⟨[("u", .object [("gid", .text (String.singleton (Text.ofHalf 0xd800)))])], []⟩ []) =
      .error .notEncoded := by
  decide +kernel

end Builder

end CallChain
