/-
# The query of a request

Each parameter of the query has one effective value: that of its binding if it has one, else
what was entered, with placeholders filled in. It is sent unless it is null, a flag that is
not set or the empty text. A page size and the wish for a readable reply are added; they do
not change what is sent for the other parameters. What was entered for a bound parameter
is not read at all.
-/

import CallChain.Proofs.Json.Names
import CallChain.Request.Building
import Mathlib.Tactic.SplitIfs

namespace CallChain

/-! ## Fields by name -/

namespace Fields

variable {α : Type}

theorem get?_append (fields others : Fields α) (name : String) :
    get? (fields ++ others) name = (get? fields name).or (get? others name) := by
  induction fields with
  | nil => rfl
  | cons field fields ih =>
      obtain ⟨key, value⟩ := field
      rw [List.cons_append, get?, get?]
      split_ifs
      · rfl
      · exact ih

/-- Of names that have each their value, a name has its own. -/
theorem get?_map_names (value : String → α) (names : List String) (name : String) :
    get? (names.map fun other => (other, value other)) name =
      if name ∈ names then some (value name) else none := by
  induction names with
  | nil => rfl
  | cons other names ih =>
      rw [List.map_cons, get?, ih]
      by_cases hname : other = name
      · subst hname
        simp
      · simp [hname, Ne.symm hname]

theorem filter_set {keep : String × α → Bool} {name : String}
    (hdrop : ∀ value, keep (name, value) = false) (fields : Fields α) (value : α) :
    (set fields name value).filter keep = fields.filter keep := by
  induction fields with
  | nil => simp [set, hdrop]
  | cons field fields ih =>
      obtain ⟨key, old⟩ := field
      rw [set]
      split_ifs with hkey
      · subst hkey
        simp [hdrop]
      · rw [List.filter_cons, List.filter_cons, ih]

theorem has_congr {β : Type} {fields : Fields α} {others : Fields β}
    (h : fields.keys = others.keys) (name : String) : fields.has name = others.has name := by
  have hnone : fields.get? name = none ↔ others.get? name = none := by
    rw [get?_eq_none_iff, get?_eq_none_iff, h]
  rw [has, has, Bool.eq_iff_iff, Option.isSome_iff_ne_none, Option.isSome_iff_ne_none, ne_eq, ne_eq,
    hnone]

end Fields

namespace Builder

variable {b : Builder} {x : Step} {r : Resolver} {scope : Fields Value}

/-! ## The effective value of a parameter -/

/-- The value that counts for a parameter of the query. -/
inductive Effective (x : Step) (r : Resolver) (scope : Fields Value) (name : String) :
    Value → Prop
  /-- That of the expression to which it is bound. -/
  | bound {expression : String} {v : Value} (h : x.mappings.get? name = some expression)
    (hne : expression ≠ "") (hv : r.resolve scope expression = .ok v) :
    Effective x r scope name v
  /-- A flag that was entered. -/
  | flag {set : Bool} (hfree : isBound x name = false)
    (h : x.inputs.query.get? name = some (.bool set)) : Effective x r scope name (.bool set)
  /-- A text that was entered, with its placeholders filled in. -/
  | filled {s : String} {v : Value} (hfree : isBound x name = false)
    (h : x.inputs.query.get? name = some (.text s)) (hhole : Template.hasHole s = true)
    (hv : r.interpolate scope s = .ok v) : Effective x r scope name v
  /-- Anything else that was entered. -/
  | literal {v : Value} (hfree : isBound x name = false)
    (h : x.inputs.query.get? name = some v) (hflag : ∀ set, v ≠ .bool set)
    (hhole : ∀ s, v = .text s → Template.hasHole s = false) : Effective x r scope name v
  /-- The empty text when nothing was entered. -/
  | missing (hfree : isBound x name = false) (h : x.inputs.query.get? name = none) :
    Effective x r scope name (.text "")

theorem parameterValue_of_bound {name expression : String}
    (h : x.mappings.get? name = some expression) (hne : expression ≠ "") (entered : Value) :
    parameterValue x r scope name entered = r.resolve scope expression := by
  unfold parameterValue
  rw [h, Option.filter_some, if_pos (by simpa using hne)]

theorem parameterValue_of_free {name : String} (h : isBound x name = false) (entered : Value) :
    parameterValue x r scope name entered =
      match entered with
      | .text s => if Template.hasHole s then r.interpolate scope s else .ok (.text s)
      | other => .ok other := by
  rw [isBound, Option.isSome_eq_false_iff, Option.isNone_iff_eq_none] at h
  cases entered <;> simp only [parameterValue, h]

theorem exists_of_isBound {name : String} (h : isBound x name = true) :
    ∃ expression, x.mappings.get? name = some expression ∧ expression ≠ "" := by
  obtain ⟨expression, hexpression⟩ := Option.isSome_iff_exists.mp h
  obtain ⟨hget, hne⟩ := Option.filter_eq_some_iff.mp hexpression
  exact ⟨expression, hget, by simpa using hne⟩

/-- The value of a parameter of the query is its effective value. -/
theorem queryValue_eq_ok_iff {name : String} {v : Value} :
    queryValue x r scope name = .ok v ↔ Effective x r scope name v := by
  rw [queryValue]
  constructor
  · intro h
    by_cases hbound : isBound x name = true
    · obtain ⟨expression, hget, hne⟩ := exists_of_isBound hbound
      rw [parameterValue_of_bound hget hne] at h
      exact .bound hget hne h
    · have hfree : isBound x name = false := Bool.not_eq_true _ ▸ hbound
      rw [parameterValue_of_free hfree] at h
      cases hentered : x.inputs.query.get? name with
      | none =>
          rw [hentered] at h
          obtain rfl : Value.text "" = v := Except.ok.inj h
          exact .missing hfree hentered
      | some entered =>
          rw [hentered, Option.getD_some] at h
          cases entered with
          | bool set => exact Except.ok.inj h ▸ .flag hfree hentered
          | text s =>
              by_cases hhole : Template.hasHole s = true
              · exact .filled hfree hentered hhole ((if_pos hhole).symm.trans h)
              · obtain rfl : Value.text s = v := Except.ok.inj ((if_neg hhole).symm.trans h)
                refine .literal hfree hentered (by rintro _ ⟨⟩) ?_
                rintro _ ⟨⟩
                exact Bool.not_eq_true _ ▸ hhole
          | _ =>
              obtain rfl := Except.ok.inj h
              exact .literal hfree hentered (by rintro _ ⟨⟩) (by rintro _ ⟨⟩)
  · intro h
    cases h with
    | bound hget hne hv => rw [parameterValue_of_bound hget hne, hv]
    | flag hfree hget => rw [parameterValue_of_free hfree, hget]; rfl
    | filled hfree hget hhole hv =>
        rw [parameterValue_of_free hfree, hget]
        exact (if_pos hhole).trans hv
    | literal hfree hget hflag hhole =>
        rw [parameterValue_of_free hfree, hget, Option.getD_some]
        split
        · next s => rw [hhole s rfl]; rfl
        · rfl
    | missing hfree hget => rw [parameterValue_of_free hfree, hget]; rfl

/-! ## What is sent -/

/-- Whether a value is sent in the query. -/
def IsSent (v : Value) : Prop := v ≠ .null ∧ v ≠ .bool false ∧ v ≠ .text ""

instance : DecidablePred IsSent := fun v =>
  inferInstanceAs (Decidable (v ≠ .null ∧ v ≠ .bool false ∧ v ≠ .text ""))

theorem queryText?_eq (v : Value) : queryText? v = if IsSent v then some v.stringify else none := by
  cases v with
  | bool set => cases set <;> rfl
  | text s =>
      by_cases hs : s = ""
      · simp [queryText?, IsSent, hs]
      · simp [queryText?, IsSent, hs]
  | null => rfl
  | int n => rfl
  | float n => rfl
  | list items => rfl
  | object fields => rfl

/-- The parameters that names contribute to the query when each has a value. -/
def sentEntries (eff : String → Value) (names : List String) : Fields String :=
  (names.filter fun name => IsSent (eff name)).map fun name => (name, (eff name).stringify)

theorem queryEntries_eq {eff : String → Value} {names : List String}
    (h : ∀ name ∈ names, queryValue x r scope name = .ok (eff name)) :
    queryEntries x r scope names = .ok (sentEntries eff names) := by
  induction names with
  | nil => rfl
  | cons name names ih =>
      have hrest := ih fun other hother => h other (List.mem_cons_of_mem name hother)
      have htext := queryText?_eq (eff name)
      rw [queryEntries, h name List.mem_cons_self, hrest]
      by_cases hsent : IsSent (eff name)
      · rw [if_pos hsent] at htext
        simp [htext, hsent, sentEntries, bind, Except.bind, pure, Except.pure]
      · rw [if_neg hsent] at htext
        simp [htext, hsent, sentEntries, bind, Except.bind, pure, Except.pure]

theorem exists_queryValue {names : List String} {entries : Fields String}
    (h : queryEntries x r scope names = .ok entries) :
    ∀ name ∈ names, ∃ v, queryValue x r scope name = .ok v := by
  induction names generalizing entries with
  | nil => exact nofun
  | cons name names ih =>
      obtain ⟨v, hv, hrest⟩ := exists_ok_of_bind h
      obtain ⟨others, hothers, -⟩ := exists_ok_of_bind hrest
      intro other hother
      rcases List.mem_cons.mp hother with rfl | hother
      · exact ⟨v, hv⟩
      · exact ih hothers other hother

/-- What `keep` keeps of the parameters that names contribute comes from the names it keeps. -/
theorem filter_sentEntries (keep : String → Bool) (eff : String → Value) (names : List String) :
    (sentEntries eff names).filter (fun entry => keep entry.1) =
      ((names.filter keep).filter fun name => IsSent (eff name)).map fun name =>
        (name, (eff name).stringify) := by
  rw [sentEntries, List.filter_map, List.filter_filter, List.filter_filter]
  apply congrArg (List.map _)
  apply List.filter_congr
  intro name _
  exact Bool.and_comm _ _

/-- Whether a name is neither that of the page size nor that of readable replies. -/
def isOwn (name : String) : Bool := name != limitName && name != prettyName

/-- The query consists of the parameters that are sent, the page size if it is not among
them, and the wish for a readable reply. -/
theorem query_eq_ok {q : Fields String} (h : b.query x r scope = .ok q) :
    ∃ eff : String → Value,
      (∀ name ∈ queryNames x, queryValue x r scope name = .ok (eff name)) ∧
      q = (if (sentEntries eff (queryNames x)).has limitName then sentEntries eff (queryNames x)
        else sentEntries eff (queryNames x) ++
          [(limitName, Text.intText b.defaultLimit)]).set prettyName "true" := by
  obtain ⟨entries, hentries, hq⟩ := exists_ok_of_bind h
  have hvalues := exists_queryValue hentries
  choose! eff heff using hvalues
  refine ⟨eff, heff, ?_⟩
  rw [queryEntries_eq heff] at hentries
  cases hentries
  exact (Except.ok.inj hq).symm

theorem get?_sentEntries (eff : String → Value) (names : List String) (name : String) :
    (sentEntries eff names).get? name =
      if name ∈ names ∧ IsSent (eff name) then some (eff name).stringify else none := by
  rw [sentEntries, Fields.get?_map_names]
  simp only [List.mem_filter, decide_eq_true_eq]

/-! ## What is entered for bound parameters -/

/-- Whether other inputs differ from those of a step only in what is entered for bound
parameters. -/
structure SameUnbound (x : Step) (inputs : Inputs) : Prop where
  /-- The query has the same names. -/
  keys : inputs.query.keys = x.inputs.query.keys
  /-- The same is entered for the others in the query. -/
  query : ∀ name, isBound x name = false → inputs.query.get? name = x.inputs.query.get? name
  /-- The same is entered for the others in the path. -/
  path : ∀ name, isBound x name = false → inputs.path.get? name = x.inputs.path.get? name
  /-- The body is the same. -/
  body : inputs.body = x.inputs.body

section SameUnbound

variable {inputs : Inputs}

/-- What is entered for a parameter counts only if the parameter is not bound. -/
theorem parameterValue_sameUnbound {name : String} {entered entered' : Value}
    (h : isBound x name = false → entered' = entered) :
    parameterValue { x with inputs } r scope name entered' =
      parameterValue x r scope name entered := by
  have hstep : parameterValue { x with inputs } r scope name entered' =
      parameterValue x r scope name entered' := rfl
  rw [hstep]
  by_cases hbound : isBound x name = true
  · obtain ⟨expression, hget, hne⟩ := exists_of_isBound hbound
    rw [parameterValue_of_bound hget hne, parameterValue_of_bound hget hne]
  · rw [h (Bool.not_eq_true _ ▸ hbound)]

variable (h : SameUnbound x inputs)

include h

theorem SameUnbound.fillPath_eq (names : List String) (path : String) :
    b.fillPath { x with inputs } r scope names path = b.fillPath x r scope names path := by
  induction names generalizing path with
  | nil => rfl
  | cons name names ih =>
      have hvalue : parameterValue { x with inputs } r scope name
          ((inputs.path.get? name).getD (.text "")) =
            parameterValue x r scope name ((x.inputs.path.get? name).getD (.text "")) :=
        parameterValue_sameUnbound fun hfree => by rw [h.path name hfree]
      rw [fillPath, fillPath, hvalue]
      simp only [ih]

theorem SameUnbound.queryEntries_eq (names : List String) :
    queryEntries { x with inputs } r scope names = queryEntries x r scope names := by
  induction names with
  | nil => rfl
  | cons name names ih =>
      have hvalue : queryValue { x with inputs } r scope name = queryValue x r scope name :=
        parameterValue_sameUnbound fun hfree => by rw [h.query name hfree]
      rw [queryEntries, queryEntries, hvalue, ih]

theorem SameUnbound.queryNames_eq : queryNames { x with inputs } = queryNames x := by
  rw [queryNames, queryNames, h.keys]
  simp only [Fields.has_congr h.keys]

/-- What is entered for bound parameters makes no difference to a request. -/
theorem SameUnbound.build_eq : b.build { x with inputs } r scope = b.build x r scope := by
  have hbody : Builder.body { x with inputs } r scope = Builder.body x r scope := by
    rw [Builder.body, Builder.body, h.body]
  have hquery : b.query { x with inputs } r scope = b.query x r scope := by
    rw [Builder.query, Builder.query, h.queryNames_eq, h.queryEntries_eq]
  rw [build, build, hbody, hquery, h.fillPath_eq]

end SameUnbound

/-! ## The query as a whole -/

/-- Of a request that is built, the query has the parameters whose effective values are sent, in
the order of their names and with the texts of these values. The page size is its effective
value, or the default when that is not sent; readable replies are always wished for. What is
entered for bound parameters changes nothing. -/
theorem query_of_build {request : Request} (h : b.build x r scope = .ok request) :
    ∃ eff : String → Value,
      (∀ name ∈ queryNames x, ∀ v, Effective x r scope name v ↔ v = eff name) ∧
      request.query.filter (fun entry => isOwn entry.1) =
        (((queryNames x).filter isOwn).filter fun name => IsSent (eff name)).map
          (fun name => (name, (eff name).stringify)) ∧
      request.query.get? limitName =
        some (if limitName ∈ queryNames x ∧ IsSent (eff limitName) then
          (eff limitName).stringify else Text.intText b.defaultLimit) ∧
      request.query.get? prettyName = some "true" ∧
      ∀ inputs, SameUnbound x inputs → b.build { x with inputs } r scope = .ok request := by
  obtain ⟨path, -, hrest⟩ := exists_ok_of_bind h
  obtain ⟨q, hq, hrest⟩ := exists_ok_of_bind hrest
  obtain ⟨body, -, hrequest⟩ := exists_ok_of_bind hrest
  obtain ⟨eff, heff, rfl⟩ := query_eq_ok hq
  obtain rfl := Except.ok.inj hrequest
  have hget := get?_sentEntries eff (queryNames x) limitName
  refine ⟨eff, fun name hname v => ?_, ?_, ?_, Fields.get?_set_self _ _ _,
    fun inputs hsame => by rw [hsame.build_eq, h]⟩
  · rw [← queryValue_eq_ok_iff, heff name hname, Except.ok.injEq, eq_comm]
  · dsimp only
    rw [Fields.filter_set (fun _ => rfl), ← filter_sentEntries]
    split_ifs
    · rfl
    · rw [List.filter_append]
      exact List.append_nil _
  · dsimp only
    rw [Fields.get?_set_of_ne _ _ (by decide)]
    by_cases hsent : limitName ∈ queryNames x ∧ IsSent (eff limitName)
    · rw [if_pos hsent] at hget ⊢
      rw [if_pos (by rw [Fields.has, hget]; rfl), hget]
    · rw [if_neg hsent] at hget ⊢
      rw [if_neg (by rw [Fields.has, hget]; exact Bool.false_ne_true), Fields.get?_append, hget]
      rfl

/-- A step with a flag, placeholders that have an empty list and no value, a bound page size
and a bound parameter that was not entered. -/
def listing : Step where
  id := "s1"
  endpoint := { method := .get, path := "/tasks/\x7bgid\x7d" }
  inputs :=
    { path := [("gid", .text "1")]
      query := [("archived", .bool true), ("deep", .bool false),
        ("ids", .text "\x7b\x7bs0.none\x7d\x7d"), ("q", .text "\x7b\x7bs0.missing\x7d\x7d"),
        ("limit", .text "5"), ("gid", .text "\x7b\x7bs0.n\x7d\x7d!")] }
  mappings := [("limit", "s0.n"), ("user", "s0.p"), ("gid", "")]

/-- The results that its expressions refer to. -/
def listed : Resolver where
  results := [("s0", .object [("n", .int 0), ("p", .text "a b"), ("none", .list [])])]
  stepIds := ["s0"]

/-- What was entered for the page size does not matter, since the page size is bound. -/
theorem query_of_build_listing :
    let request : Request :=
      { method := "GET", url := "/tasks/1"
        query := [("archived", "true"), ("ids", "[]"), ("limit", "0"), ("gid", "0!"),
          ("user", "a b"), ("opt_pretty", "true")]
        body := none }
    let inputs : Inputs := { listing.inputs with
      query := listing.inputs.query.set "limit" (.bool false) }
    Builder.build { baseUrl := "" } listing listed [] = .ok request ∧
    (∃ eff : String → Value,
      (∀ name ∈ queryNames listing, ∀ v, Effective listing listed [] name v ↔ v = eff name) ∧
      request.query.filter (fun entry => isOwn entry.1) =
        (((queryNames listing).filter isOwn).filter fun name => IsSent (eff name)).map
          (fun name => (name, (eff name).stringify))) ∧
    Builder.build { baseUrl := "" } { listing with inputs } listed [] = .ok request := by
  intro request inputs
  have hbuild : Builder.build { baseUrl := "" } listing listed [] = .ok request := by decide +kernel
  obtain ⟨eff, heff, hown, -, -, hsame⟩ := query_of_build hbuild
  refine ⟨hbuild, ⟨eff, heff, hown⟩, hsame inputs ⟨by decide, fun name hfree => ?_,
    fun _ _ => rfl, rfl⟩⟩
  refine Fields.get?_set_of_ne _ _ ?_
  rintro rfl
  exact absurd hfree (by decide)

end Builder

end CallChain
