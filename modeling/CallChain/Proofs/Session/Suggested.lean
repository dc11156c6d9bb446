/-
# What suggestions resolve to

A suggestion is found by looking into the body that a step has received. What its expression
resolves to is found in another way: in the results of the session, along a path that is
read from a text. In every session that completed operations reach, the two agree, for every
shape of body. They still do when the suggestion is written with the place of its step, as
it is in a document.
-/

import CallChain.Proofs.Reference.Routed
import CallChain.Proofs.Session.Reached
import CallChain.Report.Record

namespace CallChain

/-! ## Where suggestions come from -/

namespace Suggestion

variable {steps : List Step} {before : Int} {place : Nat} {x : Step} {g : Suggestion}

theorem mem_before_iff : g ∈ Suggestion.before steps before ↔
    ∃ place x, (stepsBefore steps before)[place]? = some x ∧ g ∈ ofStep place x := by
  simp only [Suggestion.before, List.mem_flatMap, List.mem_zipIdx_iff_getElem?, Prod.exists]
  exact exists_comm

theorem getElem?_of_stepsBefore (h : (stepsBefore steps before)[place]? = some x) :
    steps[place]? = some x := by
  obtain ⟨n, hn⟩ : ∃ n, stepsBefore steps before = steps.take n := by
    rw [stepsBefore]
    split
    · exact ⟨_, rfl⟩
    · exact ⟨_, rfl⟩
  rw [hn, List.getElem?_take] at h
  split at h
  · exact h
  · cases h

/-- The route of a suggestion: into the data of a body or its first item, and there to a
field. -/
def route (listed : Bool) (name : String) : Route :=
  if listed then [.key "data", .index 0, .key name] else [.key "data", .key name]

theorem clear_route {name : String} (hname : name ∈ fieldNames) (listed : Bool) :
    (route listed name).Clear := by
  have hdata : (Selector.key "data").Plain := Selector.plain_key (by decide) (by decide)
  have hfield : Route.Writable [.key name] := by
    rcases List.mem_pair.mp hname with rfl | rfl
    · exact Route.writable_key (Selector.plain_key (by decide) (by decide)) (by decide)
    · exact Route.writable_key (Selector.plain_key (by decide) (by decide)) (by decide)
  have hunbraced : ∀ name ∈ fieldNames, ∀ listed,
      (route listed name).text.all Template.isInner = true := by decide
  refine ⟨?_, ?_, List.all_eq_true.mp (hunbraced name hname listed)⟩
  · cases listed with
    | false => exact hfield.cons (by simp) hdata
    | true => exact (hfield.cons (by simp) (s := .index 0) trivial).cons (by simp) hdata
  · intro n hn
    obtain rfl : n = 0 := by
      cases listed with
      | false => simp [route] at hn
      | true => simpa [route] using hn
    exact Nat.pow_pos (by decide)

/-- A suggestion is what a route leads to in the body of a step. -/
theorem exists_route (h : g ∈ ofStep place x) :
    ∃ v, x.payload? = some v ∧ ∃ route : Route, route.Clear ∧
      g.path = x.id ++ String.ofList route.text ∧ g.example? = (v.at? route).getD .null := by
  unfold ofStep at h
  dsimp only at h
  split at h
  · next items hitems =>
    obtain ⟨v, hv, hdata⟩ := Option.bind_eq_some_iff.mp hitems
    obtain ⟨name, hname, rfl⟩ := List.mem_map.mp h
    refine ⟨v, hv, route true name, clear_route hname true, ?_, ?_⟩
    · have hdigits : Nat.toDigits 10 0 = ['0'] := rfl
      rw [← String.toList_inj]
      simp [route, Route.text, Selector.text, hdigits]
    · have hselect : v.select? (.key "data") = some (.list items) := hdata
      simp only [route, if_true, Value.at?_cons, Value.at?_nil, hselect, Option.bind_some,
        Option.bind_fun_some, List.head?_eq_getElem?]
      rfl
  · next fields hfields =>
    obtain ⟨v, hv, hdata⟩ := Option.bind_eq_some_iff.mp hfields
    obtain ⟨name, hname, rfl⟩ := List.mem_map.mp h
    refine ⟨v, hv, route false name, clear_route hname false, ?_, ?_⟩
    · rw [← String.toList_inj]
      simp [route, Route.text, Selector.text]
    · have hselect : v.select? (.key "data") = some (.object fields) := hdata
      simp only [route, Bool.false_eq_true, if_false, Value.at?_cons, Value.at?_nil, hselect,
        Option.bind_some, Option.bind_fun_some]
      rfl
  · cases h

end Suggestion

/-! ## Suggestions of the sessions that are reached -/

section Reached

variable {σ : Type} {env : Environment σ} {w : World σ}

theorem World.Sound.resolver (h : w.Sound env)
    (hgenerated : ∀ n, Reference.IsGenerated (env.stepId n)) : w.session.resolver.Sound where
  nodup := h.consistent.ids_nodup
  generated := by
    intro id hid
    obtain ⟨n, -, rfl⟩ := h.given id hid
    exact hgenerated n
  owned := h.consistent.owned.resolver

/-- In every session that completed operations reach, a suggestion resolves to its example, as
an expression and as a placeholder. Written for any later step, it names its own step by its
place and still resolves to the example. (A place has to be read back for this, which one
behind `10 ^ digitLimit` steps could not be.) -/
theorem World.Reached.suggestions_resolve (hids : Function.Injective env.stepId)
    (hgenerated : ∀ n, Reference.IsGenerated (env.stepId n)) (hclient : env.client.OnlyReplies)
    (h : World.Reached env w) (before : Int) {g : Suggestion}
    (hg : g ∈ Suggestion.before w.session.steps before) :
    w.session.resolver.ReadsAs g.path g.example? ∧
    ∃ place x, (Suggestion.stepsBefore w.session.steps before)[place]? = some x ∧
      g ∈ Suggestion.ofStep place x ∧
      ∀ later : Int, place < later →
        let f := Renaming.toPlace w.session.stepIds later
        let stable := Renaming.expression f g.path
        (Expression.split stable).reference = Reference.ofPlace place ∧
        Renaming.text f ("\x7b\x7b" ++ g.path ++ "\x7d\x7d") =
          "\x7b\x7b" ++ stable ++ "\x7d\x7d" ∧
        (place < 10 ^ digitLimit → w.session.resolver.ReadsAs stable g.example?) := by
  have hconsistent := (h.sound hids hclient).consistent
  have hsound := (h.sound hids hclient).resolver hgenerated
  obtain ⟨place, x, hbefore, hfrom⟩ := Suggestion.mem_before_iff.mp hg
  obtain ⟨v, hv, route, hclear, hpath, hexample⟩ := Suggestion.exists_route hfrom
  have hplace := Suggestion.getElem?_of_stepsBefore hbefore
  have hid : w.session.resolver.stepIds[place]? = some x.id := by
    rw [Session.resolver, Session.stepIds, Step.ids, List.getElem?_map, hplace]
    rfl
  have hresult : w.session.resolver.results.get? x.id = some v :=
    (hconsistent.stored x (List.mem_of_getElem? hplace)).trans hv
  have hword := (hsound.generated x.id (List.mem_of_getElem? hid)).isWord
  rw [hpath, hexample]
  refine ⟨Resolver.readsAs_route (Resolver.lookup_of_result hresult) hword hclear, place, x,
    hbefore, hfrom, fun later hlater => ?_⟩
  obtain ⟨hstable, htext⟩ := hsound.toPlace_route hid hclear.unbraced hlater
  intro f stable
  have hwritten : stable = Reference.ofPlace place ++ String.ofList route.text := hstable
  rw [hwritten]
  refine ⟨?_, htext, fun hshort => ?_⟩
  · rw [Expression.split_route (Reference.isWord_ofPlace place) hclear.toWritable]
  · have hlookup := Resolver.lookup_ofPlace (hsound.leavesPlace place) hid hresult hshort
    exact Resolver.readsAs_route hlookup (Reference.isWord_ofPlace place) hclear

/-- An environment in which every call is answered with a list of one user. -/
def Environment.listing : Environment Nat :=
  { Environment.answering with
    client := ⟨fun calls _ => (⟨[], .answered 200
      "\x7b\"data\": [\x7b\"gid\": \"u1\"\x7d]\x7d" none⟩, calls + 1)⟩
    stepId := Reference.countedId }

/-- A session of two steps, of which the first has been run. -/
def World.listed : World Nat :=
  let add (path : String) : Run Nat Answer :=
    Run.performOperation Environment.listing (.add
      (.object [("method", .text "GET"), ("path", .text path)]) none (.object []) none)
  let two := (add "/tags").after ((add "/users").after
    { session := { baseUrl := defaultBaseUrl }, peer := 0 })
  (Run.performOperation Environment.listing (.runStep (.place 0))).after two

theorem World.state_listed :
    (Suggestion.before World.listed.session.steps (-1)).map (fun g => (g.path, g.example?)) =
      [("seq_0_000000000.data[0].gid", .text "u1"), ("seq_0_000000000.data[0].name", .null)] ∧
    (Suggestion.stepsBefore World.listed.session.steps (-1)).length = 1 ∧
    Renaming.expression (Renaming.toPlace World.listed.session.stepIds 1)
      "seq_0_000000000.data[0].gid" = "step0.data[0].gid" := by
  decide +kernel

/-- Before the last step, two fields of the first user are suggested, and one has a value. -/
theorem World.Reached.suggestions_resolve_listed :
    Function.Injective Environment.listing.stepId ∧
    (∀ n, Reference.IsGenerated (Environment.listing.stepId n)) ∧
    Environment.listing.client.OnlyReplies ∧ World.Reached Environment.listing World.listed ∧
    (Suggestion.before World.listed.session.steps (-1)).map (fun g => (g.path, g.example?)) =
      [("seq_0_000000000.data[0].gid", .text "u1"), ("seq_0_000000000.data[0].name", .null)] ∧
    World.listed.session.resolver.ReadsAs "seq_0_000000000.data[0].gid" (.text "u1") ∧
    World.listed.session.resolver.ReadsAs "step0.data[0].gid" (.text "u1") := by
  have hids : Function.Injective Environment.listing.stepId :=
    fun _ _ h => Reference.countedId_injective h
  have hgenerated : ∀ n, Reference.IsGenerated (Environment.listing.stepId n) :=
    Reference.isGenerated_countedId
  have hclient : Environment.listing.client.OnlyReplies := fun _ _ => rfl
  have hreached : World.Reached Environment.listing World.listed := by
    unfold World.listed
    exact .perform _ (.perform _ (.perform _ (.start _ _ _ _)))
  obtain ⟨hsuggested, hlength, hstable⟩ := World.state_listed
  obtain ⟨g, hg, hfirst⟩ : ∃ g ∈ Suggestion.before World.listed.session.steps (-1),
      (g.path, g.example?) = ("seq_0_000000000.data[0].gid", Value.text "u1") := by
    apply List.mem_map.mp
    rw [hsuggested]
    exact List.mem_cons_self
  obtain ⟨hpath, hexample⟩ := Prod.mk.inj hfirst
  obtain ⟨hreads, place, x, hplace, -, hlater⟩ :=
    World.Reached.suggestions_resolve hids hgenerated hclient hreached (-1) hg
  obtain ⟨hlt, -⟩ := List.getElem?_eq_some_iff.mp hplace
  obtain rfl : place = 0 := by omega
  have hreads' := (hlater 1 (by decide)).2.2 (Nat.pow_pos (by decide))
  rw [hpath, hexample] at hreads hreads'
  rw [hstable] at hreads'
  exact ⟨hids, hgenerated, hclient, hreached, hsuggested, hreads, hreads'⟩

end Reached

end CallChain
