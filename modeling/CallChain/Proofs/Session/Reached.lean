/-
# What every session reaches

`World.Reached` are the worlds that a caller can lead an empty session to, one completed
operation after another; an operation that ends in a fault counts with what it has
changed until then. Their sessions are consistent: the invariant is that they are, and
that their steps have ids that have been given out, so that the next id is new.

The run of one step is described exactly by `ensures_runStep`: it leaves the world as it
was, or forgets the step's last run, or forgets it and stores another.
-/

import CallChain.Proofs.Session.Consistency
import CallChain.Proofs.Session.Edits

namespace CallChain

variable {σ : Type}

/-- The worlds that operations lead an empty session to. -/
inductive World.Reached (env : Environment σ) : World σ → Prop
  /-- An empty session. -/
  | start (baseUrl token : String) (peer : σ) (created : Nat) :
    Reached env { session := { baseUrl, token }, peer, created }
  /-- What an operation leaves, whether it ends with an answer or with a fault. -/
  | perform {w : World σ} (op : Operation) (h : Reached env w) :
    Reached env ((Run.performOperation env op).after w)

/-- The invariant of a session in its world. -/
structure World.Sound (env : Environment σ) (w : World σ) : Prop where
  /-- The session is consistent. -/
  consistent : w.session.Consistent
  /-- The ids of its steps have been given out. -/
  given : ∀ id ∈ w.session.stepIds, ∃ n < w.created, env.stepId n = id

/-! ## Edits of a session -/

namespace Session

variable {s s' : Session}

/-- Whether an edit keeps a session consistent and brings no id in. -/
structure Edited (s s' : Session) : Prop where
  /-- The session stays consistent. -/
  consistent : s.Consistent → s'.Consistent
  /-- Its steps are steps of the session before. -/
  ids_subset : s'.stepIds ⊆ s.stepIds

theorem Edit.edited {withdraws : Bool} (h : s.Edit withdraws s') : Edited s s' := by
  cases h with
  | removed id => exact ⟨fun hs => hs.remove id, (List.filter_sublist.map Step.id).subset⟩
  | cleared => exact ⟨fun _ => consistent_clear s, List.nil_subset _⟩
  | modified id hid hstate hresult =>
      refine ⟨fun hs => hs.modify id hid hstate hresult, ?_⟩
      rw [stepIds_modify s id hid]
      exact List.Subset.refl _
  | transformed t =>
      exact ⟨fun hs => ⟨hs.ids_nodup, hs.owned, hs.stored, hs.notRun_iff⟩, List.Subset.refl _⟩

theorem mem_steps_of_step {id : String} {x : Step} (h : s.step id = .ok x) :
    x ∈ s.steps ∧ x.id = id := by
  unfold step at h
  split at h
  · next found hfound =>
    cases h
    have hid := List.find?_some hfound
    exact ⟨List.mem_of_find?_eq_some hfound, by simpa using hid⟩
  · cases h

end Session

/-! ## The run of a step -/

namespace Run

variable {env : Environment σ}

/-- The run of a step leaves the world as it was; or it forgets the last run of the step;
or it forgets that and stores the result that it ends with. -/
theorem ensures_runStep (inner : Operation → Run σ Answer) (hclient : env.client.OnlyReplies)
    (id : String) (w₀ : World σ) :
    Ensures (fun w => w = w₀) (runStep env inner id)
      (fun result w => id ∈ w₀.session.stepIds ∧
        w.session = (w₀.session.forget id).store id result ∧ w.created = w₀.created)
      (fun w => w = w₀ ∨ w.session = w₀.session.forget id ∧ w.created = w₀.created) := by
  have hexchange (call : Call) :
      Keeps (fun w => id ∈ w₀.session.stepIds ∧ World.OnlyTalked (w₀.begun id) w)
        (exchange env inner call) := by
    constructor
    rintro w ⟨hid, hw⟩
    have htalked := (onlyTalks_exchange inner hclient call (w₀.begun id)).holds w hw
    split at htalked <;> exact ⟨hid, htalked⟩
  apply ensures_runStep_of inner hexchange
  · exact fun w hw => Or.inl hw
  · rintro w x rfl hx
    obtain ⟨hmem, rfl⟩ := Session.mem_steps_of_step hx
    exact ⟨List.mem_map.mpr ⟨x, hmem, rfl⟩, World.OnlyTalked.refl _⟩
  · rintro result w ⟨hid, hw⟩
    refine ⟨hid, ?_, hw.created_eq⟩
    exact congrArg (fun s : Session => s.store id result) hw.session_eq
  · exact fun w hw => Or.inr ⟨hw.2.session_eq, hw.2.created_eq⟩

/-- The run of a step leaves all other steps and what is stored for them alone. -/
theorem runStep_sameOutside (inner : Operation → Run σ Answer)
    (hclient : env.client.OnlyReplies) (id : String) (w : World σ) :
    List.Forall₂ (Session.SameOutside id) w.session.steps
        ((runStep env inner id).after w).session.steps ∧
      ∀ other, other ≠ id → ((runStep env inner id).after w).session.results.get? other =
        w.session.results.get? other := by
  have hforget : ∀ other, other ≠ id →
      (w.session.forget id).results.get? other = w.session.results.get? other :=
    fun other hne => Fields.get?_erase_of_ne _ (Ne.symm hne)
  have hrun := (ensures_runStep inner hclient id w).holds w rfl
  unfold Run.after
  split at hrun
  · next result w' _ =>
    obtain ⟨-, hsession, -⟩ := hrun
    rw [hsession, Session.steps_store_forget]
    refine ⟨?_, fun other hne => ?_⟩
    · exact Session.steps_sameOutside_modify _ id fun _ => rfl
    · rw [Session.get?_results_store_of_ne (Ne.symm hne), hforget other hne]
  · next fault w' _ =>
    rcases hrun with rfl | ⟨hsession, -⟩
    · exact ⟨List.forall₂_same.mpr fun x _ => ⟨rfl, fun _ => rfl⟩, fun _ _ => rfl⟩
    · rw [hsession]
      exact ⟨Session.steps_sameOutside_modify _ id fun _ => rfl, hforget⟩

end Run

/-! ## The invariant outlives every operation -/

namespace World.Sound

variable {env : Environment σ} {w w' : World σ}

/-- The invariant reads the session and the number of ids given out, nothing else. -/
theorem congr (h : w.Sound env) (hsession : w'.session = w.session)
    (hcreated : w'.created = w.created) : w'.Sound env where
  consistent := hsession ▸ h.consistent
  given := by
    rw [hsession, hcreated]
    exact h.given

theorem edited (h : w.Sound env) (hedit : w.session.Edited w'.session)
    (hcreated : w'.created = w.created) : w'.Sound env where
  consistent := hedit.consistent h.consistent
  given := by
    intro id hid
    rw [hcreated]
    exact h.given id (hedit.ids_subset hid)

theorem append (h : w.Sound env) {x : Step} (hfresh : x.id ∉ w.session.stepIds)
    (hgiven : ∃ n < w.created, env.stepId n = x.id) (hstate : x.state = .notRun)
    (hresult : x.result = none) (hsession : w'.session = w.session.append x)
    (hcreated : w'.created = w.created) : w'.Sound env where
  consistent := hsession ▸ h.consistent.append hfresh hstate hresult
  given := by
    intro id hid
    rw [hsession, Session.stepIds, Session.append, ImportState.ids_concat] at hid
    rw [hcreated]
    rcases List.mem_append.mp hid with hid | hid
    · exact h.given id hid
    · rw [List.mem_singleton.mp hid]
      exact hgiven

theorem onlyTalked (h : w.Sound env) (htalked : World.OnlyTalked w w') : w'.Sound env :=
  h.congr htalked.session_eq htalked.created_eq

theorem forget (h : w.Sound env) (id : String) (hsession : w'.session = w.session.forget id)
    (hcreated : w'.created = w.created) : w'.Sound env where
  consistent := hsession ▸ h.consistent.forget id
  given := by
    rw [hsession, hcreated, Session.stepIds_forget]
    exact h.given

theorem store (h : w.Sound env) {id : String} (hid : id ∈ w.session.stepIds)
    (result : StepResult) (hsession : w'.session = (w.session.forget id).store id result)
    (hcreated : w'.created = w.created) : w'.Sound env where
  consistent := by
    rw [hsession]
    apply (h.consistent.forget id).store
    · rw [Session.stepIds_forget]
      exact hid
    · exact Fields.get?_erase_self _ _
  given := by
    rw [hsession, hcreated, Session.stepIds_store, Session.stepIds_forget]
    exact h.given

/-- The next id is the id of no step yet. -/
theorem fresh (hids : Function.Injective env.stepId) (h : w.Sound env) :
    env.stepId w.created ∉ w.session.stepIds := by
  intro hid
  obtain ⟨n, hn, heq⟩ := h.given _ hid
  exact absurd (hids heq) (Nat.ne_of_lt hn)

theorem numbered (h : w.Sound env) : World.Sound env { w with created := w.created + 1 } where
  consistent := h.consistent
  given := by
    intro id hid
    obtain ⟨n, hn, rfl⟩ := h.given id hid
    exact ⟨n, Nat.lt_succ_of_lt hn, rfl⟩

/-- The steps of an import have the next ids. -/
theorem imported (hids : Function.Injective env.stepId) {document : Value}
    {report : Except NumberProblem ImportReport} {s : Session} {created : Nat}
    (himport : w.session.importDocument env.catalog env.stepId w.created document =
      .ok (report, s, created)) : World.Sound env { w.withSession s with created } := by
  obtain ⟨hresults, hnumbered⟩ := Session.importDocument_numbered himport
  have hcreated : created = w.created + s.steps.length := hnumbered.created_eq
  have hstepIds : s.stepIds = idsFrom env.stepId w.created s.steps.length := hnumbered.ids_eq
  constructor
  · apply Session.consistent_of_notRun _ hresults hnumbered.notRun
    rw [hstepIds]
    exact nodup_idsFrom hids _ _
  · intro id hid
    dsimp only [World.withSession] at hid ⊢
    rw [hstepIds] at hid
    obtain ⟨n, hn, rfl⟩ := exists_of_mem_idsFrom hid
    exact ⟨_, by omega, rfl⟩

/-- The invariant outlives whatever sends nothing. -/
theorem edit (hids : Function.Injective env.stepId) (h : w.Sound env) {withdraws : Bool}
    (hedit : World.Edit env withdraws w w') : w'.Sound env := by
  cases hedit with
  | kept => exact h
  | numbered => exact h.numbered
  | edited hs => exact h.edited hs.edited rfl
  | added hid hstate hresult =>
      exact h.numbered.append (hid ▸ h.fresh hids) ⟨w.created, Nat.lt_succ_self _, hid.symm⟩
        hstate hresult rfl rfl
  | imported _ himport => exact World.Sound.imported hids himport

end World.Sound

namespace Run

variable {α : Type} {env : Environment σ}

theorem keeps_sound_of_onlyTalks {run : Run σ α} (h : OnlyTalks run) :
    Keeps (World.Sound env) run := by
  constructor
  intro w hw
  have hrun := (h w).holds w (World.OnlyTalked.refl w)
  split at hrun
  · exact hw.onlyTalked hrun
  · exact hw.onlyTalked hrun

theorem keeps_sound_record (e : Event) :
    Keeps (World.Sound env) (modify fun w => w.record e : Run σ PUnit) :=
  ensures_modify fun _ hw => hw.congr rfl rfl

section Steps

variable (inner : Operation → Run σ Answer) (hclient : env.client.OnlyReplies)

include hclient

theorem keeps_runStep (id : String) : Keeps (World.Sound env) (runStep env inner id) := by
  constructor
  intro w hw
  have hrun := (ensures_runStep inner hclient id w).holds w rfl
  split at hrun
  · obtain ⟨hid, hsession, hcreated⟩ := hrun
    exact hw.store hid _ hsession hcreated
  · rcases hrun with rfl | ⟨hsession, hcreated⟩
    · exact hw
    · exact hw.forget id hsession hcreated

/-- Wherever the runs of several steps end, each of them has kept the invariant. -/
theorem keeps_runSteps (ids : List String) :
    Keeps (World.Sound env) (runSteps env inner ids) := by
  induction ids with
  | nil => exact keeps_pure _
  | cons id ids ih =>
      apply keeps_bind (keeps_runStep inner hclient id)
      intro result
      split
      · exact keeps_pure _
      · split
        · exact keeps_pure _
        · apply keeps_bind (keeps_sound_record _)
          rintro ⟨⟩
          exact keeps_bind ih fun others => keeps_pure _

theorem keeps_runAll : Keeps (World.Sound env) (runAll env inner) := by
  apply keeps_get_bind
  intro w
  dsimp only
  split
  · exact keeps_throw _
  · exact ensures_between _ _ (keeps_runSteps inner hclient _) (fun w hw => hw.congr rfl rfl)
      (fun results w hw => hw.congr rfl rfl) fun w hw => hw.congr rfl rfl

end Steps

/-- What the runs of calls outside the sequence do to the world, they only say. -/
theorem keeps_runEndpoint (inner : Operation → Run σ Answer) (hclient : env.client.OnlyReplies)
    (endpoint : Endpoint) (parameters : Parameters)
    (hnew : Keeps (World.Sound env) (newId env)) :
    Keeps (World.Sound env) (runEndpoint env inner endpoint parameters) := by
  apply keeps_bind hnew
  intro id
  apply keeps_caught
  apply keeps_get_bind
  intro w
  apply keeps_bind (keeps_ofExcept _)
  intro request
  exact keeps_bind (keeps_sound_of_onlyTalks (onlyTalks_execute inner hclient request))
    fun received => keeps_pure _

theorem keeps_testConnection (inner : Operation → Run σ Answer)
    (hclient : env.client.OnlyReplies) :
    Keeps (World.Sound env) (testConnection env inner) := by
  apply keeps_caught
  exact keeps_bind (keeps_sound_of_onlyTalks (onlyTalks_execute inner hclient _))
    fun received => keeps_pure _

theorem keeps_newId : Keeps (World.Sound env) (newId env) :=
  ⟨fun _ hw => hw.numbered⟩

/-- The invariant outlives every operation. -/
theorem keeps_perform (hids : Function.Injective env.stepId) (inner : Operation → Run σ Answer)
    (hclient : env.client.OnlyReplies) (op : Operation) :
    Keeps (World.Sound env) (perform env inner op) := by
  cases hop : op.sends with
  | false =>
      constructor
      intro w hw
      have hrun := (ensures_perform_edit env inner hop).holds w rfl
      split at hrun
      · exact hw.edit hids hrun
      · exact hw.edit hids hrun
  | true =>
      cases op with
      | runStep name =>
          apply keeps_bind (keeps_get_bind fun w => keeps_pure _)
          intro id
          exact keeps_bind (keeps_runStep inner hclient id) fun result => keeps_pure _
      | runAll => exact keeps_bind (keeps_runAll inner hclient) fun results => keeps_pure _
      | runEndpoint endpoint parameters =>
          apply keeps_bind (keeps_checked _)
          intro endpoint
          apply keeps_bind (keeps_optionalRecord _ _ _)
          intro parameters
          exact keeps_bind (keeps_runEndpoint inner hclient endpoint parameters keeps_newId)
            fun result => keeps_pure _
      | testConnection =>
          exact keeps_bind (keeps_testConnection inner hclient) fun result => keeps_pure _
      | _ => cases hop

end Run

theorem World.Reached.sound {env : Environment σ} (hids : Function.Injective env.stepId)
    (hclient : env.client.OnlyReplies) {w : World σ} (h : World.Reached env w) :
    w.Sound env := by
  induction h with
  | start baseUrl token peer created =>
      constructor
      · exact Session.consistent_of_notRun List.nodup_nil rfl (by simp)
      · intro id hid
        cases hid
  | perform op h ih => exact (Run.keeps_perform hids _ hclient op).after ih

/-- Steps and stored results go together after every sequence of completed operations, and
the run of a step leaves all other steps and what is stored for them alone. -/
theorem World.Reached.results_match {env : Environment σ}
    (hids : Function.Injective env.stepId) (hclient : env.client.OnlyReplies) {w : World σ}
    (h : World.Reached env w) :
    w.session.stepIds.Nodup ∧
    (∀ id ∈ Fields.keys w.session.results, id ∈ w.session.stepIds) ∧
    (∀ x ∈ w.session.steps, (x.id ∈ Fields.keys w.session.results ↔
      x.state = .ran ∧ ∃ result, x.result = some result ∧ result.isOk = true)) ∧
    (∀ x ∈ w.session.steps, ∀ v, w.session.results.get? x.id = some v →
      ∃ result, x.result = some result ∧ result.payload? = some v) ∧
    (∀ x ∈ w.session.steps, x.state = .notRun ↔ x.result = none) ∧
    (∀ (inner : Operation → Run σ Answer) (id : String),
      let w' := (Run.runStep env inner id).after w
      List.Forall₂ (fun x x' => x'.id = x.id ∧ (x.id ≠ id → x' = x)) w.session.steps
        w'.session.steps ∧
      ∀ other, other ≠ id → w'.session.results.get? other = w.session.results.get? other) := by
  have hsound := h.sound hids hclient
  have hconsistent := hsound.consistent
  refine ⟨hconsistent.ids_nodup, hconsistent.owned, fun x hx => ?_, fun x hx v hv => ?_,
    hconsistent.notRun_iff, fun inner id => ?_⟩
  · rw [Session.mem_keys_iff, hconsistent.stored x hx, Step.payload?]
    cases hresult : x.result with
    | none => simp
    | some result =>
        have hran : x.state = .ran := by
          cases hstate : x.state with
          | ran => rfl
          | notRun =>
              rw [(hconsistent.notRun_iff x hx).mp hstate] at hresult
              cases hresult
        simp [hran]
  · rw [hconsistent.stored x hx, Step.payload?, Option.bind_eq_some_iff] at hv
    exact hv
  · exact Run.runStep_sameOutside inner hclient id w

/-- An environment in which every call is answered with an empty object. -/
def Environment.answering : Environment Nat where
  client := ⟨fun calls _ => (⟨[], .answered 200 "\x7b\x7d" none⟩, calls + 1)⟩
  connection := { baseUrl := defaultBaseUrl }
  builder := { baseUrl := defaultBaseUrl }
  stepId := fun n => String.ofList (List.replicate (n + 1) 'a')
  now := "2026-01-01T00:00:00"
  today := "2026-01-01"

/-- A session of one step that has been run. -/
def World.answered : World Nat :=
  let added := (Run.performOperation Environment.answering (.add
    (.object [("method", .text "GET"), ("path", .text "/users")]) none (.object []) none)).after
    { session := { baseUrl := defaultBaseUrl }, peer := 0 }
  (Run.performOperation Environment.answering .runAll).after added

theorem World.Reached.results_match_answered :
    Function.Injective Environment.answering.stepId ∧
    Environment.answering.client.OnlyReplies ∧
    World.Reached Environment.answering World.answered ∧
    World.answered.session.stepIds.Nodup ∧
    (∀ id ∈ Fields.keys World.answered.session.results, id ∈ World.answered.session.stepIds) ∧
    (∀ x ∈ World.answered.session.steps, x.state = .notRun ↔ x.result = none) := by
  have hids : Function.Injective Environment.answering.stepId := by
    intro m n h
    have hlist : List.replicate (m + 1) 'a' = List.replicate (n + 1) 'a' :=
      String.ofList_injective h
    simpa using congrArg List.length hlist
  have hclient : Environment.answering.client.OnlyReplies := fun _ _ => rfl
  have hreached : World.Reached Environment.answering World.answered := by
    unfold World.answered
    exact .perform _ (.perform _ (.start _ _ _ _))
  obtain ⟨hnodup, howned, -, -, hnotRun, -⟩ :=
    World.Reached.results_match hids hclient hreached
  exact ⟨hids, hclient, hreached, hnodup, howned, hnotRun⟩

end CallChain
