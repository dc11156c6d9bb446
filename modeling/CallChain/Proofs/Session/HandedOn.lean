/-
# How a refusal is handed on

A run is refused while what it is to run is in progress. No other operation is ended by a
refusal of its own. But an operation that waits for a reply hands on the faults of what the
client asks for meanwhile, and so it may hand on a refusal: `EndsIn` says what holds where a run
ends, of the fault too that it is ended by, and `HandsOn` what has to be known of the faults for
the rules to go through. They follow the combinators that runs are made of, and then the run of
a step from its exchanges up.
-/

import CallChain.Proofs.Session.Escapes
import CallChain.Proofs.Session.Nested

namespace CallChain

variable {σ : Type}

/-- Whether a fault is the refusal of a run. -/
def Fault.IsRefusal : Fault → Prop
  | stepInProgress _ | sequenceInProgress => True
  | _ => False

theorem Fault.OfBuilding.not_isRefusal {fault : Fault} (h : fault.OfBuilding) :
    ¬fault.IsRefusal := by
  cases fault with
  | stepInProgress id => cases h
  | sequenceInProgress => cases h
  | _ => exact id

namespace Run

variable {α β : Type}

/-! ## What hands a fault on -/

/-- Whether a run that starts where `P` holds ends with an answer where `Q` holds, or with a
fault such that `E` holds of it and of where it ends. -/
structure EndsIn (P : World σ → Prop) (run : Run σ α) (Q : World σ → Prop)
    (E : Fault → World σ → Prop) : Prop where
  /-- What holds where the run ends. -/
  holds : ∀ w, P w → match run w with
    | .ok _ w' => Q w'
    | .error fault w' => E fault w'

/-- Whether what is said of faults leaves all faults free that are no refusals, and holds only
where something else does too. -/
structure HandsOn (I : World σ → Prop) (E : Fault → World σ → Prop) : Prop where
  /-- A fault of its own is no refusal. -/
  own : ∀ {fault : Fault} {w : World σ}, ¬fault.IsRefusal → I w → E fault w
  /-- A fault that is recorded is over. -/
  recorded : ∀ {fault : Fault} {w : World σ}, E fault w → I w

section Rules

variable {P I Q : World σ → Prop} {E : Fault → World σ → Prop}

theorem EndsIn.of_error {run : Run σ α} {w w' : World σ} {fault : Fault}
    (h : EndsIn P run Q E) (hw : P w) (hrun : run w = .error fault w') : E fault w' := by
  have hends := h.holds w hw
  rwa [hrun] at hends

theorem endsIn_pure {a : α} (h : ∀ w, P w → Q w) : EndsIn P (pure a) Q E :=
  ⟨h⟩

theorem endsIn_bind {run : Run σ α} {next : α → Run σ β} (h : EndsIn P run I E)
    (hnext : ∀ a, EndsIn I (next a) Q E) : EndsIn P (run >>= next) Q E := by
  constructor
  intro w hw
  have hrun := h.holds w hw
  simp only [bind, EStateM.bind]
  cases hresult : run w with
  | ok a w' =>
      rw [hresult] at hrun
      exact (hnext a).holds w' hrun
  | error fault w' =>
      rw [hresult] at hrun
      exact hrun

theorem endsIn_get_bind {next : World σ → Run σ β} (h : ∀ w, P w → EndsIn (· = w) (next w) Q E) :
    EndsIn P (get >>= next) Q E := by
  constructor
  intro w hw
  exact (h w hw).holds w rfl

namespace HandsOn

variable (h : HandsOn I E)

include h

theorem throw {fault : Fault} (hfault : ¬fault.IsRefusal) :
    EndsIn I (throw fault : Run σ α) I E :=
  ⟨fun _ hw => h.own hfault hw⟩

theorem ofExcept {result : Except Fault α} (hresult : Raises (¬ ·.IsRefusal) result) :
    EndsIn I (ofExcept result) I E := by
  cases result with
  | ok a => exact endsIn_pure fun _ hw => hw
  | error fault => exact h.throw (hresult fault rfl)

theorem checked (a? : Option α) : EndsIn I (checked a?) I E := by
  cases a? with
  | some a => exact endsIn_pure fun _ hw => hw
  | none => exact h.throw id

theorem optionalRecord (default : α) (read : Value → Option α) (v? : Option Value) :
    EndsIn I (optionalRecord default read v?) I E := by
  cases v? with
  | none => exact endsIn_pure fun _ hw => hw
  | some v => exact h.checked (read v)

theorem caught {run : Run σ α} (hrun : EndsIn P run I E) (onError : StepError → α) :
    EndsIn P (caught run onError) I E := by
  constructor
  intro w hw
  have hends := hrun.holds w hw
  simp only [Run.caught]
  cases hresult : run w with
  | ok a w' =>
      rw [hresult] at hends
      exact hends
  | error fault w' =>
      rw [hresult] at hends
      cases fault with
      | step e => exact h.recorded hends
      | _ => exact hends

theorem transported {run : Run σ α} (hrun : EndsIn P run I E) :
    EndsIn P (transported run) I E := by
  constructor
  intro w hw
  have hends := hrun.holds w hw
  simp only [Run.transported]
  cases hresult : run w with
  | ok a w' =>
      rw [hresult] at hends
      exact hends
  | error fault w' =>
      rw [hresult] at hends
      cases fault with
      | badAddress problem =>
          dsimp only
          split
          · exact h.own id (h.recorded hends)
          · exact hends
      | _ => exact hends

end HandsOn

end Rules

end Run

/-! ## What sends nothing is not refused -/

namespace Session

variable (s : Session) (id : String)

theorem raises_step : Raises (¬ ·.IsRefusal) (s.step id) := by
  unfold step
  split
  · exact raises_ok _
  · exact raises_error fun h => h

theorem raises_place : Raises (¬ ·.IsRefusal) (s.place id) := by
  unfold place
  split
  · exact raises_ok _
  · exact raises_error fun h => h

theorem raises_remove : Raises (¬ ·.IsRefusal) (s.remove id) :=
  (s.raises_step id).bind fun _ => raises_ok _

theorem raises_update (kind name : String) (value : Value) :
    Raises (¬ ·.IsRefusal) (s.update id kind name value) := by
  apply (s.raises_step id).bind
  intro x
  split
  · exact raises_ok _
  · exact raises_ok _
  · exact raises_ok _
  · exact raises_error fun h => h

theorem raises_applyPreset (name : String) : Raises (¬ ·.IsRefusal) (s.applyPreset id name) := by
  apply (s.raises_step id).bind
  intro x
  split
  · exact raises_error fun h => h
  · exact raises_ok _

theorem raises_bindParameter (name expression : String) :
    Raises (¬ ·.IsRefusal) (s.bindParameter id name expression) :=
  (s.raises_step id).bind fun _ => raises_ok _

end Session

theorem Request.raises_prepare (request : Request) (half : Char → Bool) :
    Raises (¬ ·.IsRefusal) (request.prepare half) := by
  intro fault hfault
  rcases Request.prepare_eq_error_iff.mp hfault with ⟨-, rfl⟩ | ⟨-, problem, -, rfl⟩
  · exact id
  · exact id

theorem SequenceDocument.raises_dump (d : SequenceDocument) (half : Char → Bool) :
    Raises (¬ ·.IsRefusal) (d.dump half) := by
  intro fault hfault
  obtain ⟨-, rfl⟩ := SequenceDocument.dump_eq_error_iff.mp hfault
  exact id

namespace Run

/-- Nothing is said of a world, and of a fault only that it is no refusal. -/
theorem handsOn_true : HandsOn (fun _ : World σ => True) fun fault _ => ¬fault.IsRefusal :=
  ⟨fun hfault _ => hfault, fun _ => trivial⟩

/-- Whether a run is ended by no refusal. -/
def NeverRefused (run : Run σ α) : Prop :=
  EndsIn (fun _ => True) run (fun _ => True) fun fault _ => ¬fault.IsRefusal

theorem neverRefused_pure (a : α) : NeverRefused (pure a : Run σ α) :=
  endsIn_pure fun _ _ => trivial

theorem neverRefused_get_bind {next : World σ → Run σ β} (h : ∀ w, NeverRefused (next w)) :
    NeverRefused (get >>= next) :=
  ⟨fun w _ => (h w).holds w trivial⟩

theorem neverRefused_edit {f : Session → Except Fault Session}
    (h : ∀ s, Raises (¬ ·.IsRefusal) (f s)) : NeverRefused (edit f : Run σ Session) := by
  apply neverRefused_get_bind
  intro w
  apply endsIn_bind (handsOn_true.ofExcept (h w.session))
  exact fun s => ⟨fun _ _ => trivial⟩

theorem neverRefused_editStep (name : StepName) {f : Session → String → Except Fault Session}
    (h : ∀ s id, Raises (¬ ·.IsRefusal) (f s id)) :
    NeverRefused (editStep name f : Run σ Step) := by
  apply neverRefused_get_bind
  intro w
  apply endsIn_bind (neverRefused_edit fun s => h s _)
  exact fun s => handsOn_true.ofExcept (s.raises_step _)

theorem neverRefused_importValue (env : Environment σ) (document : Value) :
    NeverRefused (importValue env document) := by
  apply neverRefused_get_bind
  intro w
  split
  · exact handsOn_true.throw fun h => h
  · next report session created himport =>
    apply endsIn_bind (I := fun _ => True) ⟨fun _ _ => trivial⟩
    rintro ⟨⟩
    apply endsIn_bind (handsOn_true.ofExcept _) fun report => endsIn_pure fun _ _ => trivial
    cases report with
    | ok report => exact raises_ok _
    | error problem => exact raises_error fun h => h

theorem neverRefused_importText (env : Environment σ) (text : String) :
    NeverRefused (importText env text) := by
  apply endsIn_bind (handsOn_true.ofExcept _) fun document => neverRefused_importValue env document
  unfold readSequence
  cases Json.read text with
  | ok v => exact raises_ok _
  | error refusal => cases refusal <;> exact raises_error fun h => h

theorem neverRefused_exportText (env : Environment σ) (name : Option String) :
    NeverRefused (exportText env name) := by
  have hdocument : NeverRefused (exportDocument env name) :=
    neverRefused_get_bind fun w => handsOn_true.checked _
  exact endsIn_bind hdocument fun d => handsOn_true.ofExcept (d.raises_dump _)

theorem neverRefused_add (env : Environment σ) (inner : Operation → Run σ Answer)
    (endpoint : Value) (parameters : Option Value) (mappings : Value)
    (iteration : Option Value) :
    NeverRefused (perform env inner (.add endpoint parameters mappings iteration)) := by
  apply endsIn_bind (handsOn_true.checked _)
  intro endpoint
  apply endsIn_bind (handsOn_true.optionalRecord _ _ _)
  intro parameters
  apply endsIn_bind (handsOn_true.optionalRecord _ _ _)
  intro iteration
  have hid : NeverRefused (newId env) := ⟨fun _ _ => trivial⟩
  apply endsIn_bind hid
  intro id
  apply endsIn_bind (handsOn_true.checked _)
  intro mappings
  exact endsIn_bind (neverRefused_edit fun s => raises_ok _) fun s => neverRefused_pure _

/-- What sends nothing is ended by no refusal. -/
theorem neverRefused_perform (env : Environment σ) (inner : Operation → Run σ Answer)
    {op : Operation} (hop : op.sends = false) : NeverRefused (perform env inner op) := by
  cases op with
  | add endpoint parameters mappings iteration =>
      exact neverRefused_add env inner endpoint parameters mappings iteration
  | find name =>
      apply neverRefused_get_bind
      intro w
      apply neverRefused_get_bind
      intro w
      exact endsIn_bind (handsOn_true.ofExcept (w.session.raises_step _))
        fun x => neverRefused_pure _
  | place name =>
      apply neverRefused_get_bind
      intro w
      apply neverRefused_get_bind
      intro w
      exact endsIn_bind (handsOn_true.ofExcept (w.session.raises_place _))
        fun n => neverRefused_pure _
  | remove name =>
      apply neverRefused_get_bind
      intro w
      exact endsIn_bind (neverRefused_edit fun s => s.raises_remove _) fun s => neverRefused_pure _
  | clear => exact endsIn_bind (neverRefused_edit fun s => raises_ok _) fun s => neverRefused_pure _
  | update name kind parameter value =>
      exact endsIn_bind (neverRefused_editStep name fun s id => s.raises_update id _ _ _)
        fun x => neverRefused_pure _
  | preset name preset =>
      exact endsIn_bind (neverRefused_editStep name fun s id => s.raises_applyPreset id _)
        fun x => neverRefused_pure _
  | bindTo name parameter expression =>
      exact endsIn_bind (neverRefused_editStep name fun s id => s.raises_bindParameter id _ _)
        fun x => neverRefused_pure _
  | executed => exact neverRefused_get_bind fun w => neverRefused_pure _
  | resolve expression =>
      apply neverRefused_get_bind
      intro w
      apply endsIn_bind (handsOn_true.ofExcept _) fun v => neverRefused_pure _
      intro fault hfault
      exact (w.session.resolver.raises_resolve [] expression fault hfault).ofBuilding.not_isRefusal
  | runStep name => cases hop
  | runAll => cases hop
  | runEndpoint endpoint parameters => cases hop
  | testConnection => cases hop
  | setTransformations value =>
      apply endsIn_bind (handsOn_true.checked _)
      intro transformations
      exact endsIn_bind (neverRefused_edit fun s => raises_ok _) fun s => neverRefused_pure _
  | transform => exact neverRefused_get_bind fun w => neverRefused_pure _
  | grid => exact neverRefused_get_bind fun w => neverRefused_pure _
  | suggest before => exact neverRefused_get_bind fun w => neverRefused_pure _
  | report => exact neverRefused_get_bind fun w => neverRefused_pure _
  | exportText name =>
      exact endsIn_bind (neverRefused_exportText env name) fun text => neverRefused_pure _
  | importValue document => exact neverRefused_importValue env document
  | importSample => exact neverRefused_importValue env _
  | load content =>
      cases content with
      | error problem =>
          apply handsOn_true.throw
          rw [Fault.ofUnreadable]
          split <;> exact fun h => h
      | ok text => exact neverRefused_importText env text
  | roundTrip name =>
      exact endsIn_bind (neverRefused_exportText env name) fun text =>
        neverRefused_importText env text

/-! ## What talks to the client hands on what it asks for -/

section Exchanges

variable {env : Environment σ} {I : World σ → Prop} {E : Fault → World σ → Prop}
  (h : HandsOn I E) {inner : Operation → Run σ Answer} {sends : World σ → Call → Prop}
  (hexchange : ∀ call, EndsIn (fun v => I v ∧ sends v call) (exchange env inner call) I E)

include h hexchange

theorem endsIn_execute (request : Request) :
    EndsIn (fun v => I v ∧ sends v (env.connection.call request)) (execute env inner request)
      I E := by
  have hsend : EndsIn (fun v => I v ∧ sends v (env.connection.call request))
      (send env inner request) I E := by
    unfold send
    split
    · next fault hprepare =>
      have hfault := request.raises_prepare env.builder.isHalf fault hprepare
      exact ⟨fun v hv => h.own hfault hv.1⟩
    · apply endsIn_bind (h.transported (hexchange _))
      intro reply
      apply h.ofExcept
      intro fault hfault
      obtain ⟨e, rfl⟩ | rfl := Response.ofReply_eq_error hfault
      · exact id
      · exact id
  apply endsIn_bind hsend
  intro response
  apply h.ofExcept
  cases response.received with
  | ok received => exact raises_ok _
  | error e => exact raises_error fun h => h

/-- A request is built, and then sent from the same world. -/
theorem endsIn_build_execute {x : Step} {r : Resolver} {scope : Fields Value} {w : World σ}
    (hw : I w) (hsends : ∀ request, env.builder.build x r scope = .ok request →
      sends w (env.connection.call request)) :
    EndsIn (· = w) (do
      let request ← ofExcept (env.builder.build x r scope)
      execute env inner request) I E := by
  cases hbuild : env.builder.build x r scope with
  | error fault =>
      have hraised := Builder.raises_build x r scope env.builder fault hbuild
      exact ⟨fun v hv => h.own hraised.ofBuilding.not_isRefusal (hv ▸ hw)⟩
  | ok request =>
      exact ⟨fun v hv => (endsIn_execute h hexchange request).holds v
        (hv ▸ ⟨hw, hsends request hbuild⟩)⟩

section Steps

variable {x : Step} {ids : List String} {scopes : Fields Value → Prop}
  (hsends : ∀ v scope request, I v → scopes scope →
    env.builder.build (v.current x) ⟨v.session.results, ids⟩ scope = .ok request →
    sends v (env.connection.call request))

include hsends

theorem endsIn_executeStepOnce {scope : Fields Value} (hscope : scopes scope) :
    EndsIn I (executeStepOnce env inner x ids scope) I E :=
  endsIn_get_bind fun w hw => endsIn_build_execute h hexchange hw fun request =>
    hsends w scope request hw hscope

theorem endsIn_iterateItem {name : String} {index : Nat} {item : Value}
    (hscope : scopes (Iteration.itemScope name index item)) :
    EndsIn I (iterateItem env inner x ids name index item) I E := by
  apply endsIn_bind (I := I)
  · apply h.caught
    exact endsIn_bind (endsIn_executeStepOnce h hexchange hsends hscope)
      fun received => endsIn_pure fun _ hw => hw
  · intro outcome
    cases outcome <;> exact endsIn_pure fun _ hw => hw

theorem endsIn_iterateItems {name : String} {index : Nat} {items : List Value}
    (hscopes : ∀ n item, items[n]? = some item →
      scopes (Iteration.itemScope name (index + n) item)) :
    EndsIn I (iterateItems env inner x ids name index items) I E := by
  induction items generalizing index with
  | nil => exact endsIn_pure fun _ hw => hw
  | cons item items ih =>
      have hitem : scopes (Iteration.itemScope name index item) := hscopes 0 item rfl
      apply endsIn_bind (endsIn_iterateItem h hexchange hsends hitem)
      intro outcome
      apply endsIn_bind (ih _) fun others => endsIn_pure fun _ hw => hw
      intro n item hn
      rw [Nat.add_assoc, Nat.add_comm 1 n]
      exact hscopes (n + 1) item hn

end Steps

theorem endsIn_iterate {x : Step} {place : Nat} {w : World σ} (hw : I w)
    (hiterated : x.iteration.enabled = true)
    (hsends : ∀ v scope request, I v → x.RunsWith w.session.resolver place scope →
      env.builder.build (v.current x) ⟨v.session.results, w.session.stepIds⟩ scope =
        .ok request → sends v (env.connection.call request)) :
    EndsIn (· = w) (iterate env inner x w.session.stepIds place) I E := by
  constructor
  rintro w rfl
  rw [iterate_eq]
  cases hcheck : Iteration.checkVariable x.iteration.variableName w.session.stepIds with
  | error fault =>
      obtain ⟨e, rfl⟩ := Iteration.checkVariable_eq_error hcheck
      exact hw
  | ok u =>
      simp only [bind, Except.bind]
      cases hitems : x.iteration.items ⟨w.session.results, w.session.stepIds⟩ place with
      | error fault =>
          have hraised := x.iteration.raises_items _ _ fault hitems
          cases fault with
          | step e => exact hw
          | _ => exact h.own hraised.ofBuilding.not_isRefusal hw
      | ok items =>
          have hitem : ∀ n item, items[n]? = some item → x.RunsWith w.session.resolver place
              (Iteration.itemScope x.iteration.variableName (0 + n) item) := by
            intro n item hn
            rw [Nat.zero_add]
            exact .item hiterated hcheck hitems hn
          have hends := (endsIn_iterateItems h hexchange hsends hitem).holds w hw
          dsimp only
          cases hrun : iterateItems env inner x w.session.stepIds x.iteration.variableName 0
              items w with
          | ok outcomes v =>
              rw [hrun] at hends
              exact hends
          | error fault v =>
              rw [hrun] at hends
              exact hends

/-- What is done while a step is in progress. -/
theorem endsIn_stepResult {x : Step} {w : World σ} (hw : I w)
    (hsends : ∀ v place scope request, I v → w.session.place x.id = .ok place →
      x.RunsWith w.session.resolver place scope →
      env.builder.build (v.current x) ⟨v.session.results, w.session.stepIds⟩ scope =
        .ok request → sends v (env.connection.call request)) :
    EndsIn (· = w) (stepResult env inner x) I E := by
  apply endsIn_get_bind
  rintro w rfl
  cases hplace : w.session.place x.id with
  | error fault =>
      exact ⟨fun v hv => h.own (w.session.raises_place x.id fault hplace) (hv ▸ hw)⟩
  | ok place =>
      show EndsIn (· = w) (caught (if x.iteration.enabled then _ else _) _) I E
      apply h.caught
      split
      · next hiterated =>
        exact endsIn_iterate h hexchange hw hiterated fun v scope request hv hscope =>
          hsends v place scope request hv hplace hscope
      · next hsingle =>
        have hscope : x.RunsWith w.session.resolver place [] := .single (by simpa using hsingle)
        apply endsIn_bind (I := I) _ fun received => endsIn_pure fun _ hv => hv
        constructor
        rintro w rfl
        exact (endsIn_executeStepOnce h hexchange (fun v scope request hv hscope =>
          hsends v place scope request hv hplace hscope) hscope).holds w hw

/-- The one request of an operation outside the sequence. -/
theorem endsIn_received {request : Request} {w : World σ} (hw : I w)
    (hsends : sends w (env.connection.call request)) :
    EndsIn (· = w) (do return .received (← execute env inner request) : Run σ StepResult) I E := by
  apply endsIn_bind (I := I) _ fun received => endsIn_pure fun _ hv => hv
  constructor
  rintro w rfl
  exact (endsIn_execute h hexchange request).holds w ⟨hw, hsends⟩

theorem endsIn_runEndpoint {endpoint : Endpoint} {parameters : Parameters} {w : World σ}
    (hw : I { w with created := w.created + 1 })
    (hsends : ∀ request, env.builder.build
        { id := env.stepId w.created, endpoint := endpoint
          inputs := Inputs.ofParameters parameters } w.session.resolver [] = .ok request →
      sends { w with created := w.created + 1 } (env.connection.call request)) :
    EndsIn (· = w) (runEndpoint env inner endpoint parameters) I E := by
  constructor
  rintro w rfl
  have hid : newId env w = .ok (env.stepId w.created) { w with created := w.created + 1 } := rfl
  rw [runEndpoint, bind_ok hid]
  refine (h.caught (P := (· = { w with created := w.created + 1 })) ?_ _).holds _ rfl
  apply endsIn_get_bind
  rintro v rfl
  dsimp only
  cases hbuild : env.builder.build
      { id := env.stepId w.created, endpoint := endpoint
        inputs := Inputs.ofParameters parameters } w.session.resolver [] with
  | error fault =>
      have hraised := Builder.raises_build _ _ _ env.builder fault hbuild
      exact ⟨fun v hv => h.own hraised.ofBuilding.not_isRefusal (hv ▸ hw)⟩
  | ok request => exact endsIn_received h hexchange hw (hsends request hbuild)

theorem endsIn_testConnection {w : World σ} (hw : I w) (hsends : sends w (env.connection.call
      { method := "GET", url := Text.dropTrailing '/' env.connection.baseUrl ++ "/users/me" })) :
    EndsIn (· = w) (testConnection env inner) I E := by
  unfold testConnection
  exact h.caught (endsIn_received h hexchange hw hsends) _

end Exchanges

end Run

end CallChain
