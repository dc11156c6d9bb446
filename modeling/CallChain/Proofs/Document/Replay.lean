/-
# Running what has been loaded

A session is written to a document, the document is read as text and imported into another
session, and both sessions are run with the same client. Then the same calls are sent, and
every step ends in the same way, whatever the ids of the other session are, as long as they
are new to the document.

The one thing in the way is a placeholder in a JSON body that starts within a text literal
and ends behind it: an export renames it, and no run fills it in.
-/

import CallChain.Proofs.Document.Carried

namespace CallChain

namespace Session

variable {s : Session}

theorem CarriedBy.distinct {d : SequenceDocument} (h : s.CarriedBy d) :
    ∀ e ∈ d.sequence, e.Distinct := by
  intro e he
  obtain ⟨n, hn⟩ := List.mem_iff_getElem?.mp he
  obtain ⟨x, p, -, hp, rfl⟩ := h.exists_step hn
  exact Step.distinct_entry hp.path hp.query hp.mappings hp.parameters _ _

/-- A session that can be carried has a document, which is read and imported without a loss; it
can be saved where all its texts can be written in UTF-8. With the same client both sessions
send the same calls, and each step ends in the same way, up to the wording of a failure; or both
runs end with the same fault. -/
theorem Portable.replay (hs : s.Portable)
    (hkeeps : ∀ (n : Nat) x, s.steps[n]? = some x → x.KeepsLiterals s.stepIds n)
    (now today : String) (name : Option String) :
    ∃ d, s.document? now today name = some d ∧
      (∀ half, Text.isEncodable half d.text = true → d.dump half = .ok d.text) ∧
      readSequence d.text = .ok d.toValue ∧
      ∀ stepId : Nat → String, FreshIds stepId d.toValue →
        (∀ x ∈ s.steps, x.iteration.enabled = true →
          ∀ n, stepId n ≠ x.iteration.variableName) →
        ∀ (t : Session) (catalog : List Endpoint) (start : Nat), ∃ report t' created,
          t.importDocument catalog stepId start d.toValue = .ok (.ok report, t', created) ∧
          report.skipped = 0 ∧
          ∀ {σ : Type} (env : Environment σ) (inner : Operation → Run σ Answer),
            env.client.OnlyReplies → ∀ w w' : World σ, w.session = s → w'.session = t' →
            w.running = [] → w'.running = [] → w'.sequenceRunning = w.sequenceRunning →
            w.SameTalk w' →
            Run.EndsAlike (fun rs rs' v v' =>
                rs'.map StepResult.withoutMessage = rs.map StepResult.withoutMessage ∧
                  v.SameTalk v')
              World.SameTalk (Run.runAll env inner w) (Run.runAll env inner w') := by
  obtain ⟨d, hd, hcarried⟩ := hs.exists_document now today name
  have hdump : ∀ half, Text.isEncodable half d.text = true → d.dump half = .ok d.text :=
    fun half hhalf => SequenceDocument.dump_eq_ok_iff.mpr ⟨hhalf, rfl⟩
  refine ⟨d, hd, hdump, SequenceDocument.readSequence_text hcarried.distinct, ?_⟩
  intro stepId hids hapart t catalog start
  obtain ⟨report, t', created, himport, hskipped, hresults, hsteps⟩ :=
    hcarried.import hs hkeeps hids hapart t catalog start
  refine ⟨report, t', created, himport, hskipped, ?_⟩
  intro σ env inner hclient w w' hsession hsession' hidle hidle' hbusy htalk
  apply Run.together_runAll inner hclient _ hbusy
  rw [← hsession, ← hsession'] at hresults
  rw [← hsession, ← hsession'] at hsteps
  exact ⟨hresults, hsteps, hidle, hidle', htalk⟩

end Session

/-! ## A session that is carried, and one that is not -/

/-- An environment in which every call is answered with one record. -/
def Environment.recordOnly : Environment Nat where
  client := ⟨fun calls _ => (⟨[], .answered 200 "\x7b\"gid\":\"u1\"\x7d" none⟩, calls + 1)⟩
  connection := { baseUrl := "http://a" }
  builder := { baseUrl := "http://a" }
  stepId := Reference.countedId
  now := ""
  today := ""

/-- A world in which a session is about to be run. -/
def World.ofSession (s : Session) : World Nat := { session := s, peer := 0 }

/-- The calls that the run of a session sends. -/
def callsOf (s : Session) : List Call :=
  ((Run.runAll Environment.recordOnly (Run.performAt Environment.recordOnly 0)).after
    (World.ofSession s)).calls

/-- A step that reads the users, and one that writes a task with the given body. -/
def withBody (body : String) : Session where
  baseUrl := defaultBaseUrl
  steps := [
    { id := Reference.countedId 0, endpoint := { method := .get, path := "/users" } },
    { id := Reference.countedId 1, endpoint := { method := .post, path := "/tasks" }
      inputs := { body := .text body } }]

/-- The bodies for which the session with them can be carried. -/
def carriesBody (body : String) : Bool :=
  !body.toList.contains '\\' &&
    (match Json.read (Text.trim body) with
      | .ok v => v.names.all fun name => !Template.hasHole name
      | .error _ => true) &&
    (Renaming.references body).all fun reference =>
      match Reference.place reference with
      | .ok _ => true
      | .error _ => false

theorem portable_bare (ids : List String) (n : Nat) (id : String) (endpoint : Endpoint) :
    Step.Portable ids n {} { id, endpoint } where
  parameters := rfl
  path := List.nodup_nil
  query := List.nodup_nil
  mappings := List.nodup_nil
  body := rfl
  plain := by rintro _ ⟨⟩
  names := by rintro _ _ ⟨⟩
  bindings := by simp
  source := by rintro ⟨⟩
  apart := by rintro ⟨⟩
  readable := by simp [Step.sources, Parameters.texts]

theorem portable_withBody {body : String} (h : carriesBody body = true) :
    (withBody body).Portable where
  results := rfl
  nodup := by
    have hne : Reference.countedId 0 ≠ Reference.countedId 1 := by decide
    simpa [withBody, Session.stepIds, Step.ids] using hne
  generated := by
    intro id hid
    have hgiven : id = Reference.countedId 0 ∨ id = Reference.countedId 1 := by
      simpa [withBody, Session.stepIds, Step.ids] using hid
    rcases hgiven with rfl | rfl <;> exact Reference.isGenerated_countedId _
  length_le := by
    have hone : 10 ^ 1 ≤ 10 ^ digitLimit := Nat.pow_le_pow_right (by decide) (by decide)
    exact Nat.le_trans (by decide : 2 ≤ 10 ^ 1) hone
  steps := by
    intro n x hx
    rcases n with _ | _ | n
    · cases hx
      exact ⟨{}, portable_bare _ _ _ _⟩
    · cases hx
      simp only [carriesBody, Bool.and_eq_true] at h
      obtain ⟨⟨hplain, hnames⟩, hplaces⟩ := h
      have hbare := portable_bare (withBody body).stepIds 1 (Reference.countedId 1)
        { method := .post, path := "/tasks" }
      refine ⟨{ body := some body }, { hbare with
        parameters := rfl, body := rfl, plain := ?_, names := ?_, readable := ?_ }⟩
      · intro text htext
        cases htext
        rw [← List.contains_iff_mem]
        simpa using hplain
      · intro text v htext hread name hname
        cases htext
        rw [hread] at hnames
        simpa using List.all_eq_true.mp hnames name hname
      · intro text htext reference hreference
        have hown : text = body := by simpa [Step.sources, Parameters.texts] using htext
        rw [hown] at hreference
        have hplace := List.all_eq_true.mp hplaces reference hreference
        cases hread : Reference.place reference with
        | ok place => exact ⟨place, rfl⟩
        | error problem =>
            rw [hread] at hplace
            cases hplace
    · cases hx

/-- A body with a placeholder for the id of the user. -/
def userBody : String := "\x7b\"user\":\"\x7b\x7bseq_0_000000000.gid\x7d\x7d\"\x7d"

/-- The session with this body. -/
def withUser : Session := withBody userBody

theorem replay_withUser :
    withUser.Portable ∧
    (∀ (n : Nat) x, withUser.steps[n]? = some x → x.KeepsLiterals withUser.stepIds n) ∧
    ∃ d, withUser.document? "" "" none = some d ∧ d.dump (fun _ => false) = .ok d.text ∧
      FreshIds Reference.countedId d.toValue ∧ ∃ report t' created,
        Session.importDocument { baseUrl := defaultBaseUrl } [] Reference.countedId 2 d.toValue =
          .ok (.ok report, t', created) ∧
        callsOf t' = callsOf withUser := by
  have hs : withUser.Portable := portable_withBody (by decide +kernel)
  have hkeeps : ∀ (n : Nat) x, withUser.steps[n]? = some x →
      x.KeepsLiterals withUser.stepIds n := by
    intro n x hx text v htext _ inside hinside hquote
    have hbody : text = userBody := by
      rcases n with _ | _ | n
      · cases hx
        cases htext
      · cases hx
        cases htext
        rfl
      · cases hx
    subst hbody
    have hnone : ((Template.holes userBody.toList).all fun inside => !inside.contains '"') =
        true := by decide +kernel
    have hnot := List.all_eq_true.mp hnone inside hinside
    rw [List.contains_iff_mem.mpr hquote] at hnot
    cases hnot
  obtain ⟨d, hd, hdump, -, hreplay⟩ := hs.replay hkeeps "" "" none
  have hids : FreshIds Reference.countedId d.toValue := by
    apply freshIds_countedId
    have hletters : ((withUser.document? "" "" none).all fun d =>
        (documentEntries d.toValue).all fun raw => (Entry.ofValue? raw).all fun e =>
          e.sources.all fun s => !s.toList.contains 'q') = true := by decide +kernel
    rwa [hd] at hletters
  have hdisabled : ∀ x ∈ withUser.steps, x.iteration.enabled = true → ∀ n,
      Reference.countedId n ≠ x.iteration.variableName := by
    intro x hx henabled
    have hdisabled : x.iteration.enabled = false := by
      rcases List.mem_pair.mp hx with rfl | rfl <;> rfl
    rw [hdisabled] at henabled
    cases henabled
  obtain ⟨report, t', created, himport, -, hrun⟩ :=
    hreplay Reference.countedId hids hdisabled { baseUrl := defaultBaseUrl } [] 2
  have hends := hrun Environment.recordOnly (Run.performAt Environment.recordOnly 0)
    (fun _ _ => rfl) (World.ofSession withUser) (World.ofSession t') rfl rfl rfl rfl rfl ⟨rfl, rfl⟩
  exact ⟨hs, hkeeps, d, hd, hdump _ (Text.isEncodable_none d.text), hids, report, t', created,
    himport, hends.after.calls_eq⟩

/-- A body with a placeholder that starts within a text literal and ends behind it. -/
def pastLiteralBody : String := "\x7b\"a\":\x7b\"b\":\"\x7b\x7bseq_0_000000000.gid\"\x7d\x7d"

/-- The session with this body. -/
def pastLiteral : Session := withBody pastLiteralBody

/-- All references of the session name an earlier step, but the calls differ. -/
theorem not_replay_pastLiteral :
    pastLiteral.Portable ∧
    (∀ (n : Nat) x, pastLiteral.steps[n]? = some x → ∀ p, x.inputs.parameters? = some p →
      ∀ s ∈ x.sources p, ∀ reference ∈ Renaming.references s,
        Renaming.RefersBack pastLiteral.stepIds n reference) ∧
    ∃ d, pastLiteral.document? "" "" none = some d ∧ FreshIds Reference.countedId d.toValue ∧
      ∃ report t' created, Session.importDocument { baseUrl := defaultBaseUrl } []
          Reference.countedId 2 d.toValue = .ok (.ok report, t', created) ∧
        report.skipped = 0 ∧ callsOf t' ≠ callsOf pastLiteral := by
  have hs : pastLiteral.Portable := portable_withBody (by decide +kernel)
  obtain ⟨d, hd, -⟩ := hs.exists_document "" "" none
  refine ⟨hs, ?_, d, hd, ?_, ?_⟩
  · intro n x hx p hp text htext reference hreference
    rcases n with _ | _ | n
    · cases hx
      cases hp
      cases htext
    · cases hx
      cases hp
      have hown : text = pastLiteralBody := by
        simpa [Step.sources, Parameters.texts] using htext
      have hreferences : Renaming.references pastLiteralBody = ["seq_0_000000000"] := by
        decide +kernel
      rw [hown, hreferences, List.mem_singleton] at hreference
      exact ⟨0, Nat.one_pos, Or.inl (by rw [hreference]; decide)⟩
    · cases hx
  · apply freshIds_countedId
    have hletters : ((pastLiteral.document? "" "" none).all fun d =>
        (documentEntries d.toValue).all fun raw => (Entry.ofValue? raw).all fun e =>
          e.sources.all fun s => !s.toList.contains 'q') = true := by decide +kernel
    rwa [hd] at hletters
  · have hdiffer : ((pastLiteral.document? "" "" none).all fun d =>
        (Session.reported? (Session.importDocument { baseUrl := defaultBaseUrl } []
          Reference.countedId 2 d.toValue)).any fun loaded =>
            loaded.1.skipped = 0 && callsOf loaded.2 ≠ callsOf pastLiteral) = true := by
      decide +kernel
    rw [hd, Option.all_some, Option.any_eq_true] at hdiffer
    obtain ⟨⟨report, t'⟩, hreported, hboth⟩ := hdiffer
    obtain ⟨created, himport⟩ := Session.exists_of_reported? hreported
    simp only [Bool.and_eq_true, decide_eq_true_eq] at hboth
    exact ⟨report, t', created, himport, hboth.1, hboth.2⟩

end CallChain
