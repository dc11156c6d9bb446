/-
# What the building of a request can raise

A request that cannot be built is a step error as a rule: a parameter is missing, a reference
names nothing, a body is no JSON. Apart from these there are numbers with more digits than are
read, bodies that are no texts, texts that cannot be encoded, and texts whose nesting is too
deep. A reference that is reported as unknown does name nothing: neither a local value nor a
stored result. Where a request that has been built cannot be prepared, it is never a step error.

A request is put together of expressions in one way, whatever is asked about it. So the module
first shows once that what holds for expressions holds for requests (`Resolver.Lifts`).
-/

import CallChain.Request.Building
import CallChain.Session.Iterating

namespace CallChain

/-- Whether a fault is one that the building of a request can raise. -/
def Fault.OfBuilding : Fault → Prop
  | step _ | badNumber _ | bodyNotText | notEncoded | nestedTooDeep => True
  | _ => False

/-- Whether a fault is one that the building of a request raises with a resolver and a scope: a
reference that it reports names nothing there. -/
def Resolver.Raised (r : Resolver) (scope : Fields Value) : Fault → Prop
  | .step (.unknownReference reference) => r.lookup scope reference = .ok none
  | fault => fault.OfBuilding

theorem Resolver.Raised.ofBuilding {r : Resolver} {scope : Fields Value} {fault : Fault}
    (h : r.Raised scope fault) : fault.OfBuilding := by
  cases fault with
  | step e => trivial
  | _ => exact h

/-- Whether whatever a result raises has a property. -/
def Raises {α : Type} (p : Fault → Prop) (result : Except Fault α) : Prop :=
  ∀ fault, result = .error fault → p fault

section Rules

variable {α β : Type} {p : Fault → Prop}

theorem raises_ok (a : α) : Raises p (.ok a) :=
  fun _ h => nomatch h

theorem raises_error {fault : Fault} (h : p fault) : Raises p (.error fault : Except Fault α) := by
  rintro _ ⟨⟩
  exact h

theorem Raises.bind {result : Except Fault α} {next : α → Except Fault β} (h : Raises p result)
    (hnext : ∀ a, Raises p (next a)) : Raises p (result >>= next) := by
  cases result with
  | ok a => exact hnext a
  | error fault => exact raises_error (h fault rfl)

end Rules

/-! ## From expressions to requests -/

/-- Whether a relation between what one resolver gives and what another gives goes from
expressions up to requests: it holds for expressions, where both come to the same value or raise
the same fault of building, and where what follows is related too. -/
structure Resolver.Lifts (r r' : Resolver) (scope : Fields Value)
    (Q : ∀ α : Type, Except Fault α → Except Fault α → Prop) : Prop where
  /-- It holds for expressions. -/
  resolve : ∀ expression, Q Value (r.resolve scope expression) (r'.resolve scope expression)
  /-- It holds where both come to the same value. -/
  ok : ∀ {α : Type} (a : α), Q α (.ok a) (.ok a)
  /-- It holds where both raise the same fault. -/
  error : ∀ {α : Type} {fault : Fault}, r.Raised scope fault → Q α (.error fault) (.error fault)
  /-- It is kept by what follows. -/
  bind : ∀ {α β : Type} {result result' : Except Fault α} {next next' : α → Except Fault β},
    Q α result result' → (∀ a, Q β (next a) (next' a)) →
      Q β (result >>= next) (result' >>= next')

section Lifting

variable {r r' : Resolver} {scope : Fields Value}
  {Q : ∀ α : Type, Except Fault α → Except Fault α → Prop} (h : r.Lifts r' scope Q)

include h

namespace Resolver.Lifts

theorem map {α β : Type} {result result' : Except Fault α} (hresult : Q α result result')
    (f : α → β) : Q β (result.map f) (result'.map f) := by
  have hbind : ∀ result : Except Fault α, result.map f = result >>= fun a => .ok (f a) := by
    intro result
    cases result <;> rfl
  rw [hbind, hbind]
  exact h.bind hresult fun a => h.ok (f a)

theorem renderPieces (pieces : List Piece) :
    Q _ (r.renderPieces scope pieces) (r'.renderPieces scope pieces) := by
  induction pieces with
  | nil => exact h.ok _
  | cons piece pieces ih =>
      have hpiece : Q _ (r.renderPiece scope piece) (r'.renderPiece scope piece) := by
        cases piece with
        | literal text => exact h.ok _
        | hole inner => exact h.map (h.resolve _) _
      have hbind : ∀ r : Resolver, r.renderPieces scope (piece :: pieces) =
          r.renderPiece scope piece >>= fun text =>
            (r.renderPieces scope pieces).map (text ++ ·) := by
        intro r
        rw [Resolver.renderPieces]
        cases r.renderPiece scope piece <;> rfl
      rw [hbind, hbind]
      exact h.bind hpiece fun text => h.map ih _

theorem interpolate (text : String) :
    Q _ (r.interpolate scope text) (r'.interpolate scope text) := by
  unfold Resolver.interpolate
  split
  · exact h.resolve _
  · exact h.map (h.renderPieces _) _

end Resolver.Lifts

namespace Body

theorem lifts_checked (text : String) : Q _ (checked text) (checked text) := by
  unfold checked
  split
  · exact h.ok _
  · next e _ => cases e <;> exact h.error trivial

mutual

theorem lifts_fill (v : Value) : Q _ (fill r scope v) (fill r' scope v) := by
  cases v with
  | list items => exact h.map (lifts_fillItems items) _
  | object fields => exact h.map (lifts_fillFields fields) _
  | text s =>
      rw [fill, fill]
      split
      · exact h.interpolate s
      · exact h.ok _
  | _ => exact h.ok _

theorem lifts_fillItems (items : List Value) :
    Q _ (fillItems r scope items) (fillItems r' scope items) := by
  cases items with
  | nil => exact h.ok _
  | cons item items =>
      exact h.bind (lifts_fill item) fun _ => h.bind (lifts_fillItems items) fun _ => h.ok _

theorem lifts_fillFields (fields : List (String × Value)) :
    Q _ (fillFields r scope fields) (fillFields r' scope fields) := by
  cases fields with
  | nil => exact h.ok _
  | cons field fields =>
      exact h.bind (lifts_fill field.2) fun _ => h.bind (lifts_fillFields fields) fun _ => h.ok _

end

mutual

theorem lifts_checkWritable (levels : Nat) (v : Value) :
    Q _ (checkWritable levels v) (checkWritable levels v) := by
  cases v with
  | int n =>
      rw [checkWritable]
      split
      · exact h.ok _
      · exact h.error trivial
  | list items =>
      cases levels with
      | zero => exact h.error trivial
      | succ levels => exact lifts_checkWritableItems levels items
  | object fields =>
      cases levels with
      | zero => exact h.error trivial
      | succ levels => exact lifts_checkWritableFields levels fields
  | _ => cases levels <;> exact h.ok _

theorem lifts_checkWritableItems (levels : Nat) (items : List Value) :
    Q _ (checkWritableItems levels items) (checkWritableItems levels items) := by
  cases items with
  | nil => exact h.ok _
  | cons item items =>
      exact h.bind (lifts_checkWritable levels item) fun _ => lifts_checkWritableItems levels items

theorem lifts_checkWritableFields (levels : Nat) (fields : List (String × Value)) :
    Q _ (checkWritableFields levels fields) (checkWritableFields levels fields) := by
  cases fields with
  | nil => exact h.ok _
  | cons field fields =>
      exact h.bind (lifts_checkWritable levels field.2) fun _ =>
        lifts_checkWritableFields levels fields

end

theorem lifts_written (v : Value) : Q _ (written v) (written v) :=
  h.bind (lifts_checkWritable h _ v) fun _ => h.ok _

theorem lifts_fillPieces (place : Place) (pieces : List Piece) :
    Q _ (fillPieces r scope place pieces) (fillPieces r' scope place pieces) := by
  induction pieces generalizing place with
  | nil => exact h.ok _
  | cons piece pieces ih =>
      cases piece with
      | literal text => exact h.map (ih _) _
      | hole inner =>
          exact h.bind (h.resolve _) fun _ => h.bind (ih place) fun _ => h.ok _

theorem lifts_ofTemplate (template : String) :
    Q _ (ofTemplate r scope template) (ofTemplate r' scope template) := by
  unfold ofTemplate
  split
  · split
    · split
      · exact h.error trivial
      · exact h.bind (lifts_fill h _) (lifts_written h)
    · exact h.error trivial
    · exact h.error trivial
    · exact h.bind (lifts_fillPieces h _ _) fun _ => lifts_checked h _
  · exact lifts_checked h template

end Body

namespace Builder

variable (x : Step)

theorem lifts_parameterValue (name : String) (entered : Value) :
    Q _ (parameterValue x r scope name entered) (parameterValue x r' scope name entered) := by
  unfold parameterValue
  split
  · exact h.resolve _
  · split
    · split
      · exact h.interpolate _
      · exact h.ok _
    · exact h.ok _

theorem lifts_fillPath (b : Builder) (names : List String) (path : String) :
    Q _ (b.fillPath x r scope names path) (b.fillPath x r' scope names path) := by
  induction names generalizing path with
  | nil => exact h.ok _
  | cons name names ih =>
      apply h.bind (lifts_parameterValue h x name _)
      intro v
      dsimp only
      split
      · exact h.error trivial
      · split
        · exact h.error trivial
        · exact ih _

theorem lifts_queryEntries (names : List String) :
    Q _ (queryEntries x r scope names) (queryEntries x r' scope names) := by
  induction names with
  | nil => exact h.ok _
  | cons name names ih =>
      exact h.bind (lifts_parameterValue h x name _) fun _ => h.bind ih fun _ => h.ok _

theorem lifts_body : Q _ (body x r scope) (body x r' scope) := by
  unfold body
  split
  · split
    · split
      · exact h.ok _
      · exact h.map (Body.lifts_ofTemplate h _) _
    · exact h.error trivial
  · exact h.ok _

/-- What holds for expressions holds for the request that is built of them. -/
theorem lifts_build (b : Builder) : Q _ (b.build x r scope) (b.build x r' scope) := by
  apply h.bind (lifts_fillPath h x b _ _)
  intro path
  apply h.bind (h.bind (lifts_queryEntries h x _) fun _ => h.ok _)
  intro query
  exact h.bind (lifts_body h x) fun _ => h.ok _

end Builder

end Lifting

/-! ## What is raised -/

theorem Resolver.raises_resolve (r : Resolver) (scope : Fields Value) (expression : String) :
    Raises (r.Raised scope) (r.resolve scope expression) := by
  unfold resolve
  dsimp only
  split
  · cases Value.walk _ _ with
    | ok v => exact raises_ok v
    | error problem => exact raises_error trivial
  · next hnone => exact raises_error hnone
  · exact raises_error trivial

theorem Resolver.lifts_raises (r : Resolver) (scope : Fields Value) :
    r.Lifts r scope fun _ result _ => Raises (r.Raised scope) result where
  resolve := r.raises_resolve scope
  ok := raises_ok
  error := raises_error
  bind := Raises.bind

/-- What the building of a request raises. -/
theorem Builder.raises_build (x : Step) (r : Resolver) (scope : Fields Value) (b : Builder) :
    Raises (r.Raised scope) (b.build x r scope) :=
  lifts_build (r.lifts_raises scope) x b

/-- The source of an iteration raises no other faults. -/
theorem Iteration.raises_items (i : Iteration) (r : Resolver) (place : Nat) :
    Raises (r.Raised []) (i.items r place) := by
  have hlist : ∀ expression, Raises (r.Raised []) (items.listOf r expression) := by
    intro expression
    unfold items.listOf
    split
    · next fault hresolve => exact raises_error (r.raises_resolve [] expression fault hresolve)
    · exact raises_ok _
    · exact raises_error trivial
  unfold items
  dsimp only
  split
  · exact raises_error trivial
  · split
    · exact raises_error trivial
    · split
      · exact raises_error trivial
      · exact hlist _
    · exact hlist _

namespace Request

/-! ## Preparing a request -/

variable {request : Request} {half : Char → Bool}

/-- A request cannot be prepared where its body cannot be encoded, or its address cannot be
prepared. -/
theorem prepare_eq_error_iff {fault : Fault} : request.prepare half = .error fault ↔
    (request.hasEncodableBody half = false ∧ fault = .notEncoded) ∨
      request.hasEncodableBody half = true ∧
        ∃ problem, Address.prepare request.url request.query half = .error problem ∧
          fault = .badAddress problem := by
  rw [prepare]
  cases request.hasEncodableBody half with
  | false => simp [eq_comm]
  | true =>
      cases Address.prepare request.url request.query half with
      | error problem =>
          change Except.error (Fault.badAddress problem) = Except.error fault ↔ _
          simp [eq_comm]
      | ok address =>
          change Except.ok address = Except.error fault ↔ _
          simp

theorem prepare_eq_ok (hbody : request.hasEncodableBody half = true) {address : String}
    (haddress : Address.prepare request.url request.query half = .ok address) :
    request.prepare half = .ok address := by
  rw [prepare, if_pos hbody, haddress]
  rfl

theorem ne_step_of_prepare_eq_error {fault : Fault} (h : request.prepare half = .error fault) :
    ∀ e, fault ≠ .step e := by
  rcases prepare_eq_error_iff.mp h with ⟨-, rfl⟩ | ⟨-, problem, -, rfl⟩ <;> exact nofun

end Request

end CallChain
