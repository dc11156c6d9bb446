/-
# Results of later steps

The source of an iteration has to be an earlier step. Any other expression of a step is
resolved against all results that are stored, whatever place their steps have. This module
says what difference the results from a place on make to a request: building comes to the same
with and without them, or without them it stops at a reference to a step from that place on,
whose result it reads with them. So they make a difference exactly when building comes to such
a reference while a result is stored for it.

Building with fewer results follows building with all of them step by step, up to the
reference at which it is cut short.
-/

import CallChain.Proofs.Reference.Mirrored
import CallChain.Proofs.Request.Raised
import CallChain.Proofs.Session.Consistency

namespace CallChain

theorem Fields.get?_filter {α : Type} (p : String → Bool) (fields : Fields α) (name : String) :
    get? (fields.filter fun field => p field.1) name =
      if p name then get? fields name else none := by
  induction fields with
  | nil => simp [get?]
  | cons field rest ih =>
      obtain ⟨key, value⟩ := field
      by_cases hkey : key = name
      · subst hkey
        cases hp : p key <;> simp [get?, hp, ih]
      · cases hp : p key <;> simp [get?, hp, hkey, ih]

namespace Resolver

/-- The resolver with the results of the steps before a place only. -/
def before (r : Resolver) (place : Nat) : Resolver :=
  ⟨r.results.filter fun field => (r.stepIds.take place).contains field.1, r.stepIds⟩

theorem contains_take {r : Resolver} {place n : Nat} {id : String} (hn : n < place)
    (hid : r.stepIds[n]? = some id) : (r.stepIds.take place).contains id = true := by
  rw [List.contains_iff_mem]
  apply List.mem_of_getElem?
  rw [List.getElem?_take_of_lt hn, hid]

/-- Whether a reference that is no local name leads to a step from a place on, and reads its
result. -/
structure ReadsFrom (r : Resolver) (place : Nat) (scope : Fields Value) (reference : String) :
    Prop where
  /-- It is no local name. -/
  free : scope.get? reference = none
  /-- It leads to a step from the place on. -/
  leads : ∃ n, place ≤ n ∧ r.placeOf reference = .ok (some n)
  /-- A result is stored for that. -/
  stored : ∃ v, r.lookup scope reference = .ok (some v)

/-- Whether a result with all stored results, and one with those before a place only, are the
same; or the latter is cut short at a reference to a step from the place on. -/
inductive CutShort {α : Type} (r : Resolver) (place : Nat) (scope : Fields Value) :
    Except Fault α → Except Fault α → Prop
  /-- They are the same. -/
  | same (result : Except Fault α) : CutShort r place scope result result
  /-- The latter is cut short. -/
  | stopped {reference : String} (result : Except Fault α)
    (h : r.ReadsFrom place scope reference) :
    CutShort r place scope result (.error (.step (.unknownReference reference)))

theorem CutShort.bind {α β : Type} {r : Resolver} {place : Nat} {scope : Fields Value}
    {result result' : Except Fault α} {next next' : α → Except Fault β}
    (h : r.CutShort place scope result result')
    (hnext : ∀ a, r.CutShort place scope (next a) (next' a)) :
    r.CutShort place scope (result >>= next) (result' >>= next') := by
  cases h with
  | same result =>
      cases result with
      | ok a => exact hnext a
      | error fault => exact .same _
  | stopped result h => exact .stopped _ h

variable {r : Resolver} (h : r.Owned) (place : Nat) (scope : Fields Value)

include h

theorem Owned.before : (r.before place).Owned := by
  intro id hid
  rw [Fields.has, Resolver.before, Fields.get?_filter (r.stepIds.take place).contains] at hid
  apply h
  split at hid
  · exact hid
  · cases hid

omit h in
/-- What a reference to a step reads is the result of the step at its place. -/
theorem lookup_eq_storedAt {reference : String} {n : Nat} (hfree : scope.get? reference = none)
    (hleads : r.placeOf reference = .ok (some n)) :
    r.lookup scope reference = .ok (r.storedAt n) := by
  rw [lookup, hfree]
  rw [placeOf] at hleads
  cases hid : r.idOf reference with
  | error problem =>
      rw [hid] at hleads
      cases hleads
  | ok id? =>
      rw [hid] at hleads
      obtain ⟨id, rfl, hplace⟩ := Option.bind_eq_some_iff.mp (Except.ok.inj hleads)
      obtain ⟨hlength, rfl, -⟩ := List.idxOf?_eq_some_iff.mp hplace
      rw [storedAt, List.getElem?_eq_getElem hlength]
      rfl

/-- A reference reads the same with the results before the place only, or it reads one from
there on with all results, and nothing with those. -/
theorem Owned.lookup_before (reference : String) :
    (r.before place).lookup scope reference = r.lookup scope reference ∨
      r.ReadsFrom place scope reference ∧
        (r.before place).lookup scope reference = .ok none := by
  unfold lookup
  cases hscope : scope.get? reference with
  | some v => exact Or.inl rfl
  | none =>
      dsimp only
      rw [(h.before place).idOf_eq, Resolver.before, ← h.idOf_eq]
      cases hid : r.idOf reference with
      | error problem => exact Or.inl rfl
      | ok id? =>
          cases id? with
          | none => exact Or.inl rfl
          | some id =>
              have hget := Fields.get?_filter (r.stepIds.take place).contains r.results id
              by_cases hearlier : (r.stepIds.take place).contains id = true
              · rw [if_pos hearlier] at hget
                exact Or.inl (congrArg Except.ok hget)
              · rw [if_neg hearlier] at hget
                cases hresult : r.results.get? id with
                | none => exact Or.inl (congrArg Except.ok (hget.trans hresult.symm))
                | some v =>
                    refine Or.inr ⟨⟨hscope, ?_, v, ?_⟩, congrArg Except.ok hget⟩
                    · obtain ⟨n, hn, hleads⟩ := h.exists_place hid
                      refine ⟨n, ?_, hleads⟩
                      by_contra hlt
                      exact hearlier (contains_take (Nat.lt_of_not_le hlt) hn)
                    · rw [lookup, hscope, hid]
                      exact congrArg Except.ok hresult

theorem Owned.cutShort_resolve (expression : String) :
    r.CutShort place scope (r.resolve scope expression)
      ((r.before place).resolve scope expression) := by
  rw [resolve, resolve]
  rcases h.lookup_before place scope (Expression.split expression).reference with
    hsame | ⟨hreads, hnone⟩
  · rw [hsame]
    exact .same _
  · rw [hnone]
    exact .stopped _ hreads

theorem Owned.lifts_cutShort :
    r.Lifts (r.before place) scope fun _ => r.CutShort place scope where
  resolve := h.cutShort_resolve place scope
  ok := fun _ => .same _
  error := fun _ => .same _
  bind := CutShort.bind

end Resolver

/-! ## Coming to a reference -/

namespace Builder

/-- Whether building a request comes to a reference to a step from a place on: with the results
of the steps before the place only, it is the first reference without a result. -/
structure ComesTo (b : Builder) (x : Step) (r : Resolver) (place : Nat) (scope : Fields Value)
    (reference : String) (n : Nat) : Prop where
  /-- The step is not before the place. -/
  behind : place ≤ n
  /-- The reference leads to it. -/
  leads : r.placeOf reference = .ok (some n)
  /-- Without the results from the place on, building ends there. -/
  stops : b.build x (r.before place) scope = .error (.step (.unknownReference reference))

/-- Whether building a request at a place comes to a reference to a later step while a result is
stored for that. -/
def ReadsLater (b : Builder) (x : Step) (r : Resolver) (place : Nat) (scope : Fields Value) :
    Prop :=
  ∃ reference n, b.ComesTo x r place scope reference n ∧ place < n ∧
    (r.storedAt n).isSome = true

variable {b : Builder} {x : Step} {r : Resolver} {place n : Nat} {scope : Fields Value}
  {reference : String}

theorem ComesTo.lookup_eq (hcomes : b.ComesTo x r place scope reference n) :
    r.lookup scope reference = .ok (r.storedAt n) := by
  apply Resolver.lookup_eq_storedAt _ _ hcomes.leads
  have hraised := raises_build x (r.before place) scope b _ hcomes.stops
  rw [Resolver.Raised, Resolver.lookup] at hraised
  split at hraised
  · cases hraised
  · next hfree => exact hfree

/-- Building ends at a reference without a result. -/
theorem ComesTo.build_eq (h : r.Owned) (hcomes : b.ComesTo x r place scope reference n)
    (hnone : r.storedAt n = none) :
    b.build x r scope = .error (.step (.unknownReference reference)) := by
  have hcut := lifts_build (h.lifts_cutShort place scope) x b
  have hstops := hcomes.stops
  generalize b.build x r scope = result at hcut
  generalize b.build x (r.before place) scope = result' at hcut hstops
  cases hcut with
  | same result => exact hstops
  | @stopped other result hreads =>
      cases hstops
      obtain ⟨v, hv⟩ := hreads.stored
      rw [hcomes.lookup_eq, hnone] at hv
      cases hv

/-- The results from a place on make no difference to a request exactly when no result is
stored for any reference to them that building comes to. -/
theorem build_before_iff (h : r.Owned) :
    b.build x (r.before place) scope = b.build x r scope ↔
      ∀ reference n, b.ComesTo x r place scope reference n → r.storedAt n = none := by
  constructor
  · intro hsame reference n hcomes
    have hstops := hcomes.stops
    rw [hsame] at hstops
    have hraised : r.lookup scope reference = .ok none := raises_build x r scope b _ hstops
    rw [hcomes.lookup_eq] at hraised
    exact Except.ok.inj hraised
  · intro hnone
    have hcut := lifts_build (h.lifts_cutShort place scope) x b
    generalize hresult : b.build x r scope = result at hcut
    generalize hstops : b.build x (r.before place) scope = result' at hcut
    cases hcut with
    | same result => rfl
    | @stopped reference result hreads =>
        obtain ⟨n, hn, hleads⟩ := hreads.leads
        have hcomes : b.ComesTo x r place scope reference n := ⟨hn, hleads, hstops⟩
        obtain ⟨v, hv⟩ := hreads.stored
        rw [hcomes.lookup_eq, hnone reference n hcomes] at hv
        cases hv

/-- Where nothing is stored for the step at the place itself, only later steps matter. -/
theorem build_before_iff_not_readsLater (h : r.Owned) (hown : r.storedAt place = none) :
    b.build x (r.before place) scope = b.build x r scope ↔ ¬ b.ReadsLater x r place scope := by
  rw [build_before_iff h]
  constructor
  · rintro hnone ⟨reference, n, hcomes, -, hstored⟩
    rw [hnone reference n hcomes] at hstored
    cases hstored
  · intro hlater reference n hcomes
    rcases Nat.eq_or_lt_of_le hcomes.behind with rfl | hlt
    · exact hown
    · by_contra hstored
      exact hlater ⟨reference, n, hcomes, hlt, Option.isSome_iff_ne_none.mpr hstored⟩

end Builder

end CallChain
