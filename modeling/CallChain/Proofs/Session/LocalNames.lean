/-
# The local names of an item

The calls of an iterated step know two local names: that of the item, which is checked, and
that of its place in the source, which is made from it and is not. Local names come before
steps, so neither may be a reference to a step. The check sees to the first. The second ends
in `_index`: no id that is given out does, and no place is written so. References to steps are
therefore resolved past the local names of every item.
-/

import CallChain.Proofs.Reference.Preserved
import CallChain.Session.Iterating

namespace CallChain

/-! ## What an expression asks of local names -/

namespace Resolver

variable {r : Resolver} {scope scope' : Fields Value} {expression : String}

/-- Whether a reference names a step: by an id of the sequence, or by a place. -/
def NamesStep (r : Resolver) (reference : String) : Prop :=
  reference ∈ r.stepIds ∨ Reference.isPlace reference = true

/-- Of the local names an expression asks for its reference only. -/
theorem resolve_congr (h : scope.get? (Expression.split expression).reference =
    scope'.get? (Expression.split expression).reference) :
    r.resolve scope expression = r.resolve scope' expression := by
  rw [resolve, resolve, lookup, lookup, h]

/-- A local name has its own value, whatever the steps are. -/
theorem resolve_local {v : Value}
    (h : scope.get? (Expression.split expression).reference = some v) :
    r.resolve scope expression =
      (v.walk (Expression.split expression).path).mapError .badNumber := by
  rw [resolve, lookup, h]

/-- No local name that is apart from the steps names one. -/
theorem Apart.get?_of_namesStep (h : Apart scope r) {reference : String}
    (hnames : r.NamesStep reference) : scope.get? reference = none := by
  rcases hnames with hmem | hplace
  · exact h.get?_eq_none hmem
  · rw [← Option.not_isSome_iff_eq_none]
    intro hsome
    rw [Reference.isPlace, (h reference hsome).2] at hplace
    cases hplace

end Resolver

/-! ## The two names -/

namespace Iteration

variable {name : String} {ids ids' : List String}

/-- What the local names of an item are names of. -/
theorem get?_itemScope (name : String) (index : Nat) (item : Value) (other : String) :
    (itemScope name index item).get? other =
      if name = other then some item
      else if name ++ "_index" = other then some (.int index) else none := by
  rw [itemScope, Fields.get?, Fields.get?, Fields.get?]

/-- The name of a place is longer than that of the item. -/
theorem index_ne (name : String) : name ≠ name ++ "_index" := by
  intro heq
  have hlength := congrArg String.length heq
  rw [String.length_append] at hlength
  exact absurd hlength (Nat.ne_of_lt (Nat.lt_add_of_pos_right (by decide)))

/-- No id that is given out ends as the name of the place of an item does. -/
theorem not_isGenerated_index (name : String) : ¬ Reference.IsGenerated (name ++ "_index") := by
  rintro ⟨clock, suffix, hid, -, -, hlength, hsuffix⟩
  have hindex : ['_', 'i', 'n', 'd', 'e', 'x'] <:+ (name ++ "_index").toList :=
    ⟨name.toList, by rw [String.toList_append]; rfl⟩
  have hend : suffix <:+ (name ++ "_index").toList :=
    ⟨['s', 'e', 'q', '_'] ++ (clock ++ ['_']), by rw [hid]; simp⟩
  have hinside := List.suffix_of_suffix_length_le hindex hend (by rw [hlength]; decide)
  have hlow := hsuffix '_' (hinside.subset List.mem_cons_self)
  exact absurd hlow (by decide)

/-- No place is written as the name of the place of an item is. -/
theorem placeDigits?_index (name : String) :
    Reference.placeDigits? (name ++ "_index") = none := by
  have hlast : (name ++ "_index").toList.getLast? = some 'x' := by
    rw [String.toList_append]
    exact List.getLast?_append_of_ne_nil _ (by decide)
  cases h : Reference.placeDigits? (name ++ "_index") with
  | none => rfl
  | some digits =>
      obtain ⟨hdigits, hlist | hlist⟩ := Reference.eq_of_placeDigits? h
      · rw [hlist] at hlast
        by_cases hempty : digits = []
        · rw [hempty] at hlast
          exact absurd hlast (by decide)
        · rw [List.getLast?_append_of_ne_nil _ hempty] at hlast
          exact absurd (hdigits 'x' (List.mem_of_getLast? hlast)) (by decide)
      · rw [hlist, ← List.append_assoc, List.getLast?_concat] at hlast
        cases hlast

/-! ## Names that are accepted -/

/-- A name is accepted just if it is a name, and no id of the sequence and no place. -/
theorem checkVariable_eq_ok_iff : checkVariable name ids = .ok () ↔
    isVariableName name = true ∧ name ∉ ids ∧ Reference.placeDigits? name = none := by
  rw [← Option.not_isSome_iff_eq_none, ← Reference.isPlace, ← List.contains_iff_mem]
  unfold checkVariable
  cases isVariableName name <;> cases Reference.isPlace name <;> cases ids.contains name <;>
    simp

/-- A name that is no id is checked alike in two sequences. -/
theorem checkVariable_congr (h : name ∉ ids) (h' : name ∉ ids') :
    checkVariable name ids' = checkVariable name ids := by
  have hnot : ∀ {ids : List String}, name ∉ ids → ids.contains name = false := by
    intro ids h
    rw [Bool.eq_false_iff, ne_eq, List.contains_iff_mem]
    exact h
  rw [checkVariable, checkVariable, hnot h, hnot h']

theorem apart_itemScope {r : Resolver} (hshape : ∀ id ∈ r.stepIds, Reference.IsGenerated id)
    (hcheck : checkVariable name r.stepIds = .ok ()) (index : Nat) (item : Value) :
    Resolver.Apart (itemScope name index item) r := by
  obtain ⟨-, hnot, hplace⟩ := checkVariable_eq_ok_iff.mp hcheck
  intro other hother
  rw [get?_itemScope] at hother
  split at hother
  · next heq => exact heq ▸ ⟨hnot, hplace⟩
  · split at hother
    · next heq =>
      rw [← heq]
      exact ⟨fun hmem => not_isGenerated_index name (hshape _ hmem), placeDigits?_index name⟩
    · cases hother

/-- Whatever name is accepted for the item of an iteration, references to steps are resolved
in the scope of each item as they are without local names, with the same value or the same
error; the two local names have the values of the item and of its place. -/
theorem resolve_itemScope {r : Resolver} {i : Iteration}
    (hshape : ∀ id ∈ r.stepIds, Reference.IsGenerated id)
    (haccepted : checkVariable i.variableName r.stepIds = .ok ()) (index : Nat) (item : Value)
    (expression : String) :
    let e := Expression.split expression
    let resolved := r.resolve (itemScope i.variableName index item) expression
    (r.NamesStep e.reference → resolved = r.resolve [] expression) ∧
    (e.reference = i.variableName → resolved = (item.walk e.path).mapError .badNumber) ∧
    (e.reference = i.variableName ++ "_index" →
      resolved = ((Value.int index).walk e.path).mapError .badNumber) := by
  refine ⟨fun hnames => ?_, fun hname => ?_, fun hindex => ?_⟩
  · exact Resolver.resolve_congr
      ((apart_itemScope hshape haccepted index item).get?_of_namesStep hnames)
  · apply Resolver.resolve_local
    rw [get?_itemScope, if_pos hname.symm]
  · apply Resolver.resolve_local
    rw [get?_itemScope, hindex, if_neg (index_ne i.variableName), if_pos rfl]

/-- An iteration whose item has a name that ids begin with. -/
def closeNames : Iteration := { enabled := true, loopVariable := " seq_0 " }

theorem resolve_itemScope_closeNames :
    let r := Resolver.withUserStored
    let scope := itemScope closeNames.variableName 7 (.text "x")
    (∀ id ∈ r.stepIds, Reference.IsGenerated id) ∧
    checkVariable closeNames.variableName r.stepIds = .ok () ∧
    r.NamesStep "seq_0_000000000" ∧ r.NamesStep "step1" ∧
    r.resolve scope "seq_0_000000000.gid" = .ok (.text "u1") ∧
    r.resolve scope "step1.gid" = .error (.step (.unknownReference "step1")) ∧
    r.resolve scope "seq_0" = .ok (.text "x") ∧
    r.resolve scope "seq_0_index" = .ok (.int 7) := by
  intro r scope
  have hshape := Resolver.sound_withUserStored.generated
  have haccepted : checkVariable closeNames.variableName r.stepIds = .ok () := by decide +kernel
  have hid : r.NamesStep "seq_0_000000000" := Or.inl (by decide +kernel)
  have hplace : r.NamesStep "step1" := Or.inr (by decide +kernel)
  have hread := resolve_itemScope hshape haccepted 7 (.text "x")
  refine ⟨hshape, haccepted, hid, hplace, ?_, ?_, ?_, ?_⟩
  · exact ((hread "seq_0_000000000.gid").1 hid).trans (by decide +kernel)
  · exact ((hread "step1.gid").1 hplace).trans (by decide +kernel)
  · exact ((hread "seq_0").2.1 (by decide +kernel)).trans (by decide +kernel)
  · exact ((hread "seq_0_index").2.2 (by decide +kernel)).trans (by decide +kernel)

end Iteration

end CallChain
