/-
# Ordered fields

Objects, parameters, variable mappings, scopes and result stores all hold values
by name, in the order in which the names were first written. `Fields` is that
order made explicit: a list of named values in which `set` replaces in place or
appends. Lookups take the first field of a name, and every operation here keeps
the names distinct when they were.
-/

universe u v

namespace CallChain

/-- Values by name, in the order in which the names were first written. -/
abbrev Fields (α : Type u) := List (String × α)

namespace Fields

variable {α : Type u} {β : Type v}

/-- The names, in order. -/
def keys (fields : Fields α) : List String := fields.map Prod.fst

/-- The value of a name. -/
def get? (fields : Fields α) (name : String) : Option α :=
  match fields with
  | [] => none
  | (key, value) :: rest => if key = name then some value else get? rest name

/-- Whether a name has a value. -/
def has (fields : Fields α) (name : String) : Bool := (get? fields name).isSome

/-- The fields with one name bound anew: in its old place, or at the end. -/
def set (fields : Fields α) (name : String) (value : α) : Fields α :=
  match fields with
  | [] => [(name, value)]
  | (key, old) :: rest =>
    if key = name then (key, value) :: rest else (key, old) :: set rest name value

/-- The fields without a name. -/
def erase (fields : Fields α) (name : String) : Fields α :=
  fields.filter fun field => field.1 ≠ name

/-- The fields with every field of `later` bound anew, in order. -/
def merge (fields later : Fields α) : Fields α :=
  later.foldl (fun merged field => set merged field.1 field.2) fields

/-- The fields that named values make when they are bound one after another: each
name at its first place, with its last value. -/
def ofEntries (entries : List (String × α)) : Fields α := merge [] entries

/-- The fields with each value replaced by its image. -/
def mapValues (f : α → β) (fields : Fields α) : Fields β :=
  fields.map fun field => (field.1, f field.2)

/-- The fields with each value replaced by its image, if every value has one. -/
def mapValues? (f : α → Option β) (fields : Fields α) : Option (Fields β) :=
  fields.mapM fun field => (f field.2).map (field.1, ·)

/-- No name has two values. -/
def Distinct (fields : Fields α) : Prop := (keys fields).Nodup

@[simp] theorem get?_set_self (fields : Fields α) (name : String) (value : α) :
    get? (set fields name value) name = some value := by
  induction fields with
  | nil => simp [set, get?]
  | cons field rest ih =>
    obtain ⟨key, old⟩ := field
    by_cases h : key = name <;> simp [set, get?, h, ih]

theorem get?_set_of_ne (fields : Fields α) {name other : String} (value : α)
    (hne : name ≠ other) : get? (set fields name value) other = get? fields other := by
  induction fields with
  | nil => simp [set, get?, hne]
  | cons field rest ih =>
    obtain ⟨key, old⟩ := field
    by_cases h : key = name
    · subst h; simp [set, get?, hne]
    · by_cases ho : key = other
      · subst ho; simp [set, get?, h]
      · simp [set, get?, h, ho, ih]

theorem keys_set (fields : Fields α) (name : String) (value : α) :
    keys (set fields name value) =
      if name ∈ keys fields then keys fields else keys fields ++ [name] := by
  induction fields with
  | nil => simp [set, keys]
  | cons field rest ih =>
    obtain ⟨key, old⟩ := field
    by_cases h : key = name
    · subst h; simp [set, keys]
    · have hne : ¬name = key := fun e => h e.symm
      simp only [keys] at ih
      simp only [set, h, if_false, keys, List.map_cons, List.mem_cons, hne, false_or, ih]
      by_cases hr : name ∈ rest.map Prod.fst <;> simp [hr]

theorem get?_eq_none_iff (fields : Fields α) (name : String) :
    get? fields name = none ↔ name ∉ keys fields := by
  induction fields with
  | nil => simp [get?, keys]
  | cons field rest ih =>
    obtain ⟨key, value⟩ := field
    by_cases h : key = name
    · subst h; simp [get?, keys]
    · have hne : ¬name = key := fun e => h e.symm
      simp only [keys] at ih
      simp [get?, keys, h, hne, ih]

@[simp] theorem get?_erase_self (fields : Fields α) (name : String) :
    get? (erase fields name) name = none := by
  rw [get?_eq_none_iff]
  simp [keys, erase]

theorem get?_erase_of_ne (fields : Fields α) {name other : String} (hne : name ≠ other) :
    get? (erase fields name) other = get? fields other := by
  induction fields with
  | nil => rfl
  | cons field rest ih =>
    obtain ⟨key, value⟩ := field
    simp only [erase, ne_eq, decide_not] at ih
    by_cases h : key = name
    · subst h; simp [erase, get?, hne, ih]
    · by_cases ho : key = other
      · subst ho; simp [erase, get?, h]
      · simp [erase, get?, h, ho, ih]

theorem erase_set (fields : Fields α) (name : String) (value : α) :
    erase (set fields name value) name = erase fields name := by
  induction fields with
  | nil => simp [set, erase]
  | cons field rest ih =>
    obtain ⟨key, old⟩ := field
    rw [set]
    split
    · next heq => simp [erase, heq]
    · next hne => simpa [erase, hne] using ih

theorem erase_erase (fields : Fields α) (name : String) :
    erase (erase fields name) name = erase fields name := by
  simp [erase, List.filter_filter]

@[simp] theorem keys_mapValues (f : α → β) (fields : Fields α) :
    keys (mapValues f fields) = keys fields := by
  simp [keys, mapValues]

theorem get?_mapValues (f : α → β) (fields : Fields α) (name : String) :
    get? (mapValues f fields) name = (get? fields name).map f := by
  induction fields with
  | nil => rfl
  | cons field rest ih =>
    obtain ⟨key, value⟩ := field
    simp only [mapValues] at ih
    by_cases h : key = name <;> simp [mapValues, get?, h, ih]

theorem Distinct.set {fields : Fields α} (h : Distinct fields) (name : String) (value : α) :
    Distinct (Fields.set fields name value) := by
  unfold Distinct at *
  rw [keys_set]
  split
  · exact h
  · next hname =>
    rw [List.nodup_append]
    refine ⟨h, by simp, ?_⟩
    intro a ha b hb hab
    simp at hb
    exact hname (hb ▸ hab ▸ ha)

theorem Distinct.erase {fields : Fields α} (h : Distinct fields) (name : String) :
    Distinct (Fields.erase fields name) :=
  List.Nodup.sublist (List.filter_sublist.map Prod.fst) h

theorem Distinct.merge {fields : Fields α} (h : Distinct fields) (later : Fields α) :
    Distinct (Fields.merge fields later) := by
  unfold Fields.merge
  induction later generalizing fields with
  | nil => exact h
  | cons field rest ih => exact ih (h.set field.1 field.2)

/-- However often names are bound, each is bound once in the end. -/
theorem distinct_ofEntries (entries : List (String × α)) : Distinct (ofEntries entries) :=
  Distinct.merge (by simp [Distinct, keys]) entries

theorem mem_of_get?_eq_some {fields : Fields α} {name : String} {value : α}
    (h : get? fields name = some value) : (name, value) ∈ fields := by
  induction fields with
  | nil => cases h
  | cons field rest ih =>
    obtain ⟨key, first⟩ := field
    by_cases hname : key = name
    · rw [get?, if_pos hname] at h
      cases h
      rw [hname]
      exact List.mem_cons_self
    · rw [get?, if_neg hname] at h
      exact List.mem_cons_of_mem _ (ih h)

/-- Of distinct names, each has the value that stands behind it. -/
theorem get?_eq_some_iff {fields : Fields α} (h : Distinct fields) {name : String} {value : α} :
    get? fields name = some value ↔ (name, value) ∈ fields := by
  refine ⟨mem_of_get?_eq_some, fun hmem => ?_⟩
  induction fields with
  | nil => cases hmem
  | cons field rest ih =>
    obtain ⟨hkey, hrest⟩ := List.nodup_cons.mp h
    rcases List.mem_cons.mp hmem with rfl | hmem
    · exact if_pos rfl
    · have hname : field.1 ≠ name := fun e => hkey (List.mem_map.mpr ⟨_, hmem, e.symm⟩)
      rw [get?, if_neg hname]
      exact ih hrest hmem

/-- A name without a value is bound behind all others. -/
theorem set_of_not_mem {fields : Fields α} {name : String} (h : name ∉ keys fields) (value : α) :
    set fields name value = fields ++ [(name, value)] := by
  induction fields with
  | nil => rfl
  | cons field rest ih =>
    simp only [keys, List.map_cons, List.mem_cons, not_or] at h
    rw [set, if_neg (Ne.symm h.1), ih h.2, List.cons_append]

theorem Distinct.of_append {fields later : Fields α} (h : Distinct (fields ++ later)) :
    Distinct fields ∧ Distinct later := by
  rw [Distinct, keys, List.map_append, List.nodup_append] at h
  exact ⟨h.1, h.2.1⟩

/-- Names that are all different are bound one behind the other. -/
theorem merge_of_distinct {fields later : Fields α} (h : Distinct (fields ++ later)) :
    merge fields later = fields ++ later := by
  induction later generalizing fields with
  | nil => rw [List.append_nil]; rfl
  | cons field later ih =>
    have hname : field.1 ∉ keys fields := by
      intro hmem
      simp only [Distinct, keys, List.map_append, List.map_cons, List.nodup_append] at h
      exact h.2.2 _ hmem _ List.mem_cons_self rfl
    have hdistinct : Distinct ((fields ++ [field]) ++ later) := by simpa using h
    have hstep := ih hdistinct
    rw [List.append_assoc, List.singleton_append] at hstep
    rw [← hstep, ← set_of_not_mem hname field.2]
    rfl

/-- Where names are bound anew, the new values count. -/
theorem get?_merge (fields : Fields α) {later : Fields α} (h : Distinct later) (name : String) :
    get? (merge fields later) name = (get? later name).or (get? fields name) := by
  induction later generalizing fields with
  | nil => rfl
  | cons field later ih =>
    obtain ⟨key, value⟩ := field
    obtain ⟨hkey, hlater⟩ := List.nodup_cons.mp h
    have hstep : get? (merge fields ((key, value) :: later)) name =
        (get? later name).or (get? (set fields key value) name) := ih _ hlater
    rw [hstep]
    by_cases hname : key = name
    · subst hname
      have hnone : get? later key = none := (get?_eq_none_iff later key).mpr hkey
      simp [get?, hnone]
    · simp [get?, hname, get?_set_of_ne fields value hname]

/-- The names that are bound anew stay in their places, and the others follow in order. -/
theorem keys_merge (fields : Fields α) {later : Fields α} (h : Distinct later) :
    keys (merge fields later) =
      keys fields ++ (keys later).filter fun name => name ∉ keys fields := by
  induction later generalizing fields with
  | nil => exact (List.append_nil _).symm
  | cons field later ih =>
    obtain ⟨hkey, hlater⟩ := List.nodup_cons.mp h
    have hstep : keys (merge fields (field :: later)) =
        keys (set fields field.1 field.2) ++
          (keys later).filter fun name => name ∉ keys (set fields field.1 field.2) :=
      ih _ hlater
    have hkeys : keys (field :: later) = field.1 :: keys later := rfl
    rw [hstep, keys_set, hkeys, List.filter_cons]
    by_cases hname : field.1 ∈ keys fields
    · simp [hname]
    · have hothers : (keys later).filter (fun name => name ∉ keys fields ++ [field.1]) =
          (keys later).filter fun name => name ∉ keys fields := by
        refine List.filter_congr fun name hmem => ?_
        have hne : name ≠ field.1 := fun heq => hkey (heq ▸ hmem)
        simp [hne]
      simp only [hname, if_false, hothers]
      simp

end Fields

end CallChain
