/-
# Flat records and paths

A record is flattened by setting one field after another, and a path is walked by taking a
text apart. Here the two meet: of an object with plain names, flattening makes exactly one
field for each path of names that ends in it, in the order in which the object is written, and
walking along the name of a field leads to what the field shows.

A path ends at a value that is no object, or at the limit of three names, where it may lead
to an object. No field is lost because the names of two paths are never the same text.
-/

import CallChain.Proofs.Value.Selecting
import CallChain.Proofs.Value.Texts
import CallChain.Report.Record
import Mathlib.Data.List.Nodup

namespace CallChain

/-! ## Paths of names -/

namespace Text

variable {separator : Char}

/-- Pieces without the separator are found again when their joined text is split. -/
theorem splitAt_joinWith {piece : List Char} {pieces : List (List Char)}
    (h : ∀ p ∈ piece :: pieces, ∀ c ∈ p, c ≠ separator) :
    splitAt separator (joinWith [separator] (piece :: pieces)) = piece :: pieces := by
  induction pieces generalizing piece with
  | nil => exact splitAt_eq_singleton (h piece List.mem_cons_self)
  | cons next pieces ih =>
      have hjoin : joinWith [separator] (piece :: next :: pieces) =
          piece ++ separator :: joinWith [separator] (next :: pieces) :=
        List.append_assoc piece [separator] _
      rw [hjoin, splitAt_append, splitAt_eq_singleton (h piece List.mem_cons_self),
        ih fun p hp => h p (List.mem_cons_of_mem piece hp), List.singleton_append]

variable {name : String} {path other : List String}

theorem splitAt_join_dot (h : ∀ n ∈ name :: path, (Selector.key n).Plain) :
    splitAt '.' (join "." (name :: path)).toList = (name :: path).map String.toList := by
  rw [join, String.toList_ofList, List.map_cons]
  refine splitAt_joinWith fun p hp c hc => ?_
  rw [← List.map_cons] at hp
  obtain ⟨n, hn, rfl⟩ := List.mem_map.mp hp
  exact ((h n hn).2 c hc).1

theorem join_dot_ne_empty (h : ∀ n ∈ name :: path, (Selector.key n).Plain) :
    join "." (name :: path) ≠ "" := by
  intro hempty
  have hsplit := splitAt_join_dot h
  rw [hempty] at hsplit
  have hname : [] = name.toList := (List.cons.inj hsplit).1
  exact (h name List.mem_cons_self).1 (String.toList_inj.mp hname.symm)

/-- Paths of plain names are told apart by their texts. -/
theorem join_dot_inj (hpath : ∀ n ∈ path, (Selector.key n).Plain)
    (hother : ∀ n ∈ other, (Selector.key n).Plain) (h : join "." path = join "." other) :
    path = other := by
  cases path with
  | nil =>
      cases other with
      | nil => rfl
      | cons name other => exact absurd h.symm (join_dot_ne_empty hother)
  | cons name path =>
      cases other with
      | nil => exact absurd h (join_dot_ne_empty hpath)
      | cons next other =>
          have hmap : (name :: path).map String.toList = (next :: other).map String.toList := by
            rw [← splitAt_join_dot hpath, ← splitAt_join_dot hother, h]
          exact List.map_injective_iff.mpr (fun _ _ => String.toList_inj.mp) hmap

end Text

namespace Value

variable {v w : Value} {path : List String}

theorem at?_key (fields : Fields Value) (name : String) (path : List String) :
    (object fields).at? ((name :: path).map .key) =
      (fields.get? name).bind fun u => u.at? (path.map .key) := rfl

/-- Walking along plain names, joined by dots, leads where their path leads. -/
theorem walk_join (hplain : ∀ name ∈ path, (Selector.key name).Plain) (v : Value) :
    v.walk (Text.join "." path) = .ok ((v.at? (path.map .key)).getD .null) := by
  cases path with
  | nil => rfl
  | cons name path =>
      obtain ⟨hne, hchars⟩ := hplain name List.mem_cons_self
      have hopen : Move.Opens name.toList [.name name] := by
        simpa [hne] using Move.opens_name hchars
      have hrest : ∀ s ∈ path.map Selector.key, s.Plain := by
        intro s hs
        obtain ⟨other, hother, rfl⟩ := List.mem_map.mp hs
        exact hplain other (List.mem_cons_of_mem name hother)
      have htext : (Text.join "." (name :: path)).toList =
          name.toList ++ Route.text (path.map .key) := by
        rw [Text.join, String.toList_ofList, List.map_cons, Text.joinWith_cons, List.flatMap_map,
          Route.text, List.flatMap_map]
        rfl
      have hreads : ¬ v.Overruns ((name :: path).map .key) := not_overruns (by simp) v
      rw [walk, htext, walk_segments hrest hopen]
      exact follow_route hreads

/-- Whether, of two paths of names, the first comes first in the order in which a value is
written: where the two part, it goes on to the earlier field. -/
inductive Precedes : Value → List String → List String → Prop
  /-- The paths part here. -/
  | part {fields : Fields Value} {name other : String} {path others : List String}
      (h : [name, other].Sublist fields.keys) :
      Precedes (.object fields) (name :: path) (other :: others)
  /-- The paths go on to the same field and part below it. -/
  | inside {fields : Fields Value} {name : String} {v : Value} {path others : List String}
      (hv : fields.get? name = some v) (h : Precedes v path others) :
      Precedes (.object fields) (name :: path) (name :: others)

theorem hasDistinctNames_object {fields : Fields Value}
    (h : (object fields).hasDistinctNames = true) :
    fields.Distinct ∧ ∀ field ∈ fields, field.2.hasDistinctNames = true := by
  simp only [hasDistinctNames, Bool.and_eq_true, decide_eq_true_eq] at h
  refine ⟨h.1, ?_⟩
  have hinner := h.2
  clear h
  induction fields with
  | nil => exact nofun
  | cons field fields ih =>
      simp only [fieldsHaveDistinctNames, Bool.and_eq_true] at hinner
      intro other hother
      rcases List.mem_cons.mp hother with rfl | hother
      · exact hinner.1
      · exact ih hinner.2 other hother

/-- No path comes before itself. -/
theorem Precedes.ne {path other : List String} (h : v.Precedes path other)
    (hv : v.hasDistinctNames = true) : path ≠ other := by
  induction h with
  | part hboth =>
      rintro heq
      rw [(List.cons.inj heq).1] at hboth
      exact List.nodup_iff_sublist.mp (hasDistinctNames_object hv).1 _ hboth
  | inside hget _ ih =>
      obtain ⟨hdistinct, hinner⟩ := hasDistinctNames_object hv
      intro heq
      have hfield := (Fields.get?_eq_some_iff hdistinct).mp hget
      exact ih (hinner _ hfield) (List.cons.inj heq).2

end Value

/-! ## Where the paths of a record end -/

namespace Record

/-- Whether a path of names ends in a record, at a value: it leads there, and the value is no
object or the path is as long as a path may be. -/
structure EndsAt (r : Value) (path : List String) (v : Value) : Prop where
  /-- The path leads to the value. -/
  leads : r.at? (path.map .key) = some v
  /-- The path has at most three names. -/
  short : path.length ≤ 3
  /-- A path that leads to an object has three names. -/
  full : v.object?.isSome → path.length = 3

/-- What a flat record shows of a value: a scalar itself, a mark of any other. -/
def shown : Value → Value
  | .list items => listMark items
  | .object _ => objectMark
  | v => v

/-- The paths that end in a value where `room` names are left, each with the value that it ends
at, in the order in which the value is written. -/
def ends : Nat → Value → List (List String × Value)
  | room + 1, .object fields =>
    fields.flatMap fun field => (ends room field.2).map fun e => (field.1 :: e.1, e.2)
  | _, v => [([], v)]

variable {room : Nat} {v w : Value} {name : String} {path : List String}

theorem ends_object (room : Nat) (fields : Fields Value) :
    ends (room + 1) (.object fields) =
      fields.flatMap fun field => (ends room field.2).map fun e => (field.1 :: e.1, e.2) := rfl

/-- Paths go on from an object unless no names are left. -/
theorem ends_cases (room : Nat) (v : Value) :
    (∃ left fields, room = left + 1 ∧ v = .object fields) ∨
      (ends room v = [([], v)] ∧ (v.object?.isSome → 0 = room)) := by
  cases v with
  | object fields =>
      cases room with
      | zero => exact Or.inr ⟨rfl, fun _ => rfl⟩
      | succ left => exact Or.inl ⟨left, fields, rfl, rfl⟩
  | _ =>
      right
      refine ⟨?_, nofun⟩
      cases room <;> rfl

/-- The empty path ends where no other goes on. -/
theorem nil_mem_ends : ([], w) ∈ ends room v ↔ v = w ∧ (w.object?.isSome → 0 = room) := by
  rcases ends_cases room v with ⟨left, fields, rfl, rfl⟩ | ⟨hends, hfull⟩
  · simp only [ends_object, List.mem_flatMap, List.mem_map, Prod.mk.injEq, List.cons_ne_nil,
      false_and, and_false, exists_false, false_iff, not_and]
    rintro rfl hfull
    exact absurd (hfull rfl) (Nat.succ_ne_zero left).symm
  · rw [hends, List.mem_singleton, Prod.mk.injEq]
    constructor
    · rintro ⟨-, rfl⟩
      exact ⟨rfl, hfull⟩
    · exact fun h => ⟨rfl, h.1.symm⟩

/-- Any other path goes on to a field. -/
theorem cons_mem_ends : (name :: path, w) ∈ ends room v ↔
    ∃ left fields, room = left + 1 ∧ v = .object fields ∧
      ∃ u, (name, u) ∈ fields ∧ (path, w) ∈ ends left u := by
  rcases ends_cases room v with ⟨left, fields, rfl, rfl⟩ | ⟨hends, hfull⟩
  · simp [ends_object]
  · rw [hends]
    constructor
    · intro h
      simp at h
    · rintro ⟨left, fields, rfl, rfl, -⟩
      exact absurd (hfull rfl) (Nat.succ_ne_zero left).symm

/-- The paths that are listed are those that end in the value. -/
theorem mem_ends (hv : v.hasDistinctNames = true) : (path, w) ∈ ends room v ↔
    v.at? (path.map .key) = some w ∧ path.length ≤ room ∧
      (w.object?.isSome → path.length = room) := by
  induction path generalizing room v with
  | nil => simp [nil_mem_ends, Value.at?_nil]
  | cons name path ih =>
      rw [cons_mem_ends]
      constructor
      · rintro ⟨left, fields, rfl, rfl, u, hu, hend⟩
        obtain ⟨hdistinct, hinner⟩ := Value.hasDistinctNames_object hv
        obtain ⟨hat, hshort, hfull⟩ := (ih (hinner _ hu)).mp hend
        have hget := (Fields.get?_eq_some_iff hdistinct).mpr hu
        refine ⟨?_, Nat.succ_le_succ hshort, fun h => congrArg Nat.succ (hfull h)⟩
        rw [Value.at?_key, hget]
        exact hat
      · rintro ⟨hat, hshort, hfull⟩
        cases v with
        | object fields =>
            obtain ⟨hdistinct, hinner⟩ := Value.hasDistinctNames_object hv
            obtain ⟨u, hget, hat⟩ := Option.bind_eq_some_iff.mp hat
            have hu := (Fields.get?_eq_some_iff hdistinct).mp hget
            obtain ⟨left, rfl⟩ : ∃ left, room = left + 1 :=
              ⟨room - 1, by rw [List.length_cons] at hshort; omega⟩
            refine ⟨left, fields, rfl, rfl, u, hu, (ih (hinner _ hu)).mpr ⟨hat, ?_, ?_⟩⟩
            · exact Nat.le_of_succ_le_succ hshort
            · exact fun h => Nat.succ.inj (hfull h)
        | _ => cases hat

/-- The paths are listed in the order in which the value is written. -/
theorem pairwise_ends (hv : v.hasDistinctNames = true) :
    (ends room v).Pairwise fun e f => v.Precedes e.1 f.1 := by
  induction room generalizing v with
  | zero => exact List.pairwise_singleton _ _
  | succ room ih =>
      rcases ends_cases (room + 1) v with ⟨left, fields, hroom, rfl⟩ | ⟨hends, -⟩
      · obtain ⟨hdistinct, hinner⟩ := Value.hasDistinctNames_object hv
        rw [ends_object, List.pairwise_flatMap]
        constructor
        · intro field hfield
          rw [List.pairwise_map]
          have hget := (Fields.get?_eq_some_iff hdistinct).mpr hfield
          exact (ih (hinner field hfield)).imp fun h => .inside hget h
        · rw [List.pairwise_iff_forall_sublist]
          intro field other hboth e he f hf
          obtain ⟨e, -, rfl⟩ := List.mem_map.mp he
          obtain ⟨f, -, rfl⟩ := List.mem_map.mp hf
          exact .part (hboth.map Prod.fst)
      · rw [hends]
        exact List.pairwise_singleton _ _

/-! ## The fields of a flat record -/

/-- The field for a path below another one, and for the value at which it ends. -/
def flatField (above : String) (e : List String × Value) : String × Value :=
  (e.1.foldl under above, shown e.2)

/-- The fields for the paths into an object are those for the paths into its fields. -/
theorem map_flatField_ends (above : String) (room : Nat) (fields : Fields Value) :
    (ends (room + 1) (.object fields)).map (flatField above) =
      fields.flatMap fun field => (ends room field.2).map (flatField (under above field.1)) := by
  rw [ends_object, List.map_flatMap]
  congr 1
  funext field
  rw [List.map_map]
  rfl

/-- A field is flattened by merging in the fields for the paths into it. -/
theorem flattenFields_cons {above name : String} {room : Nat} {v : Value}
    (hinner : ∀ inner, v = .object inner → flattenObject (under above name) room inner =
      (ends room v).map (flatField (under above name)))
    (fields : List (String × Value)) (flat : Fields Value) :
    flattenFields above (room + 1 : Nat) ((name, v) :: fields) flat =
      flattenFields above (room + 1 : Nat) fields
        (flat.merge ((ends room v).map (flatField (under above name)))) := by
  cases v with
  | object inner =>
      have hless : ((room + 1 : Nat) : Int) - 1 = room := by omega
      rw [flattenFields, hless, hinner inner rfl]
  | _ =>
      simp only [flattenFields]
      cases room <;> rfl

/-- The fields for the paths into some fields are put behind those so far, as long as no two
have the same name. -/
theorem flattenFields_eq {above : String} {room : Nat} {fields : List (String × Value)}
    {flat : Fields Value}
    (hinner : ∀ name inner, (name, .object inner) ∈ fields →
      Fields.Distinct ((ends room (.object inner)).map (flatField (under above name))) →
      flattenObject (under above name) room inner =
        (ends room (.object inner)).map (flatField (under above name)))
    (h : Fields.Distinct (flat ++ fields.flatMap fun field =>
      (ends room field.2).map (flatField (under above field.1)))) :
    flattenFields above (room + 1 : Nat) fields flat = flat ++ fields.flatMap fun field =>
      (ends room field.2).map (flatField (under above field.1)) := by
  induction fields generalizing flat with
  | nil => simp [flattenFields]
  | cons field fields ih =>
      obtain ⟨name, v⟩ := field
      rw [List.flatMap_cons, ← List.append_assoc] at h ⊢
      have hfront := h.of_append.1
      have hfield := hfront.of_append.2
      rw [flattenFields_cons, Fields.merge_of_distinct hfront, ih _ h]
      · exact fun n inner hmem => hinner n inner (List.mem_cons_of_mem _ hmem)
      · rintro inner rfl
        exact hinner name inner List.mem_cons_self hfield

/-- Flattening an object sets the fields for the paths into it one behind the other, as long
as no two have the same name. -/
theorem flattenObject_eq {above : String} {room : Nat} {fields : Fields Value}
    (h : Fields.Distinct ((ends room (.object fields)).map (flatField above))) :
    flattenObject above room fields = (ends room (.object fields)).map (flatField above) := by
  induction room generalizing above fields with
  | zero =>
      have hroom : ((0 : Nat) : Int) ≤ 0 := Int.le_refl 0
      rw [flattenObject, if_pos hroom]
      rfl
  | succ room ih =>
      have hroom : ¬ ((room + 1 : Nat) : Int) ≤ 0 := by omega
      rw [map_flatField_ends] at h ⊢
      rw [flattenObject, if_neg hroom]
      exact flattenFields_eq (fun name inner _ hinner => ih hinner) h

/-! ## One field for each path -/

/-- The name of the field for a path is the path with dots between its names. -/
theorem foldl_under {above : String} (h : above ≠ "") (path : List String) :
    path.foldl under above = Text.join "." (above :: path) := by
  induction path generalizing above with
  | nil => simp [Text.join, Text.joinWith]
  | cons name path ih =>
      have hunder : under above name = above ++ "." ++ name := if_neg h
      have hne : under above name ≠ "" := by simp [hunder]
      rw [List.foldl_cons, ih hne, hunder, ← String.toList_inj]
      simp [Text.join, Text.joinWith_cons]

theorem foldl_under_empty (h : ∀ n ∈ path, n ≠ "") : path.foldl under "" = Text.join "." path := by
  cases path with
  | nil => rfl
  | cons name path => exact foldl_under (h name List.mem_cons_self) path

/-- Whether the names on the paths that flattening follows are plain: not empty, and without
dots and brackets. -/
def HasPlainNames (r : Value) : Prop :=
  ∀ (path : List String) (v : Value), path.length ≤ 3 → r.at? (path.map .key) = some v →
    ∀ name ∈ path, (Selector.key name).Plain

/-- The names on a path stand within the value. -/
theorem mem_names_of_at? {r v : Value} {path : List String}
    (h : r.at? (path.map .key) = some v) {name : String} (hname : name ∈ path) :
    name ∈ r.names := by
  induction path generalizing r with
  | nil => cases hname
  | cons first path ih =>
      cases r with
      | object fields =>
          obtain ⟨u, hget, hat⟩ := Option.bind_eq_some_iff.mp h
          have hfield := Fields.mem_of_get?_eq_some hget
          rcases List.mem_cons.mp hname with rfl | hname
          · exact Value.mem_fieldNames_of_mem_keys (List.mem_map.mpr ⟨_, hfield, rfl⟩)
          · exact Value.names_subset_fieldNames hfield (ih hat hname)
      | _ => cases h

/-- An object within which all names are plain has plain names on its paths. -/
theorem hasPlainNames_of_all {r : Value} (h : r.names.all (fun name => !name.isEmpty &&
    name.toList.all fun c => c != '.' && c != '[' && c != ']') = true) : HasPlainNames r := by
  intro path v _ hat name hname
  have hall := List.all_eq_true.mp h name (mem_names_of_at? hat hname)
  rw [Bool.and_eq_true] at hall
  exact Selector.plain_key (by simpa using hall.1) hall.2

/-- Flattening an object with plain names makes one field for each path of at most three names
that leads to no object, and for each path of three names that leads to an object. The fields
stand in the order in which the object is written, no two have the same name, and walking
along the name of a field leads to the value that the field shows. -/
theorem flatten_endsAt {fields : Fields Value}
    (hdistinct : (Value.object fields).hasDistinctNames = true)
    (hplain : HasPlainNames (.object fields)) :
    ∃ found : List (List String × Value),
      (∀ path v, (path, v) ∈ found ↔ EndsAt (.object fields) path v) ∧
      found.Pairwise (fun e f => (Value.object fields).Precedes e.1 f.1) ∧
      flatten (.object fields) = found.map (fun e => (Text.join "." e.1, shown e.2)) ∧
      (flatten (.object fields)).Distinct ∧
      ∀ e ∈ found, (Value.object fields).walk (Text.join "." e.1) = .ok e.2 := by
  let r := Value.object fields
  let found := ends 3 r
  have hmem : ∀ path v, (path, v) ∈ found ↔ EndsAt r path v := by
    intro path v
    rw [mem_ends hdistinct]
    exact ⟨fun h => ⟨h.1, h.2.1, h.2.2⟩, fun h => ⟨h.leads, h.short, h.full⟩⟩
  have horder : found.Pairwise fun e f => r.Precedes e.1 f.1 := pairwise_ends hdistinct
  have hnames : ∀ e ∈ found, ∀ name ∈ e.1, (Selector.key name).Plain := by
    intro e he
    have hend := (hmem e.1 e.2).mp he
    exact hplain e.1 e.2 hend.short hend.leads
  have htexts : found.map (flatField "") =
      found.map fun e => (Text.join "." e.1, shown e.2) := by
    refine List.map_congr_left fun e he => ?_
    rw [flatField, foldl_under_empty fun n hn => (hnames e he n hn).1]
  have hkeys : Fields.Distinct (found.map fun e => (Text.join "." e.1, shown e.2)) := by
    rw [Fields.Distinct, Fields.keys, List.map_map, List.Nodup, List.pairwise_map]
    refine horder.imp_of_mem fun {e f} he hf hbefore htext => ?_
    exact hbefore.ne hdistinct (Text.join_dot_inj (hnames e he) (hnames f hf) htext)
  have hflat : flatten r = found.map fun e => (Text.join "." e.1, shown e.2) := by
    rw [← htexts] at hkeys ⊢
    exact flattenObject_eq hkeys
  refine ⟨found, hmem, horder, hflat, distinct_flatten r, fun e he => ?_⟩
  rw [Value.walk_join (hnames e he), ((hmem e.1 e.2).mp he).leads]
  rfl

/-- An object with objects inside each other, one of them empty, and with a list. -/
def nested : Value :=
  .object [("a", .object [("b", .object [("c", .object [("d", .int 1)]), ("e", .object [])]),
    ("n", .null)]), ("l", .list [.int 1, .int 2]), ("z", .object [])]

/-- The object four names deep is shown by a mark at the third name, and the empty ones are
shown there or not at all. -/
theorem flatten_endsAt_nested :
    nested.hasDistinctNames = true ∧ HasPlainNames nested ∧
    flatten nested = [("a.b.c", .text "[Object]"), ("a.b.e", .text "[Object]"), ("a.n", .null),
      ("l", .text "[Array(2)]")] ∧
    EndsAt nested ["a", "b", "c"] (.object [("d", .int 1)]) ∧
    nested.walk "a.b.c" = .ok (.object [("d", .int 1)]) := by
  have hdistinct : nested.hasDistinctNames = true := by decide
  have hplain : HasPlainNames nested := hasPlainNames_of_all (by decide)
  have hmark : listMark [.int 1, .int 2] = .text "[Array(2)]" := by decide
  have hflat : flatten nested = [("a.b.c", .text "[Object]"), ("a.b.e", .text "[Object]"),
      ("a.n", .null), ("l", .text "[Array(2)]")] := by
    simp [nested, flatten, flattenFrom, flattenObject, flattenFields, depthLimit, under,
      Fields.merge, Fields.set, objectMark, hmark]
  have hend : EndsAt nested ["a", "b", "c"] (.object [("d", .int 1)]) :=
    ⟨by decide, by decide, fun _ => rfl⟩
  obtain ⟨found, hmem, -, -, -, hwalk⟩ := flatten_endsAt hdistinct hplain
  exact ⟨hdistinct, hplain, hflat, hend, hwalk _ ((hmem _ _).mpr hend)⟩

end Record

end CallChain
