/-
# Expressions that address values

An expression can address every value inside a stored result: the reference of the step, and
behind it the route to the value. Taking the expression apart gives the reference and the
path of the route back, whether a dot or a bracket follows the reference, so that resolving
the expression leads where the route leads in the result.

What a route does not lead to is null. The one error is an index, or a place, of too many
digits to be read.

Renaming changes the reference in front of a route and leaves the route, so that the value
stays the same.
-/

import CallChain.Proofs.Reference.Preserved
import CallChain.Proofs.Value.Selecting

namespace CallChain

/-! ## Taking an addressing expression apart -/

theorem Text.eq_of_cutAt {separator : Char} {text front : List Char} {back : Option (List Char)}
    (h : cutAt separator text = (front, back)) :
    text = front ++ (back.map fun rest => separator :: rest).getD [] := by
  induction text generalizing front with
  | nil =>
      cases h
      rfl
  | cons c text ih =>
      rw [cutAt] at h
      split at h
      · next hc =>
        cases h
        rw [hc]
        rfl
      · cases hcut : cutAt separator text with
        | mk front' back' =>
            rw [hcut] at h
            cases h
            rw [List.cons_append, ← ih hcut]

namespace Expression

variable {reference : String} {route : Route}

/-- A path that starts with a bracket is put together again, unless it ends in a dot. -/
theorem path_split_bracket {indexes : List Char}
    (htrim : Text.trimChars ('[' :: indexes) = '[' :: indexes)
    (hdot : ('[' :: indexes).getLast? ≠ some '.') :
    (split (String.ofList ('[' :: indexes))).path = String.ofList ('[' :: indexes) := by
  cases hcut : Text.cutAt '.' indexes with
  | mk front back =>
      have hindexes := Text.eq_of_cutAt hcut
      have hwhole : Text.cutAt '.' ('[' :: indexes) = ('[' :: front, back) := by
        rw [Text.cutAt, if_neg (by decide), hcut]
      have hbracket : Text.cutAt '[' ('[' :: front) = ([], some front) := by
        rw [Text.cutAt, if_pos rfl]
      simp only [split, String.toList_ofList, htrim, hwhole, hbracket]
      cases back with
      | none => simp [hindexes]
      | some rest =>
          cases rest with
          | nil =>
              rw [hindexes] at hdot
              exact absurd (List.getLast?_concat (l := '[' :: front)) hdot
          | cons c rest => simp [hindexes]

/-- A route can stand behind a reference: it begins with a dot or a bracket. -/
theorem cut_route (route : Route) : Cut [] [] route.text := by
  refine ⟨nofun, nofun, nofun, ?_⟩
  match route with
  | [] => exact Or.inl ⟨nofun, nofun⟩
  | .key name :: rest => exact Or.inr ⟨'.', _, rfl, by decide⟩
  | .index position :: rest => exact Or.inr ⟨'[', _, rfl, by decide⟩

theorem path_split_route (h : route.Writable) :
    (split (String.ofList route.text)).path = String.ofList route.path := by
  have hends : Text.EndsBare route.text := fun c hc => (h.getLast?_text hc).1
  have hdot : route.text.getLast? ≠ some '.' := fun hc => (h.getLast?_text hc).2 rfl
  have htrim := (cut_route route).trimChars_eq
  rw [List.nil_append, List.nil_append, Text.trimEnd_eq_self hends, List.nil_append] at htrim
  match route with
  | [] => rfl
  | .index position :: rest => exact path_split_bracket htrim hdot
  | .key name :: rest =>
      obtain ⟨chars, htext, hpath⟩ : ∃ chars, Route.text (.key name :: rest) = '.' :: chars ∧
          Route.path (.key name :: rest) = chars := ⟨_, rfl, rfl⟩
      rw [htext] at htrim ⊢
      simp [split, htrim, hpath, Text.cutAt]

/-- Behind a reference, a route is read as the path that it writes. -/
theorem split_route (hword : Reference.IsWord reference.toList) (h : route.Writable) :
    split (reference ++ String.ofList route.text) = ⟨reference, String.ofList route.path⟩ := by
  have hsplit := split_of_cut (hword.cut (cut_route route))
  rw [path_split_route h, List.nil_append] at hsplit
  simpa using hsplit

end Expression

/-! ## What is read along a route -/

/-- Whether reading a value along a route has the outcome that the route gives: the value it
leads to, null if it leads nowhere, and an error if it overruns. -/
structure Value.ReadsAlong (v : Value) (route : Route) (outcome : Except Fault Value) : Prop where
  /-- A route whose indexes can be read has a value. -/
  found : ¬ v.Overruns route → outcome = .ok ((v.at? route).getD .null)
  /-- An index that cannot be read is an error. -/
  overrun : v.Overruns route →
    ∃ digits, digitLimit < digits ∧ outcome = .error (.badNumber (.longText digits))

namespace Resolver

variable {r : Resolver} {scope : Fields Value} {reference id : String} {v : Value} {route : Route}

/-- What is read behind a reference of a result is read along the route in the result. -/
theorem readsAlong_of_lookup (hlookup : r.lookup scope reference = .ok (some v))
    (hword : Reference.IsWord reference.toList) (h : route.Writable) :
    v.ReadsAlong route (r.resolve scope (reference ++ String.ofList route.text)) := by
  have hresolve : r.resolve scope (reference ++ String.ofList route.text) =
      (v.follow (route.map Selector.move)).mapError .badNumber := by
    rw [resolve, Expression.split_route hword h]
    simp only [hlookup, Value.walk_path h]
  constructor
  · intro hreads
    rw [hresolve, Value.follow_route hreads]
    rfl
  · intro hoverruns
    obtain ⟨digits, hdigits, hfollow⟩ := Value.follow_route_of_overruns hoverruns
    exact ⟨digits, hdigits, by rw [hresolve, hfollow]; rfl⟩

theorem lookup_of_result (hv : r.results.get? id = some v) :
    r.lookup [] id = .ok (some v) := by
  have hhas : r.results.has id = true := by rw [Fields.has, hv]; rfl
  rw [lookup, Fields.get?, idOf, hhas, Bool.true_or, if_pos rfl]
  simp [Except.map, hv]

/-- Whether no step of a sequence and no result has the name that a place is written with. -/
def LeavesPlace (r : Resolver) (n : Nat) : Prop :=
  r.results.has (Reference.ofPlace n) = false ∧ Reference.ofPlace n ∉ r.stepIds

/-- Ids that are given out have another shape than places. -/
theorem Sound.leavesPlace (h : r.Sound) (n : Nat) : r.LeavesPlace n := by
  have hnot : Reference.ofPlace n ∉ r.stepIds := fun hmem => (h.generated _ hmem).ne_ofPlace n rfl
  refine ⟨?_, hnot⟩
  rw [Bool.eq_false_iff]
  exact fun hhas => hnot (h.owned _ hhas)

theorem idOf_ofPlace {n : Nat} (h : r.LeavesPlace n) :
    r.idOf (Reference.ofPlace n) =
      (Reference.place (Reference.ofPlace n)).map fun place => place.bind (r.stepIds[·]?) := by
  rw [idOf, h.1, Bool.false_or, if_neg]
  rw [List.contains_iff_mem]
  exact h.2

theorem lookup_ofPlace {n : Nat} (h : r.LeavesPlace n) (hn : r.stepIds[n]? = some id)
    (hv : r.results.get? id = some v) (hshort : n < 10 ^ digitLimit) :
    r.lookup [] (Reference.ofPlace n) = .ok (some v) := by
  rw [lookup, Fields.get?, idOf_ofPlace h, Reference.place_ofPlace hshort]
  simp [Except.map, hn, hv]

/-- A place of too many digits names no step. -/
theorem resolve_ofPlace_long {n : Nat} (h : r.LeavesPlace n) (hlong : 10 ^ digitLimit ≤ n)
    (hroute : route.Writable) :
    ∃ digits, digitLimit < digits ∧
      r.resolve [] (Reference.ofPlace n ++ String.ofList route.text) =
        .error (.badNumber (.longText digits)) := by
  have hlength := Text.digitLimit_lt_length hlong
  have hlookup : r.lookup [] (Reference.ofPlace n) =
      .error (.longText (Nat.toDigits 10 n).length) := by
    rw [lookup, Fields.get?, idOf_ofPlace h, Reference.place, Reference.placeDigits?_ofPlace]
    simp [Text.readNumber, hlength, Except.map]
  refine ⟨_, hlength, ?_⟩
  rw [resolve, Expression.split_route (Reference.isWord_ofPlace n) hroute]
  simp only [hlookup]

/-- An expression that names a step, by its id or by its place, and then a route, has the
value that the route leads to in the result of the step, and null where it leads nowhere. The
one error is a number of too many digits: an index that the route asks a list for, or the
place itself. -/
theorem resolve_route (hid : Reference.IsGenerated id) (hv : r.results.get? id = some v)
    (hroute : route.Writable) :
    v.ReadsAlong route (r.resolve [] (id ++ String.ofList route.text)) ∧
    ∀ n, r.stepIds[n]? = some id → r.LeavesPlace n →
      (n < 10 ^ digitLimit →
        v.ReadsAlong route (r.resolve [] (Reference.ofPlace n ++ String.ofList route.text))) ∧
      (10 ^ digitLimit ≤ n → ∃ digits, digitLimit < digits ∧
        r.resolve [] (Reference.ofPlace n ++ String.ofList route.text) =
          .error (.badNumber (.longText digits))) := by
  refine ⟨readsAlong_of_lookup (lookup_of_result hv) hid.isWord hroute, fun n hn hfree => ⟨?_, ?_⟩⟩
  · intro hshort
    have hlookup := lookup_ofPlace hfree hn hv hshort
    exact readsAlong_of_lookup hlookup (Reference.isWord_ofPlace n) hroute
  · exact fun hlong => resolve_ofPlace_long hfree hlong hroute

/-- A result whose data is a list of two items, the second of them null. -/
def pairStored : Resolver where
  results := [(Reference.countedId 0,
    .object [("data", .list [.object [("gid", .text "u1")], .null])])]
  stepIds := [Reference.countedId 1, Reference.countedId 0]

/-- The step is named by its id and by its place. The first item has a field and the second
has none; an item whose index has too many digits is an error. -/
theorem resolve_route_pairStored :
    let first : Route := [.key "data", .index 0, .key "gid"]
    let second : Route := [.key "data", .index 1, .key "gid"]
    let far : Route := [.key "data", .index (10 ^ digitLimit)]
    Reference.IsGenerated (Reference.countedId 0) ∧ pairStored.LeavesPlace 1 ∧
    first.Writable ∧ second.Writable ∧ far.Writable ∧
    pairStored.resolve [] "seq_0_000000000.data[0].gid" = .ok (.text "u1") ∧
    pairStored.resolve [] "step1.data[0].gid" = .ok (.text "u1") ∧
    pairStored.resolve [] "step1.data[1].gid" = .ok .null ∧
    ∃ digits, digitLimit < digits ∧
      pairStored.resolve [] (Reference.countedId 0 ++ String.ofList far.text) =
        .error (.badNumber (.longText digits)) := by
  intro first second far
  have hdata : (Selector.key "data").Plain := Selector.plain_key (by decide) (by decide)
  have hgid : Route.Writable [.key "gid"] :=
    Route.writable_key (Selector.plain_key (by decide) (by decide)) (by decide)
  have hitem : ∀ position, Route.Writable [.key "data", .index position, .key "gid"] :=
    fun position => (hgid.cons (by simp) (s := .index position) trivial).cons (by simp) hdata
  have hfar : far.Writable := (Route.writable_index _).cons (by simp) hdata
  have hgenerated := Reference.isGenerated_countedId 0
  have hfree : pairStored.LeavesPlace 1 := ⟨by decide +kernel, by decide +kernel⟩
  have hlimit : ∀ position < 10, position < 10 ^ digitLimit := fun position hposition =>
    Nat.lt_of_lt_of_le hposition
      (Nat.pow_le_pow_right (by decide : 0 < 10) (by decide : 1 ≤ digitLimit))
  have hreads : ∀ position < 10, ¬ Value.Overruns
      (.object [("data", .list [.object [("gid", .text "u1")], .null])])
      [.key "data", .index position, .key "gid"] := by
    intro position hposition
    refine Value.not_overruns (fun n hn => ?_) _
    have hn' : n = position := by simpa using hn
    rw [hn']
    exact hlimit position hposition
  obtain ⟨hbyId, hbyPlace⟩ := resolve_route (r := pairStored) hgenerated rfl (hitem 0)
  have hbyPlace' := (resolve_route (r := pairStored) hgenerated rfl (hitem 1)).2 1 rfl hfree
  refine ⟨hgenerated, hfree, hitem 0, hitem 1, hfar, ?_, ?_, ?_, ?_⟩
  · exact hbyId.found (hreads 0 (by decide))
  · exact ((hbyPlace 1 rfl hfree).1 (hlimit 1 (by decide))).found (hreads 0 (by decide))
  · exact (hbyPlace'.1 (hlimit 1 (by decide))).found (hreads 1 (by decide))
  · exact (resolve_route (r := pairStored) hgenerated rfl hfar).1.overrun
      ⟨[.key "data"], _, [], _, rfl, rfl, Nat.le_refl _⟩

end Resolver

/-! ## Routes behind references that are renamed -/

/-- Whether a route can be written, read and renamed behind a reference, in a placeholder or
outside of one. -/
structure Route.Clear (route : Route) : Prop extends Route.Writable route where
  /-- Its indexes can be read. -/
  short : ∀ n, .index n ∈ route → n < 10 ^ digitLimit
  /-- It holds no braces. -/
  unbraced : ∀ c ∈ route.text, Template.isInner c = true

theorem Reference.IsWord.isInner_route {reference : String} (hword : IsWord reference.toList)
    {route : Route} (hroute : ∀ c ∈ route.text, Template.isInner c = true) :
    ∀ c ∈ (reference ++ String.ofList route.text).toList, Template.isInner c = true := by
  intro c hc
  rw [String.toList_append, String.toList_ofList] at hc
  rcases List.mem_append.mp hc with hc | hc
  · exact HoleParts.isInner_of_continuesReference (hword.continues c hc)
  · exact hroute c hc

/-- Renaming the reference in front of a route leaves the route. -/
theorem Renaming.expression_route {f : Renaming} (hf : f.IntoWords) {reference image : String}
    (hword : Reference.IsWord reference.toList) (himage : f reference = some image)
    {route : Route} (hroute : ∀ c ∈ route.text, Template.isInner c = true) :
    expression f (reference ++ String.ofList route.text) = image ++ String.ofList route.text := by
  rw [expression_of_isInner hf (hword.isInner_route hroute), String.toList_append,
    String.toList_ofList]
  obtain ⟨-, hparts⟩ | ⟨hnot, -⟩ :=
    HoleParts.ofInner?_of_cut (hword.cut (Expression.cut_route route))
  · rw [List.nil_append] at hparts
    rw [inner_of_some hparts, String.ofList_toList, himage]
    simp [HoleParts.withReference]
  · exact absurd hword hnot

namespace Resolver

variable {r : Resolver} {reference id : String} {v : Value} {route : Route}

/-- Whether an expression has a value, as it stands and as the one placeholder of a text. -/
structure ReadsAs (r : Resolver) (expression : String) (v : Value) : Prop where
  /-- The expression has the value. -/
  bare : r.resolve [] expression = .ok v
  /-- So has the placeholder. -/
  braced : r.interpolate [] ("\x7b\x7b" ++ expression ++ "\x7d\x7d") = .ok v

theorem readsAs_route (hlookup : r.lookup [] reference = .ok (some v))
    (hword : Reference.IsWord reference.toList) (hroute : route.Clear) :
    r.ReadsAs (reference ++ String.ofList route.text) ((v.at? route).getD .null) := by
  have hbare := (readsAlong_of_lookup hlookup hword hroute.toWritable).found
    (Value.not_overruns hroute.short v)
  have hne : (reference ++ String.ofList route.text).toList ≠ [] := by
    obtain ⟨c, rest, hcons, -⟩ := hword
    simp [hcons]
  have hrender : "\x7b\x7b" ++ (reference ++ String.ofList route.text) ++ "\x7d\x7d" =
      String.ofList (Piece.hole (reference ++ String.ofList route.text).toList).render := by
    rw [← String.toList_inj]
    simp [Piece.render]
  refine ⟨hbare, ?_⟩
  rw [hrender, interpolate_hole ⟨hne, hword.isInner_route hroute.unbraced⟩, String.ofList_toList]
  exact hbare

/-- Written for a later step, an expression that starts with an id has the place of the id
instead, alone and in a placeholder. -/
theorem Sound.toPlace_route (h : r.Sound) {place : Nat} (hid : r.stepIds[place]? = some id)
    (hroute : ∀ c ∈ route.text, Template.isInner c = true) {later : Int} (hlater : place < later) :
    let f := Renaming.toPlace r.stepIds later
    let expression := id ++ String.ofList route.text
    let stable := Reference.ofPlace place ++ String.ofList route.text
    Renaming.expression f expression = stable ∧
      Renaming.text f ("\x7b\x7b" ++ expression ++ "\x7d\x7d") =
        "\x7b\x7b" ++ stable ++ "\x7d\x7d" := by
  intro f expression stable
  have hword := (h.generated id (List.mem_of_getElem? hid)).isWord
  have hwords : f.IntoWords := Renaming.intoWords_toPlace r.stepIds later
  obtain ⟨hlt, hget⟩ := List.getElem?_eq_some_iff.mp hid
  have hrenamed : f id = some (Reference.ofPlace place) := by
    obtain ⟨m, rfl⟩ := Int.eq_ofNat_of_zero_le (by omega : 0 ≤ later)
    rw [← hget]
    exact Renaming.toPlace_getElem h.nodup hlt (by exact_mod_cast hlater)
  have hstable : Renaming.expression f expression = stable :=
    Renaming.expression_route hwords hword hrenamed hroute
  obtain ⟨htext, hopen⟩ := Renaming.text_wrapped hwords expression
  have hbare := Renaming.startsOpen_of_isInner (hword.isInner_route hroute)
  rw [Renaming.wrapped_of_not hbare, Renaming.wrapped_of_not (hopen.trans hbare), hstable] at htext
  exact ⟨hstable, htext⟩

end Resolver

end CallChain
