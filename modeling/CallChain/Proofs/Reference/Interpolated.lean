/-
# Interpolation substitutes once

A text is cut at its placeholders once, whatever they resolve to, and what they resolve to is
put in their places once. A value that looks like a placeholder is therefore text like any
other. The one exception is a text that is a placeholder as a whole, blanks aside: it has the
value itself.

Of the expressions that do not resolve the first is reported. It names no stored result, or
holds a number of too many digits.
-/

import CallChain.Proofs.Reference.Pieces
import CallChain.Proofs.Reference.Routed
import CallChain.Proofs.Request.Renamed
import CallChain.Proofs.Request.Sent

namespace CallChain

/-! ## What resolving fails at -/

namespace Expression

/-- The reference and the path of an expression stand in it. -/
theorem infix_split (e : String) :
    (split e).reference.toList <:+: e.toList ∧ (split e).path.toList <:+: e.toList := by
  have htrim : Text.trimChars e.toList <:+: e.toList := by
    simpa [Text.trim] using Text.infix_trim e
  suffices h : (split e).reference.toList <:+: Text.trimChars e.toList ∧
      (split e).path.toList <:+: Text.trimChars e.toList from ⟨h.1.trans htrim, h.2.trans htrim⟩
  cases hdot : Text.cutAt '.' (Text.trimChars e.toList) with
  | mk front path =>
      have hwhole := Text.eq_of_cutAt hdot
      cases hbracket : Text.cutAt '[' front with
      | mk reference indexes =>
          have hfront := Text.eq_of_cutAt hbracket
          simp only [split, hdot, hbracket]
          rw [hwhole, hfront]
          have hfirst : ∀ back, reference <:+: reference ++ back :=
            fun back => (List.prefix_append reference back).isInfix
          have hlast : ∀ back, back <:+: reference ++ back :=
            fun back => (List.suffix_append reference back).isInfix
          cases indexes with
          | none =>
              cases path with
              | none => simp
              | some rest =>
                  simpa using ⟨hfirst _, (List.suffix_cons '.' rest).isInfix.trans (hlast _)⟩
          | some indexes =>
              cases path with
              | none => simpa using ⟨hfirst ('[' :: indexes), hlast _⟩
              | some rest =>
                  cases rest with
                  | nil =>
                      have hpart : '[' :: indexes <:+: '[' :: (indexes ++ ['.']) :=
                        ⟨[], ['.'], rfl⟩
                      simpa using ⟨hfirst _, hpart.trans (hlast _)⟩
                  | cons c rest =>
                      simpa using ⟨hfirst ('[' :: (indexes ++ '.' :: c :: rest)), hlast _⟩

end Expression

namespace Reference

theorem standsIn_of_place {reference : String} {problem : NumberProblem}
    (h : place reference = .error problem) : problem.StandsIn reference.toList := by
  rw [place] at h
  split at h
  · cases h
  · next digits hdigits =>
    obtain ⟨hdigit, hlist⟩ := eq_of_placeDigits? hdigits
    have hwithin : digits <:+: reference.toList := by
      rcases hlist with hlist | hlist
      · exact ⟨placeWord, [], by simp [hlist]⟩
      · exact ⟨placeWord, ['\n'], by simp [hlist]⟩
    cases hread : Text.readNumber digits with
    | ok n =>
        rw [hread] at h
        cases h
    | error other =>
        rw [hread] at h
        cases h
        exact (Text.standsIn_of_readNumber hdigit hread).1.mono hwithin

end Reference

namespace Resolver

variable {r : Resolver} {scope : Fields Value}

/-- Whether a fault says that an expression names no stored result, or that a number in it has
too many digits. -/
def Misses (e : String) (fault : Fault) : Prop :=
  fault = .step (.unknownReference (Expression.split e).reference) ∨
    ∃ problem : NumberProblem, problem.StandsIn e.toList ∧ fault = .badNumber problem

/-- A reference that cannot be looked up is a place that cannot be read. -/
theorem place_of_lookup {reference : String} {problem : NumberProblem}
    (h : r.lookup scope reference = .error problem) :
    Reference.place reference = .error problem := by
  unfold lookup idOf at h
  split at h
  · cases h
  · split at h
    · cases h
    · cases hplace : Reference.place reference with
      | ok place =>
          rw [hplace] at h
          cases h
      | error other =>
          rw [hplace] at h
          cases h
          rfl

theorem misses_of_resolve {e : String} {fault : Fault} (h : r.resolve scope e = .error fault) :
    Misses e fault := by
  obtain ⟨hreference, hpath⟩ := Expression.infix_split e
  unfold resolve at h
  dsimp only at h
  split at h
  · next v hv =>
    cases hwalk : v.walk (Expression.split e).path with
    | ok found =>
        rw [hwalk] at h
        cases h
    | error problem =>
        rw [hwalk] at h
        cases h
        exact Or.inr ⟨problem, (Value.standsIn_of_walk hwalk).mono hpath, rfl⟩
  · cases h
    exact Or.inl rfl
  · next problem hproblem =>
    cases h
    refine Or.inr ⟨problem, (Reference.standsIn_of_place ?_).mono hreference, rfl⟩
    exact place_of_lookup hproblem

end Resolver

/-! ## The expressions of a text -/

/-- The expressions of the holes among pieces, in order. -/
def Piece.expressions (ps : List Piece) : List String := ps.filterMap expression?

namespace Template

theorem expressions_pieces (text : List Char) :
    Piece.expressions (pieces text) = (holes text).map fun inner =>
      String.ofList (Text.trimChars inner) := by
  rw [Piece.expressions, holes, List.map_filterMap]
  apply congrArg (fun f => List.filterMap f (pieces text))
  funext p
  cases p <;> rfl

theorem hasHole_iff {s : String} : hasHole s = true ↔ Piece.expressions (pieces s.toList) ≠ [] := by
  rw [expressions_pieces, ne_eq, List.map_eq_nil_iff, ← hasHole_eq_false_iff, Bool.not_eq_false]

/-- A text that is one placeholder, blanks around it aside, is read as such. -/
theorem whole?_eq_some {s : String} {inner : List Char} (h : IsContent inner)
    (hs : Text.trimChars s.toList = (Piece.hole inner).render) :
    whole? s = some (String.ofList (Text.trimChars inner)) := by
  have hpieces := pieces_hole h []
  rw [List.append_nil, pieces_nil] at hpieces
  rw [whole?, hs, hpieces]
  rfl

theorem expressions_of_whole? {s e : String} (h : whole? s = some e) :
    Piece.expressions (pieces s.toList) = [e] := by
  obtain ⟨inner, hholes, -, rfl⟩ := exists_of_whole? h
  rw [expressions_pieces, hholes, List.map_singleton]

/-- Any other text is not. -/
theorem whole?_eq_none {s : String}
    (h : ∀ inner, IsContent inner → Text.trimChars s.toList ≠ (Piece.hole inner).render) :
    whole? s = none := by
  cases hwhole : whole? s with
  | none => rfl
  | some e =>
      obtain ⟨inner, hholes, htrim, -⟩ := exists_of_whole? hwhole
      have hmem : inner ∈ holes s.toList := by
        rw [hholes]
        exact List.mem_singleton_self inner
      exact absurd htrim (h inner (mem_holes_iff.mp hmem).1)

end Template

namespace Resolver

variable {r : Resolver} {scope : Fields Value}

/-- Whether interpolating a text substitutes the values of the expressions among its pieces. -/
structure Substitutes (r : Resolver) (scope : Fields Value) (text : String) (ps : List Piece) :
    Prop where
  /-- A text that is one placeholder, blanks around it aside, has the value of its one
  expression. -/
  whole : ∀ inner, Template.IsContent inner →
    Text.trimChars text.toList = (Piece.hole inner).render →
    Piece.expressions ps = [String.ofList (Text.trimChars inner)] ∧
      r.interpolate scope text = r.resolve scope (String.ofList (Text.trimChars inner))
  /-- Any other has its literal stretches as they are and the texts of the values between
  them. -/
  mixed : (∀ inner, Template.IsContent inner →
      Text.trimChars text.toList ≠ (Piece.hole inner).render) →
    ∀ value : String → Value, (∀ e ∈ Piece.expressions ps, r.resolve scope e = .ok (value e)) →
      r.interpolate scope text = .ok (.text (String.ofList (ps.flatMap (Piece.filled fun inner =>
        value (String.ofList (Text.trimChars inner))))))
  /-- The first expression that does not resolve is what is reported. -/
  missing : ∀ front e back fault, Piece.expressions ps = front ++ e :: back →
    (∀ d ∈ front, ∃ v, r.resolve scope d = .ok v) → r.resolve scope e = .error fault →
      r.interpolate scope text = .error fault ∧ Misses e fault

theorem renderPieces_of_values {ps : List Piece} {value : List Char → Value}
    (h : ∀ inner, .hole inner ∈ ps → r.resolve scope (String.ofList inner) = .ok (value inner)) :
    r.renderPieces scope ps = .ok (ps.flatMap (Piece.filled value)) := by
  induction ps with
  | nil => rfl
  | cons piece ps ih =>
      have hpiece : r.renderPiece scope piece = .ok (piece.filled value) := by
        cases piece with
        | literal text => rfl
        | hole inner =>
            rw [renderPiece, h inner List.mem_cons_self]
            rfl
      rw [renderPieces, hpiece]
      simp only
      rw [ih fun inner hinner => h inner (List.mem_cons_of_mem piece hinner)]
      rfl

/-- The first hole without a value ends the filling in, whatever stands behind it. -/
theorem renderPieces_of_missing {ps : List Piece} {front back : List String} {e : String}
    {fault : Fault} (hps : Piece.expressions ps = front ++ e :: back)
    (hfront : ∀ d ∈ front, ∃ v, r.resolve scope d = .ok v)
    (he : r.resolve scope e = .error fault) : r.renderPieces scope ps = .error fault := by
  induction ps generalizing front with
  | nil => simp [Piece.expressions] at hps
  | cons piece ps ih =>
      rw [renderPieces]
      cases piece with
      | literal text =>
          simp only [renderPiece]
          rw [ih hps hfront]
          rfl
      | hole inner =>
          have hps' : String.ofList (Text.trimChars inner) :: Piece.expressions ps =
              front ++ e :: back := hps
          cases front with
          | nil =>
              rw [List.nil_append, List.cons.injEq] at hps'
              rw [renderPiece, ← resolve_trimChars, hps'.1, he]
              rfl
          | cons d front =>
              rw [List.cons_append, List.cons.injEq] at hps'
              obtain ⟨v, hv⟩ := hfront d List.mem_cons_self
              rw [renderPiece, ← resolve_trimChars, hps'.1, hv]
              simp only [Except.map]
              rw [ih hps'.2 fun d hd => hfront d (List.mem_cons_of_mem _ hd)]

theorem substitutes_pieces (r : Resolver) (scope : Fields Value) (text : String) :
    r.Substitutes scope text (Template.pieces text.toList) where
  whole := by
    intro inner hinner htext
    have hwhole := Template.whole?_eq_some hinner htext
    exact ⟨Template.expressions_of_whole? hwhole, by rw [interpolate, hwhole]⟩
  mixed := by
    intro hmixed value hvalue
    have hvalues : ∀ inner, .hole inner ∈ Template.pieces text.toList →
        r.resolve scope (String.ofList inner) =
          .ok (value (String.ofList (Text.trimChars inner))) := by
      intro inner hinner
      rw [← resolve_trimChars]
      exact hvalue _ (List.mem_filterMap.mpr ⟨_, hinner, rfl⟩)
    rw [interpolate, Template.whole?_eq_none hmixed]
    simp only
    rw [renderPieces_of_values hvalues]
    rfl
  missing := by
    intro front e back fault hexpressions hfront he
    refine ⟨?_, misses_of_resolve he⟩
    rw [interpolate]
    cases hwhole : Template.whole? text with
    | some expression =>
        rw [Template.expressions_of_whole? hwhole] at hexpressions
        cases front with
        | nil =>
            obtain ⟨rfl, -⟩ := List.cons.inj hexpressions
            exact he
        | cons d front => simp at hexpressions
    | none =>
        simp only
        rw [renderPieces_of_missing hexpressions hfront he]
        rfl

/-- Interpolation is one simultaneous substitution. There is exactly one way to cut a text at
its placeholders, whoever resolves them; and interpolating the text is putting values into
that cut, or reports the first placeholder that has none. -/
theorem interpolate_substitutes (text : String) :
    ∃ ps, (∀ qs, Template.IsCutInto text.toList qs ↔ qs = ps) ∧
      ((Value.text text).hasHole = true ↔ Piece.expressions ps ≠ []) ∧
      ∀ (r : Resolver) (scope : Fields Value), r.Substitutes scope text ps := by
  refine ⟨Template.pieces text.toList, fun qs => Template.isCutInto_iff, ?_, fun r scope => ?_⟩
  · exact Template.hasHole_iff
  · exact substitutes_pieces r scope text

/-- A brace in front of a placeholder is text, and so is a value that looks like one. -/
example : Resolver.interpolate ⟨[], []⟩ [("a", .text "\x7b\x7bb\x7d\x7d"), ("b", .int 1)]
    "\x7b\x7b\x7ba\x7d\x7d\x7b\x7bb\x7d\x7d" = .ok (.text "\x7b\x7b\x7bb\x7d\x7d1") := by
  decide +kernel

end Resolver

end CallChain
