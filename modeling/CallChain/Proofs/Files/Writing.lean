/-
# What a text that is written leaves

A text that is written to a location is what the file there holds, and no other file is changed.
Directories that are missing on the way are made, and nothing that was there goes away: so a
location that stood for a place before stands for it afterwards, and what was written first is
still there once more has been written.
-/

import CallChain.Files.Basic

namespace CallChain.Files

/-- Whether all directories of earlier files are there, and all files but at most one. -/
structure Grows (fs fs' : Files) (except : Option Location) : Prop where
  /-- The directories are there. -/
  hasFolder : ∀ l, fs.hasFolder l = true → fs'.hasFolder l = true
  /-- The files are as they were. -/
  find?_eq : ∀ l, except ≠ some l → fs'.find? l = fs.find? l

namespace Grows

variable {fs fs' fs'' : Files} {except : Option Location}

theorem refl (fs : Files) : Grows fs fs except :=
  ⟨fun _ h => h, fun _ _ => rfl⟩

theorem trans (h : Grows fs fs' none) (h' : Grows fs' fs'' except) : Grows fs fs'' except where
  hasFolder l hl := h'.hasFolder l (h.hasFolder l hl)
  find?_eq l hl := (h'.find?_eq l hl).trans (h.find?_eq l nofun)

theorem enter (h : Grows fs fs' except) {whole l place : Location} {name : String}
    (henter : fs.enter whole l name = .ok place) : fs'.enter whole l name = .ok place := by
  unfold Files.enter at henter ⊢
  split at henter
  · next hup =>
    rw [if_pos hup]
    split at henter
    · next hfolder =>
      rw [if_pos (h.hasFolder l hfolder)]
      exact henter
    · cases henter
  · next hup =>
    rw [if_neg hup]
    split at henter
    · cases henter
    · next hshort =>
      rw [if_neg hshort]
      exact henter

/-- A location stands for the same place as before. -/
theorem resolve (h : Grows fs fs' except) {l place : Location}
    (hresolve : fs.resolve l = .ok place) : fs'.resolve l = .ok place := by
  have hnames : ∀ (names : List String) (start : Location),
      names.foldlM (fs.enter l) start = .ok place →
        names.foldlM (fs'.enter l) start = .ok place := by
    intro names
    induction names with
    | nil => exact fun _ hstart => hstart
    | cons name names ih =>
        intro start hstart
        rw [List.foldlM_cons] at hstart ⊢
        cases henter : fs.enter l start name with
        | error problem =>
            rw [henter] at hstart
            cases hstart
        | ok next =>
            rw [henter] at hstart
            rw [h.enter henter]
            exact ih next hstart
  unfold Files.resolve at hresolve ⊢
  split at hresolve
  · cases hresolve
  · next hnull =>
    rw [if_neg hnull]
    split at hresolve
    · cases hresolve
    · next hlong =>
      rw [if_neg hlong]
      exact hnames _ _ hresolve

end Grows

variable {fs after : Files}

/-! ## Reading -/

/-- A file that is not read has no text, or it is not there for the same reason. -/
theorem file_of_read_error {l : Location} {problem : FileProblem}
    (h : fs.read l = .error problem) :
    problem = .notText l ∧ (∃ file, fs.file l = .ok file) ∨ fs.file l = .error problem := by
  cases hfile : fs.file l with
  | ok file =>
      rw [read, hfile] at h
      dsimp only at h
      split at h <;> cases h
      exact .inl ⟨rfl, file, rfl⟩
  | error other =>
      rw [read, hfile] at h
      cases h
      exact .inr rfl

/-- A file that is read is there. -/
theorem has_of_read {l : Location} {text : String} (h : fs.read l = .ok text) :
    fs.has l = .ok true := by
  cases hfile : fs.file l with
  | ok file => rw [has, hfile]
  | error problem =>
      rw [read, hfile] at h
      cases h

/-! ## Binding and making -/

/-- The file that is bound is found. -/
theorem find?_bind_self (fs : Files) (l : Location) (file : File) :
    (fs.bind l file).find? l = some file := by
  have hnone : (fs.entries.filter (·.1 ≠ l)).lookup l = none := by
    rw [List.lookup_eq_none_iff]
    intro entry hentry
    have hne := of_decide_eq_true (List.mem_filter.mp hentry).2
    simpa using fun heq : l = entry.1 => hne heq.symm
  rw [find?, bind, List.lookup_append, hnone]
  simp

/-- Binding one entry anew leaves all other files, and all directories. -/
theorem grows_bind (fs : Files) (l : Location) (file : File) :
    Grows fs (fs.bind l file) (some l) where
  hasFolder folder h := by
    simp only [Files.hasFolder, bind, Bool.or_eq_true] at h ⊢
    rcases h with h | h
    · exact Or.inl h
    · obtain ⟨entry, hentry, habove⟩ := List.any_eq_true.mp h
      refine Or.inr (List.any_eq_true.mpr ?_)
      by_cases heq : entry.1 = l
      · exact ⟨(l, file), by simp, heq ▸ habove⟩
      · exact ⟨entry, List.mem_append_left _ (List.mem_filter.mpr ⟨hentry, by simpa⟩), habove⟩
  find?_eq other hother := by
    have hne : (other == l) = false := beq_eq_false_iff_ne.mpr fun heq => hother (by rw [heq])
    have hkept : ∀ entries : List (Location × File),
        (entries.filter (·.1 ≠ l)).lookup other = entries.lookup other := by
      intro entries
      induction entries with
      | nil => rfl
      | cons entry entries ih =>
          by_cases heq : entry.1 = l
          · rw [List.filter_cons_of_neg (by simpa), List.lookup_cons, ih, heq, hne]
          · rw [List.filter_cons_of_pos (by simpa), List.lookup_cons, List.lookup_cons, ih]
    rw [find?, find?, bind, List.lookup_append, hkept, List.lookup_cons, hne]
    exact Option.or_none

theorem grows_makeOne {l : Location} (h : fs.makeOne l = .ok after) : Grows fs after none := by
  unfold makeOne at h
  split at h
  · cases h
  · split at h
    · cases h
    · split at h
      · cases h
      · split at h
        · cases h
          exact .refl _
        · split at h
          · cases h
          · cases h
            refine ⟨fun folder hfolder => ?_, fun _ _ => rfl⟩
            simp only [hasFolder, Bool.or_eq_true, List.any_cons] at hfolder ⊢
            rcases hfolder with (hup | hmade) | habove
            · exact Or.inl (Or.inl hup)
            · exact Or.inl (Or.inr (Or.inr hmade))
            · exact Or.inr habove

theorem grows_makeWay (fs : Files) (root : String) (names : List String) :
    Grows fs (fs.makeWay root names).1 none := by
  induction names with
  | nil => exact .refl _
  | cons name above ih =>
      unfold makeWay
      dsimp only
      split
      · next made hmade => exact grows_makeOne hmade
      · split
        · next made problem hway =>
          rw [hway] at ih
          exact ih
        · next made hway =>
          rw [hway] at ih
          split
          · next after hmade => exact ih.trans (grows_makeOne hmade)
          · exact ih
      · exact .refl _

/-- A text that has been written is in the file that its location stands for; no other file is
changed. -/
theorem file_of_write {l : Location} {text : String} (h : fs.write l text = (after, none)) :
    ∃ place access, after.resolve l = .ok place ∧ after.find? place = some ⟨text, access⟩ ∧
      Grows fs after (some place) := by
  have hfolder : Grows fs (fs.makeFolder l.parent).1 none := grows_makeWay fs _ _
  unfold write at h
  split at h
  · cases h
  · next made hmade =>
    rw [hmade] at hfolder
    split at h
    · next written hput =>
      cases h
      unfold put at hput
      cases hresolve : made.resolve l with
      | error problem =>
          rw [hresolve] at hput
          cases hput
      | ok place =>
          rw [hresolve] at hput
          simp only [Bind.bind, Except.bind] at hput
          split at hput
          · cases hput
          · cases hput
            have hbound := grows_bind made place
            exact ⟨place, _, (hbound _).resolve hresolve, find?_bind_self _ _ _,
              hfolder.trans (hbound _)⟩
    · cases h

end CallChain.Files
