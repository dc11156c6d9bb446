/-
# One slot of a document

The token is kept in one member of a document that others use, too. Each change reads the whole
file and writes it anew, so that what it says of the other members rests on the JSON that is
written being read as what it was written for. A file without a document counts as an empty one.

`Holds` says what the members of a file are, and `Faults` when there are none because the file
cannot be read and the problem is not one that counts as an empty file: every operation reports
it then, and changes nothing. In all other cases the token is what the last change says, and the
other members are as they were.
-/

import CallChain.Proofs.Files.Writing
import CallChain.Proofs.Json.Rewritten
import CallChain.TokenStore

namespace CallChain.TokenStore

open Json (Writable)

/-! ## What a file holds -/

section Content

variable (store : TokenStore) (fs : Files)

/-- The members that a file holds. -/
inductive Holds : Fields Value → Prop
  /-- None, since the file is missing or cannot be read. -/
  | unread {problem : FileProblem} (h : fs.read store.location = .error problem)
    (hname : ∀ l, problem ≠ .longName l) (htext : ∀ l, problem ≠ .notText l) : Holds []
  /-- None, since its text cannot be parsed. -/
  | malformed {text : String} {problem : Json.Error} (h : fs.read store.location = .ok text)
    (hjson : Json.read text = .error (.malformed problem)) : Holds []
  /-- None, since its text is no object. -/
  | other {text : String} {v : Value} (h : fs.read store.location = .ok text)
    (hjson : Json.read text = .ok v) (hv : ∀ fields, v ≠ .object fields) : Holds []
  /-- Those of an object. -/
  | object {text : String} {fields : Fields Value} (h : fs.read store.location = .ok text)
    (hjson : Json.read text = .ok (.object fields)) : Holds fields

/-- Why what a file holds is not known. -/
inductive Faults : Fault → Prop
  /-- A name on the way to it is too long. -/
  | longName {l : Location} (h : fs.read store.location = .error (.longName l)) :
    Faults (.badFile (.longName l))
  /-- It is not written in UTF-8. -/
  | notText {l : Location} (h : fs.read store.location = .error (.notText l)) :
    Faults (.badFile (.notText l))
  /-- A number in it cannot be read. -/
  | number {text : String} {problem : NumberProblem} (h : fs.read store.location = .ok text)
    (hjson : Json.read text = .error (.number problem)) : Faults (.badNumber problem)
  /-- Lists and objects in it are nested too deeply. -/
  | tooDeep {text : String} (h : fs.read store.location = .ok text)
    (hjson : Json.read text = .error .tooDeep) : Faults .nestedTooDeep

end Content

variable {store : TokenStore} {fs after : Files} {fields : Fields Value} {fault : Fault}

/-- Unless a name is too long, it is known whether a file that is not read is there. -/
theorem has_of_read_error {problem : FileProblem} (h : fs.read store.location = .error problem)
    (hname : ∀ l, problem ≠ .longName l) : ∃ found, fs.has store.location = .ok found := by
  rcases Files.file_of_read_error h with ⟨-, file, hfile⟩ | hfile
  · exact ⟨true, by rw [Files.has, hfile]⟩
  · rw [Files.has, hfile]
    cases problem with
    | longName l => exact absurd rfl (hname l)
    | _ => exact ⟨_, rfl⟩

theorem content_of_read {text : String} (h : fs.read store.location = .ok text) :
    store.content fs = contentOf text := by
  simp only [content, Files.has_of_read h, h]

theorem Holds.content_eq (h : store.Holds fs fields) : store.content fs = .ok fields := by
  cases h with
  | unread h hname htext =>
      obtain ⟨found, hhas⟩ := has_of_read_error h hname
      simp only [content, hhas, h]
  | malformed h hjson => rw [content_of_read h, contentOf, hjson]
  | @other text v h hjson hv =>
      rw [content_of_read h, contentOf, hjson]
      cases v with
      | object fields => exact absurd rfl (hv fields)
      | _ => rfl
  | object h hjson => rw [content_of_read h, contentOf, hjson]

theorem Faults.content_eq (h : store.Faults fs fault) : store.content fs = .error fault := by
  cases h with
  | @longName l h =>
      have hhas : fs.has store.location = .error (.longName l) := by
        have hnone := (Files.file_of_read_error h).resolve_left fun hl => by cases hl.1
        rw [Files.has, hnone]
      simp only [content, hhas]
  | @notText l h =>
      obtain ⟨found, hhas⟩ := has_of_read_error h fun _ hl => by cases hl
      simp only [content, hhas, h]
  | number h hjson => rw [content_of_read h, contentOf, hjson]
  | tooDeep h hjson => rw [content_of_read h, contentOf, hjson]

theorem faults_or_holds (store : TokenStore) (fs : Files) :
    (∃ fault, store.Faults fs fault) ∨ ∃ fields, store.Holds fs fields := by
  cases h : fs.read store.location with
  | error problem =>
      cases problem with
      | longName l => exact .inl ⟨_, .longName h⟩
      | notText l => exact .inl ⟨_, .notText h⟩
      | _ => exact .inr ⟨_, .unread h nofun nofun⟩
  | ok text =>
      cases hjson : Json.read text with
      | error refusal =>
          cases refusal with
          | malformed problem => exact .inr ⟨_, .malformed h hjson⟩
          | number problem => exact .inl ⟨_, .number h hjson⟩
          | tooDeep => exact .inl ⟨_, .tooDeep h hjson⟩
      | ok v =>
          by_cases hv : ∃ fields, v = .object fields
          · obtain ⟨fields, rfl⟩ := hv
            exact .inr ⟨_, .object h hjson⟩
          · exact .inr ⟨_, .other h hjson (not_exists.mp hv)⟩

/-- What a file holds can be written. -/
theorem Holds.writable (h : store.Holds fs fields) :
    Writable Json.nestingLimit (.object fields) := by
  cases h with
  | object h hjson => exact Json.writable_of_read hjson
  | _ => exact .object List.nodup_nil (List.forall_mem_nil _)

/-! ## Writing -/

/-- A file that is kept to its owner holds what it held. -/
theorem read_protect {l place : Location} {text : String} {access : Access}
    (hplace : fs.resolve l = .ok place) (hfile : fs.find? place = some ⟨some text, access⟩) :
    (fs.protect l).read l = .ok (String.ofList (Files.withLineFeeds text.toList)) := by
  have hprotect : fs.protect l = fs.bind place ⟨some text, .ownerOnly⟩ := by
    simp only [Files.protect, hplace, hfile]
  have hresolve := (Files.grows_bind fs place ⟨some text, .ownerOnly⟩).resolve hplace
  rw [hprotect, Files.read, Files.file, hresolve]
  simp only [Files.find?_bind_self]

/-- Members that are written are what the file holds. -/
theorem holds_of_write (hwritable : Writable Json.nestingLimit (.object fields))
    (h : store.write fs fields = (.ok true, after)) : store.Holds after fields := by
  unfold write at h
  split at h
  · next written hwrite =>
    cases h
    obtain ⟨place, access, hplace, hfile, -⟩ := Files.file_of_write hwrite
    have hread := read_protect hplace hfile
    rw [Json.indented, String.toList_ofList,
      Files.withLineFeeds_eq (Json.not_mem_indentedChars 0 _)] at hread
    exact .object hread (Json.read_indented hwritable)
  · cases h
  · cases h

/-! ## Changes -/

/-- What is done with the token. -/
inductive Change where
  /-- Another one is stored. -/
  | set (token : String)
  /-- It is removed. -/
  | remove

namespace Change

/-- Whether a change succeeds, and the files after it. -/
def run (store : TokenStore) (fs : Files) : Change → Except Fault Bool × Files
  | set token => store.set fs token
  | remove => store.remove fs

/-- The token after a change: the empty one is none. -/
def token? : Change → Option String
  | set token => if token = "" then none else some token
  | remove => none

end Change

/-- Whether changes succeed, one after another, and what files they lead to. -/
inductive Succeed (store : TokenStore) : Files → List Change → Files → Prop
  /-- Nothing is changed. -/
  | nil (fs : Files) : Succeed store fs [] fs
  /-- A first change succeeds, and so do the others. -/
  | cons {fs next after : Files} {change : Change} {changes : List Change}
    (h : change.run store fs = (.ok true, next)) (hrest : Succeed store next changes after) :
    Succeed store fs (change :: changes) after

theorem writable_set {levels : Nat} (h : Writable (levels + 1) (.object fields)) (name s : String) :
    Writable (levels + 1) (.object (fields.set name (.text s))) := by
  cases h with
  | scalar h => exact h.elim
  | object hnames hfields =>
      refine .object (Fields.Distinct.set hnames name _) fun field hfield => ?_
      rcases Fields.mem_of_mem_set hfield with hold | rfl
      · exact hfields field hold
      · exact .text s

theorem writable_erase {levels : Nat} (h : Writable (levels + 1) (.object fields))
    (name : String) : Writable (levels + 1) (.object (fields.erase name)) := by
  cases h with
  | scalar h => exact h.elim
  | object hnames hfields =>
      exact .object (Fields.Distinct.erase hnames name) fun field hfield =>
        hfields field (List.mem_filter.mp hfield).1

theorem tokenOf?_of_not_has (h : fields.has store.key = false) : store.tokenOf? fields = none := by
  rw [Fields.has, Option.isSome_eq_false_iff, Option.isNone_iff_eq_none] at h
  rw [tokenOf?, h]
  rfl

/-- Without a token nothing is removed. -/
theorem Holds.remove_of_not_has (h : store.Holds fs fields) (hhas : fields.has store.key = false) :
    store.remove fs = (.ok true, fs) := by
  simp [remove, h.content_eq, hhas]

/-- A token that is removed is gone, and the other members stay. -/
theorem Holds.of_remove (h : store.Holds fs fields)
    (hremove : store.remove fs = (.ok true, after)) :
    ∃ fields', store.Holds after fields' ∧ store.tokenOf? fields' = none ∧
      fields'.erase store.key = fields.erase store.key := by
  cases hhas : fields.has store.key with
  | false =>
      rw [h.remove_of_not_has hhas] at hremove
      cases hremove
      exact ⟨fields, h, tokenOf?_of_not_has hhas, rfl⟩
  | true =>
      simp only [remove, h.content_eq, hhas, if_true] at hremove
      refine ⟨fields.erase store.key, holds_of_write (writable_erase h.writable _) hremove, ?_,
        Fields.erase_erase _ _⟩
      simp [tokenOf?]

/-- After a change the token is what it says, and the other members stay. -/
theorem Holds.of_run (h : store.Holds fs fields) {change : Change}
    (hrun : change.run store fs = (.ok true, after)) :
    ∃ fields', store.Holds after fields' ∧ store.tokenOf? fields' = change.token? ∧
      fields'.erase store.key = fields.erase store.key := by
  cases change with
  | remove => exact h.of_remove hrun
  | set token =>
      by_cases hempty : token = ""
      · simp only [Change.run, set, hempty, if_true] at hrun
        simpa only [Change.token?, hempty, if_true] using h.of_remove hrun
      · simp only [Change.run, set, hempty, if_false, h.content_eq] at hrun
        refine ⟨_, holds_of_write (writable_set h.writable _ _) hrun, ?_, Fields.erase_set _ _ _⟩
        simp [tokenOf?, Change.token?, hempty, Value.text?]

/-- After all changes the token is what the last one says, and the other members stay. -/
theorem Succeed.holds {changes : List Change} (h : store.Succeed fs changes after)
    (hholds : store.Holds fs fields) :
    ∃ fields', store.Holds after fields' ∧
      store.tokenOf? fields' = (changes.getLast?.map Change.token?).getD (store.tokenOf? fields) ∧
      fields'.erase store.key = fields.erase store.key := by
  induction h generalizing fields with
  | nil fs => exact ⟨fields, hholds, rfl, rfl⟩
  | @cons fs next after change changes hrun hrest ih =>
      obtain ⟨middle, hmiddle, htoken, hothers⟩ := hholds.of_run hrun
      obtain ⟨fields', hafter, hlast, hkept⟩ := ih hmiddle
      refine ⟨fields', hafter, ?_, hkept.trans hothers⟩
      rw [hlast, htoken]
      cases changes with
      | nil => rfl
      | cons second changes =>
          rw [List.getLast?_cons_cons, List.getLast?_cons]
          rfl

/-- A store whose file is `s.json`. -/
def besideCounter : TokenStore := ⟨.ofText "s.json", "token"⟩

/-- Files with a counter in `s.json`. -/
def counterFile : Files where
  entries := [(.ofText "s.json", ⟨"\x7b\"n\": 1\x7d", .shared⟩)]

end CallChain.TokenStore
