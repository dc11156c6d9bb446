/-
# Documents say what they were made from

The text of a document is read as one object, and every part of the document can be read
back from it with the reader of its kind: the entries and the transformations as they are
imported, the other members as texts. A text of a document therefore belongs to one
document only. Fields are lists of pairs, so that the order of the names is among what is
read back.
-/

import CallChain.Proofs.Document.Reading

namespace CallChain

namespace SequenceDocument

/-- Whether the members of an object, each read as an import reads it, are the parts of a
document. -/
structure Decodes (v : Value) (d : SequenceDocument) : Prop where
  /-- The version of the format. -/
  version : (v.field? "version").bind Value.text? = some d.version
  /-- The name. -/
  name : (v.field? "name").bind Value.text? = some d.name
  /-- What the sequence does. -/
  description : (v.field? "description").bind Value.text? = some d.description
  /-- The entries: each item of the list is one, and none is left out. -/
  sequence : ((v.field? "sequence").bind Value.list?).bind (List.mapM Entry.ofValue?) =
    some d.sequence
  /-- The transformations. -/
  transformations : v.object?.bind documentTransformations = some d.transformations
  /-- When the document was made. -/
  timestamp : (v.field? "timestamp").bind Value.text? = some d.timestamp
  /-- The base address. -/
  baseUrl : (v.field? "baseUrl").bind Value.text? = some d.baseUrl

variable {d d' : SequenceDocument} {v : Value}

theorem decodes_toValue (d : SequenceDocument) : Decodes d.toValue d where
  version := rfl
  name := rfl
  description := rfl
  sequence := mapM_map_eq_some Entry.toValue Entry.ofValue? Entry.ofValue?_toValue d.sequence
  transformations := documentTransformations_toValue d
  timestamp := rfl
  baseUrl := rfl

/-- An object says at most one document. -/
theorem Decodes.unique (h : Decodes v d) (h' : Decodes v d') : d = d' := by
  have hsequence := h.sequence.symm.trans h'.sequence
  have htransformations := h.transformations.symm.trans h'.transformations
  obtain ⟨version, name, description, sequence, transformations, timestamp, baseUrl⟩ := d
  cases Option.some.inj (h.version.symm.trans h'.version)
  cases Option.some.inj (h.name.symm.trans h'.name)
  cases Option.some.inj (h.description.symm.trans h'.description)
  cases Option.some.inj hsequence
  cases Option.some.inj htransformations
  cases Option.some.inj (h.timestamp.symm.trans h'.timestamp)
  cases Option.some.inj (h.baseUrl.symm.trans h'.baseUrl)
  rfl

/-- The text of a document is JSON for an object that says this document and no other. The
names of parameters and bindings have to be distinct, as the names of one record are. -/
theorem read_text_decodes (hd : ∀ e ∈ d.sequence, e.Distinct) :
    ∃ fields, Json.read d.text = .ok (.object fields) ∧
      Fields.keys fields = ["version", "name", "description", "sequence", "dataTransformations",
        "timestamp", "baseUrl"] ∧
      ∀ d', Decodes (.object fields) d' ↔ d' = d := by
  have hread : Json.read d.text = .ok d.toValue := Json.read_indentedRaw (plain_toValue hd 980)
  refine ⟨_, hread, rfl, fun d' => ⟨fun h => h.unique d.decodes_toValue, ?_⟩⟩
  rintro rfl
  exact d'.decodes_toValue

/-- A document whose texts look like other things: flags, numbers, null, quotes, escapes,
control characters and JSON. -/
def lookalike : SequenceDocument where
  version := "1.0"
  name := "null"
  description := "\"\\u0041\"\n\t\x7f"
  sequence := [
    { method := "true", path := "5", summary := "\\", tags := ["[]", ""]
      parameters := {
        path := [("b", "5"), ("a", "\x7b\"a\":1\x7d")]
        query := [("z", .flag true), ("true", .text "true"), ("", .text "")]
        body := some "null" }
      mappings := [("z", "\x00"), ("a", "é")]
      iteration := some { enabled := true, source := "step0.data", loopVariable := "\"" } },
    { method := "", path := "" }]
  transformations := {
    mappings := [⟨"a", "b"⟩]
    columns := [⟨"c", "\x7ba\x7d \x7bb\x7d"⟩] }
  timestamp := ""
  baseUrl := "\r\n"

theorem read_text_decodes_lookalike :
    (∀ e ∈ lookalike.sequence, e.Distinct) ∧
    ∃ fields, Json.read lookalike.text = .ok (.object fields) ∧
      Fields.keys fields = ["version", "name", "description", "sequence", "dataTransformations",
        "timestamp", "baseUrl"] ∧
      ∀ d', Decodes (.object fields) d' ↔ d' = lookalike := by
  have hdistinct : ∀ e ∈ lookalike.sequence, e.Distinct := by
    intro e he
    rcases List.mem_pair.mp he with rfl | rfl
    · exact ⟨by decide, by decide, by decide⟩
    · exact ⟨List.nodup_nil, List.nodup_nil, List.nodup_nil⟩
  exact ⟨hdistinct, read_text_decodes hdistinct⟩

end SequenceDocument

end CallChain
