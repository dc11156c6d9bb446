/-
# Distinct keys

A mapping that is read from a document binds each of its keys once: of several entries with
equal keys the last one counts, at the place of the first. The same holds of all mappings
inside of it, and of those that take entries from others.

Of a loader in general only `BindsNamesOnce` can be asked: two keys that are no numbers
are never the same key, although nothing tells them apart.
-/

import CallChain.Proofs.Json.Reading
import CallChain.Yaml.Loader
import Mathlib.Data.List.Nodup

namespace CallChain.Yaml

/-! ## Entries -/

/-- The keys of entries, in order. -/
def keys (entries : List (Scalar × Node)) : List Scalar := entries.map fun entry => entry.1.key

theorem keys_setEntry (entries : List (Scalar × Node)) (key : Scalar) (node : Node) :
    keys (setEntry entries key node) =
      if key.key ∈ keys entries then keys entries else keys entries ++ [key.key] := by
  induction entries with
  | nil => simp [setEntry, keys]
  | cons entry entries ih =>
      obtain ⟨k, old⟩ := entry
      simp only [keys] at ih
      by_cases h : k.key = key.key
      · simp [setEntry, keys, h]
      · have hne : ¬key.key = k.key := fun heq => h heq.symm
        rw [setEntry, if_neg h, keys, List.map_cons, ih]
        by_cases hmem : key.key ∈ entries.map fun entry => entry.1.key <;> simp [keys, hne, hmem]

theorem nodup_keys_setEntry {entries : List (Scalar × Node)} (h : (keys entries).Nodup)
    (key : Scalar) (node : Node) : (keys (setEntry entries key node)).Nodup := by
  rw [keys_setEntry]
  split
  · exact h
  · next hnew =>
    refine List.nodup_append.mpr ⟨h, List.nodup_singleton _, fun k hk other hother heq => hnew ?_⟩
    rwa [heq, List.mem_singleton.mp hother] at hk

/-- What is bound is the new node, or was bound before. -/
theorem of_mem_setEntry {entries : List (Scalar × Node)} {key : Scalar} {node : Node}
    {entry : Scalar × Node} (h : entry ∈ setEntry entries key node) :
    entry.2 = node ∨ entry ∈ entries := by
  induction entries with
  | nil => exact Or.inl (by rw [List.mem_singleton.mp h])
  | cons first entries ih =>
      rw [setEntry] at h
      split at h
      · rcases List.mem_cons.mp h with rfl | h
        · exact Or.inl rfl
        · exact Or.inr (List.mem_cons_of_mem _ h)
      · rcases List.mem_cons.mp h with rfl | h
        · exact Or.inr List.mem_cons_self
        · exact (ih h).imp_right (List.mem_cons_of_mem _)

/-! ## Nodes -/

/-- Whether every mapping in a node binds each of its keys once. -/
inductive Node.HasDistinctKeys : Node → Prop
  /-- A single value. -/
  | scalar (s : Scalar) : HasDistinctKeys (.scalar s)
  /-- A list. -/
  | list {items : List Node} (h : ∀ item ∈ items, HasDistinctKeys item) :
    HasDistinctKeys (.list items)
  /-- A mapping. -/
  | mapping {entries : List (Scalar × Node)} (hkeys : (keys entries).Nodup)
    (h : ∀ entry ∈ entries, HasDistinctKeys entry.2) : HasDistinctKeys (.mapping entries)

namespace Node.HasDistinctKeys

variable {node : Node} {items : List Node} {entries : List (Scalar × Node)}

theorem of_mem_items (h : HasDistinctKeys (.list items)) {item : Node} (hmem : item ∈ items) :
    item.HasDistinctKeys := by
  cases h with
  | list h => exact h item hmem

theorem of_mem_entries (h : HasDistinctKeys (.mapping entries)) {entry : Scalar × Node}
    (hmem : entry ∈ entries) : entry.2.HasDistinctKeys := by
  cases h with
  | mapping _ h => exact h entry hmem

/-- Entries that are bound one after another bind each key once. -/
theorem ofEntries (h : ∀ entry ∈ entries, HasDistinctKeys entry.2) :
    (Node.ofEntries entries).HasDistinctKeys := by
  have hbound : ∀ (later bound : List (Scalar × Node)), (keys bound).Nodup →
      (∀ entry ∈ bound ++ later, HasDistinctKeys entry.2) →
      HasDistinctKeys (.mapping
        (later.foldl (fun bound entry => setEntry bound entry.1 entry.2) bound)) := by
    intro later
    induction later with
    | nil => exact fun bound hkeys hall => .mapping hkeys (by simpa using hall)
    | cons entry later ih =>
        intro bound hkeys hall
        refine ih _ (nodup_keys_setEntry hkeys entry.1 entry.2) fun other hother => ?_
        rcases List.mem_append.mp hother with hmem | hmem
        · rcases of_mem_setEntry hmem with heq | hmem
          · rw [heq]
            exact hall entry (by simp)
          · exact hall other (by simp [hmem])
        · exact hall other (by simp [hmem])
  exact hbound entries [] List.nodup_nil h

end Node.HasDistinctKeys

/-! ## Documents -/

theorem exists_of_mem_mapM {α β : Type} {f : α → Option β} {items : List α} {images : List β}
    (h : items.mapM f = some images) {b : β} (hb : b ∈ images) : ∃ a ∈ items, f a = some b := by
  induction items generalizing images with
  | nil =>
      cases h
      cases hb
  | cons first items ih =>
      simp only [List.mapM_cons, Option.bind_eq_bind, Option.bind_eq_some_iff, Option.pure_def,
        Option.some.injEq] at h
      obtain ⟨image, himage, rest, hrest, rfl⟩ := h
      rcases List.mem_cons.mp hb with rfl | hb
      · exact ⟨first, List.mem_cons_self, himage⟩
      · obtain ⟨a, ha, heq⟩ := ih hrest hb
        exact ⟨a, List.mem_cons_of_mem _ ha, heq⟩

namespace Tree

/-- What a mapping takes from a node with distinct keys has distinct keys. -/
theorem hasDistinctKeys_taken {node : Node} (hnode : node.HasDistinctKeys)
    {entries : List (Scalar × Node)} (h : taken node = .ok entries) :
    ∀ entry ∈ entries, entry.2.HasDistinctKeys := by
  cases node with
  | scalar s => cases h
  | mapping own =>
      cases h
      exact fun entry hmem => hnode.of_mem_entries hmem
  | list items =>
      rw [taken] at h
      split at h
      · next mappings hmappings =>
        cases h
        intro entry hmem
        obtain ⟨own, hown, hmem⟩ := List.mem_flatten.mp hmem
        obtain ⟨item, hitem, heq⟩ := exists_of_mem_mapM hmappings (List.mem_reverse.mp hown)
        have hitem := hnode.of_mem_items hitem
        cases item with
        | mapping entries =>
            cases heq
            exact hitem.of_mem_entries hmem
        | _ => cases heq
      · cases h

mutual
/-- The node that a tree means has distinct keys. -/
theorem hasDistinctKeys_node : ∀ {tree : Tree} {n : Node}, node tree = .ok n → n.HasDistinctKeys
  | leaf l, n, h => by
      obtain ⟨s, -, rfl⟩ := exists_ok_of_map h
      exact .scalar s
  | list items, n, h => by
      obtain ⟨ns, hns, rfl⟩ := exists_ok_of_map h
      exact .list (hasDistinctKeys_nodes hns)
  | mapping entries, n, h => by
      obtain ⟨⟨others, own⟩, hentries, rfl⟩ := exists_ok_of_map h
      exact Node.HasDistinctKeys.ofEntries (hasDistinctKeys_entryNodes hentries)

theorem hasDistinctKeys_nodes : ∀ {trees : List Tree} {ns : List Node}, nodes trees = .ok ns →
    ∀ n ∈ ns, n.HasDistinctKeys
  | [], ns, h => by
      cases h
      exact nofun
  | tree :: trees, ns, h => by
      obtain ⟨first, hfirst, h⟩ := exists_ok_of_bind h
      obtain ⟨others, hothers, h⟩ := exists_ok_of_bind h
      cases h
      exact List.forall_mem_cons.mpr ⟨hasDistinctKeys_node hfirst, hasDistinctKeys_nodes hothers⟩

theorem hasDistinctKeys_entryNodes : ∀ {entries : List (Lexeme × Tree)}
    {others own : List (Scalar × Node)}, entryNodes entries = .ok (others, own) →
    ∀ entry ∈ others ++ own, entry.2.HasDistinctKeys
  | [], others, own, h => by
      cases h
      exact nofun
  | (l, tree) :: entries, others, own, h => by
      rw [entryNodes] at h
      split at h
      · obtain ⟨n, hn, h⟩ := exists_ok_of_bind h
        obtain ⟨first, hfirst, h⟩ := exists_ok_of_bind h
        obtain ⟨⟨others', own'⟩, hrest, h⟩ := exists_ok_of_bind h
        cases h
        intro entry hmem
        rw [List.append_assoc] at hmem
        rcases List.mem_append.mp hmem with hmem | hmem
        · exact hasDistinctKeys_taken (hasDistinctKeys_node hn) hfirst entry hmem
        · exact hasDistinctKeys_entryNodes hrest entry hmem
      · obtain ⟨key, -, h⟩ := exists_ok_of_bind h
        obtain ⟨value, hvalue, h⟩ := exists_ok_of_bind h
        obtain ⟨⟨others', own'⟩, hrest, h⟩ := exists_ok_of_bind h
        cases h
        intro entry hmem
        rcases List.mem_append.mp hmem with hmem | hmem
        · exact hasDistinctKeys_entryNodes hrest entry (List.mem_append_left _ hmem)
        · rcases List.mem_cons.mp hmem with rfl | hmem
          · exact hasDistinctKeys_node hvalue
          · exact hasDistinctKeys_entryNodes hrest entry (List.mem_append_right _ hmem)
end

end Tree

/-- A document that is read has distinct keys. -/
theorem hasDistinctKeys_of_read {text : String} {document : Node} (h : read text = .ok document) :
    document.HasDistinctKeys := by
  unfold read at h
  split at h
  · obtain ⟨tree, -, htree⟩ := exists_ok_of_bind h
    exact Tree.hasDistinctKeys_node htree
  · cases h

/-! ## Loaders -/

/-- Whether a key can be a name: it is a text or may be taken for one. -/
def Scalar.isName : Scalar → Bool
  | text _ | foreign _ => true
  | _ => false

/-- Whether every mapping in a node binds each name once. -/
inductive Node.BindsNamesOnce : Node → Prop
  /-- A single value. -/
  | scalar (s : Scalar) : BindsNamesOnce (.scalar s)
  /-- A list. -/
  | list {items : List Node} (h : ∀ item ∈ items, BindsNamesOnce item) :
    BindsNamesOnce (.list items)
  /-- A mapping. -/
  | mapping {entries : List (Scalar × Node)}
    (hnames : entries.Pairwise fun entry later => entry.1.isName = true → entry.1 ≠ later.1)
    (h : ∀ entry ∈ entries, BindsNamesOnce entry.2) : BindsNamesOnce (.mapping entries)

namespace Node.BindsNamesOnce

variable {entries : List (Scalar × Node)}

theorem of_mem_entries (h : BindsNamesOnce (.mapping entries)) {entry : Scalar × Node}
    (hmem : entry ∈ entries) : entry.2.BindsNamesOnce := by
  cases h with
  | mapping _ h => exact h entry hmem

theorem pairwise (h : BindsNamesOnce (.mapping entries)) :
    entries.Pairwise fun entry later => entry.1.isName = true → entry.1 ≠ later.1 := by
  cases h with
  | mapping hnames _ => exact hnames

/-- Where each key is bound once, each name is. -/
theorem of_hasDistinctKeys {node : Node} (h : node.HasDistinctKeys) : node.BindsNamesOnce := by
  induction h with
  | scalar s => exact .scalar s
  | list _ ih => exact .list ih
  | mapping hkeys _ ih =>
      refine .mapping ((List.pairwise_map.mp hkeys).imp fun hne _ heq => hne ?_) ih
      rw [heq]

end Node.BindsNamesOnce

/-- Whether the documents that a loader gives bind each name once. -/
def Loader.BindsNamesOnce (yaml : Loader) : Prop :=
  ∀ text document, yaml.load text = .ok document → document.BindsNamesOnce

theorem Loader.plain_bindsNamesOnce : Loader.plain.BindsNamesOnce := by
  intro text document h
  cases hread : read text with
  | error refusal =>
      rw [plain_load, hread] at h
      cases h
  | ok node =>
      rw [plain_load, hread] at h
      cases h
      exact .of_hasDistinctKeys (hasDistinctKeys_of_read hread)

end CallChain.Yaml
