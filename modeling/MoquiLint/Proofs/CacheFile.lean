import MoquiLint.Proofs.DiskChange
import MoquiLint.Proofs.Records
import MoquiLint.Store.Cache

/-!
# The written form of a cache

A cache is read back from its JSON form and from the file it is saved in. The entries of a cache are in
the order of their paths, so reading them one after the other puts each at the end.
-/
namespace MoquiLint

namespace Keyed

/-- Strictly sorted by name, so each name occurs at most once. -/
def Sorted {α : Type} (l : List (String × α)) : Prop := (l.map Prod.fst).Pairwise (· < ·)

theorem sorted_nil {α : Type} : Sorted ([] : List (String × α)) := List.Pairwise.nil

theorem mem_names_insert {α : Type} {name n : String} {a : α} {l : List (String × α)} :
    n ∈ (insert name a l).map Prod.fst ↔ n = name ∨ n ∈ l.map Prod.fst := by
  induction l with
  | nil => simp [insert]
  | cons x l ih =>
    obtain ⟨m, b⟩ := x
    simp only [insert]
    split
    · rename_i h
      simp [h]
    · split
      · simp
      · simp only [List.map_cons, List.mem_cons, ih]
        tauto

theorem sorted_insert {α : Type} (name : String) (a : α) {l : List (String × α)} (h : Sorted l) :
    Sorted (insert name a l) := by
  induction l with
  | nil => simp [insert, Sorted]
  | cons x l ih =>
    obtain ⟨n, b⟩ := x
    have hx := List.pairwise_cons.mp h
    simp only [insert]
    split
    · rename_i he
      subst he
      exact h
    · rename_i hne
      split
      · rename_i hlt
        refine List.pairwise_cons.mpr ⟨?_, h⟩
        intro m hm
        rcases List.mem_cons.mp hm with rfl | hm
        · exact hlt
        · exact String.lt_trans hlt (hx.1 m hm)
      · rename_i hge
        have hlt : n < name := by
          rw [← String.not_le]
          intro hle
          exact hne (String.le_antisymm hle (String.not_lt.mp hge))
        refine List.pairwise_cons.mpr ⟨?_, ih hx.2⟩
        intro m hm
        rcases mem_names_insert.mp hm with rfl | hm
        · exact hlt
        · exact hx.1 m hm

theorem insert_last {α : Type} {name : String} {a : α} {l : List (String × α)}
    (h : ∀ n ∈ l.map Prod.fst, n < name) : insert name a l = l ++ [(name, a)] := by
  induction l with
  | nil => rfl
  | cons x l ih =>
    obtain ⟨n, b⟩ := x
    have hn : n < name := h n (by simp)
    have hne : ¬ name = n := fun he => String.ne_of_lt hn he.symm
    rw [insert, if_neg hne, if_neg (String.lt_asymm hn), ih fun m hm => h m (by simp [hm])]
    rfl

end Keyed

namespace ResultCache
open Json (Member inTurn readRecord readString objectMembers? occurrences)

/-- Caches as they are kept: the entries are sorted by path. -/
def IsSorted (c : ResultCache) : Prop := Keyed.Sorted (c.entries.getD [])

theorem isSorted_put {c : ResultCache} (h : c.IsSorted) (path hash : String) (d : Dialect) (r : Findings) :
    (c.put path hash d r).IsSorted :=
  Keyed.sorted_insert path _ h

theorem isFaithful_entryJson (e : CachedEntry) : (entryJson e).IsFaithful := by
  refine Json.isFaithful_obj ?_
  simp only [List.forall_mem_cons]
  exact ⟨Json.isFaithful_string _, Json.isFaithful_string _, Findings.isFaithful_toJson _, by simp⟩

theorem readRecord_entryJson (e : CachedEntry) :
    readRecord entryFields [entryJson e] default = some e := by
  have hr : Findings.read [e.result.toJson] (default : CachedEntry).result = some e.result :=
    Findings.read_toJson e.result
  simp +decide [readRecord, entryFields, entryJson, occurrences, Member.one, inTurn, readString,
    objectMembers?, Json.string, hr]

def entriesJson (es : Option (List (String × CachedEntry))) : Json :=
  match es with
  | none => .null
  | some es => .obj (es.map fun e => (e.1, entryJson e.2))

theorem isFaithful_toJson (c : ResultCache) : c.toJson.IsFaithful := by
  refine Json.isFaithful_obj ?_
  simp only [List.forall_mem_cons]
  refine ⟨Json.isFaithful_string _, Json.isFaithful_string _, Json.isFaithful_string _, ?_, by simp⟩
  cases c.entries with
  | none => exact Json.isFaithful_null
  | some es =>
    refine Json.isFaithful_obj fun m hm => ?_
    obtain ⟨e, -, rfl⟩ := List.mem_map.mp hm
    exact isFaithful_entryJson e.2

/-- Entries in order are put in one after the other, each at the end. -/
theorem foldlM_readEntries {es : List (String × CachedEntry)} (done : List (String × CachedEntry))
    (h : Keyed.Sorted (done ++ es)) :
    (es.map fun e => (e.1, entryJson e.2)).foldlM
      (fun es m => (readRecord entryFields [m.2] default).map fun e => Keyed.insert m.1 e es) done =
      some (done ++ es) := by
  induction es generalizing done with
  | nil => simp
  | cons e es ih =>
    have hl : ∀ n ∈ done.map Prod.fst, n < e.1 := by
      intro n hn
      rw [Keyed.Sorted, List.map_append] at h
      exact (List.pairwise_append.mp h).2.2 n hn e.1 (by simp)
    have hi := ih (done ++ [e]) (by simpa using h)
    simp only [List.map_cons, List.foldlM_cons, readRecord_entryJson, Option.map_some,
      Keyed.insert_last hl, Option.bind_eq_bind, Option.bind_some, hi]
    simp

theorem readEntries_json {es : Option (List (String × CachedEntry))} (h : Keyed.Sorted (es.getD [])) :
    readEntries (entriesJson es) none = some es := by
  cases es with
  | none => rfl
  | some es => simp [readEntries, entriesJson, foldlM_readEntries [] h]

theorem read_toJson {c : ResultCache} (h : c.IsSorted) : read c.toJson = some c := by
  have hj : c.toJson = .obj [("project_path", .string c.projectPath), ("config_hash", .string c.configHash),
    ("version", .string c.version), ("entries", entriesJson c.entries)] := rfl
  rw [hj]
  simp +decide [read, readRecord, fields, occurrences, Member.one, inTurn, readString,
    objectMembers?, Json.string, readEntries_json h]

theorem decode_written {c : ResultCache} (h : c.IsSorted) :
    (Store.decode c.written).bind read = some c := by
  rw [written, Json.decode_indented c.isFaithful_toJson, Option.bind_some, read_toJson h]

theorem load_of_read? {d : Disk} {project : String} {content : Option Bytes}
    (h : d.read? (file project) = .ok content) :
    load d project = match content with
      | none => .ok none
      | some bs => match (Store.decode bs).bind read with
        | some c => .ok (some c)
        | none => .error .malformed := by
  cases content with
  | none => simp [load, Store.load, Store.onDisk, h, bind, Except.bind, pure, Except.pure]
  | some bs =>
    simp only [load, Store.load, Store.onDisk, h, bind, Except.bind]
    split <;> rename_i hr <;> rw [hr] <;> rfl

/-- A saved cache is loaded again, unless there was no place to save it in. -/
theorem load_of_save {c : ResultCache} (hs : c.IsSorted) {d d' : Disk} (h : c.save d = .ok d') :
    load d' c.projectPath = .ok (some c) ∨ load d' c.projectPath = .ok none := by
  unfold save at h
  cases hm : d.makeFolders (folder c.projectPath) with
  | error f => rw [hm] at h; cases h
  | ok d₁ =>
    rw [hm] at h
    rcases Disk.read?_of_write h with hr | hr
    · left
      rw [load_of_read? hr]
      simp only [decode_written hs]
    · right
      rw [load_of_read? hr]

theorem load_of_clear {d d' : Disk} {project : String} (h : clear d project = .ok d') :
    load d' project = .ok none ∨ load d' project = load d project := by
  unfold clear at h
  cases hr : d.remove (file project) with
  | error f =>
    rw [hr] at h
    simp only at h
    split at h
    · cases h
      exact .inr rfl
    · cases h
  | ok d₁ =>
    rw [hr] at h
    cases h
    rcases Disk.read?_of_remove hr (file project) with hn | he
    · left
      rw [load_of_read? hn]
    · right
      simp only [load, Store.load, he]

end ResultCache

end MoquiLint
