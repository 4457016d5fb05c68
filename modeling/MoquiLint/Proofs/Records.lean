import MoquiLint.Proofs.JsonText
import MoquiLint.Report.Codec
import MoquiLint.Store.Fault

/-!
# Reading records back

Lists and findings are read back from their JSON forms, a field that was left out from the blank record.
-/
namespace MoquiLint

namespace Json

theorem decode_indented {j : Json} (h : j.IsFaithful) : Store.decode (utf8 (indented j)) = some j := by
  rw [Store.decode, Text.decode_utf8, Text.codes_ofString, ofChars?_indented h.1, h.2]

theorem mapM_read {α : Type} {f : α → Json} {read : List Json → α → Option α} {blank : α} {xs : List α}
    (h : ∀ a ∈ xs, read [f a] blank = some a) : (xs.map f).mapM (fun x => read [x] blank) = some xs := by
  induction xs with
  | nil => rfl
  | cons x xs ih => simp [h x, ih fun a ha => h a (List.mem_cons_of_mem x ha)]

/-- The first values for a list open its cells. -/
theorem write_nil (xs : List Json) : Items.write xs [] = xs.map fun x => [x] := by
  induction xs with
  | nil => rfl
  | cons x xs ih => rw [Items.write, ih, List.map_cons]

theorem readList_list_of_mem {α : Type} {f : α → Json} {read : List Json → α → Option α} {blank : α}
    {xs : Option (List α)} (h : ∀ a ∈ xs.getD [], read [f a] blank = some a) (old : Option (List α)) :
    readList read blank [.list f xs] old = some xs := by
  cases xs with
  | none => rfl
  | some xs =>
    cases xs with
    | nil => rfl
    | cons x xs =>
      have hm := mapM_read h
      rw [Option.getD_some] at hm
      have hg : Items.give {} (.arr ((x :: xs).map f)) =
          some ⟨((x :: xs).map f).map fun y => [y], some ((x :: xs).map f).length⟩ := by
        rw [← write_nil]
        rfl
      have hl : ((x :: xs).map f).length = (((x :: xs).map f).map fun y => [y]).length := by simp
      have hr : (((x :: xs).map f).map fun y => [y]).mapM (fun c => read c blank) = some (x :: xs) := by
        rw [List.mapM_map]
        exact hm
      simp only [readList, Json.list, List.isEmpty_cons, Bool.false_eq_true, ↓reduceIte, List.mapM_cons,
        List.mapM_nil, hm, Option.pure_def, Option.bind_eq_bind, Option.bind_some, List.foldlM_cons,
        List.foldlM_nil, hg]
      rw [hl, List.take_length, hr]
      rfl

theorem readList_list {α : Type} {f : α → Json} {read : List Json → α → Option α} {blank : α}
    (h : ∀ a, read [f a] blank = some a) (xs old : Option (List α)) :
    readList read blank [.list f xs] old = some xs := readList_list_of_mem (fun a _ => h a) old

end Json

open Json (Member inTurn readRecord readString readList_list objectMembers? occurrences memberUnless)

theorem isFaithful_memberUnless {omitted : Bool} {name : String} {j : Json} (h : j.IsFaithful) :
    ∀ m ∈ memberUnless omitted name j, m.2.IsFaithful := by
  intro m hm
  unfold memberUnless at hm
  split at hm
  · cases hm
  · rw [List.mem_singleton.mp hm]
    exact h

namespace Finding

theorem isFaithful_toJson (f : Finding) : f.toJson.IsFaithful := by
  refine Json.isFaithful_obj ?_
  simp only [List.forall_mem_append, List.forall_mem_cons]
  exact ⟨⟨⟨Json.isFaithful_string _, Json.isFaithful_string _, by simp⟩,
    isFaithful_memberUnless (Json.isFaithful_string _)⟩, Json.isFaithful_string _, by simp⟩

theorem read_toJson (f : Finding) : Finding.read [f.toJson] default = some f := by
  obtain ⟨severity, rule, subject, message⟩ := f
  by_cases hs : subject = ""
  · subst hs
    simp +decide [read, readRecord, fields, toJson, memberUnless, occurrences, Member.one, inTurn,
      readString, objectMembers?, Json.string]
  · simp +decide [read, readRecord, fields, toJson, memberUnless, occurrences, Member.one, inTurn,
      readString, objectMembers?, Json.string, hs]

end Finding

namespace Findings

theorem isFaithful_toJson (r : Findings) : r.toJson.IsFaithful := by
  refine Json.isFaithful_obj ?_
  simp only [List.forall_mem_cons]
  exact ⟨Json.isFaithful_list Finding.isFaithful_toJson _,
    Json.isFaithful_list Finding.isFaithful_toJson _, by simp⟩

theorem read_toJson (r : Findings) : Findings.read [r.toJson] default = some r := by
  simp +decide [read, readRecord, fields, toJson, occurrences, objectMembers?,
    readList_list Finding.read_toJson]

end Findings

end MoquiLint
