import Mathlib.Data.List.Basic
import MoquiLint.Disk.Basic

/-!
# Clean absolute paths

A clean absolute path is the same as the list of its names. So cleaning a path twice is cleaning it once,
and what lies at different places below one directory has different paths.
-/
namespace MoquiLint

namespace Seq

variable {α : Type} {p : α → Bool}

theorem splitOn_append_cons {a : α} (ha : p a = true) (s t : List α) :
    splitOn p (s ++ a :: t) = splitOn p s ++ splitOn p t := by
  induction s with
  | nil =>
    cases ht : splitOn p t with
    | nil => exact absurd ht (splitOn_ne_nil p t)
    | cons w ws => simp [splitOn, ht, ha]
  | cons b s ih =>
    cases hs : splitOn p s with
    | nil => exact absurd hs (splitOn_ne_nil p s)
    | cons w ws =>
      rw [hs] at ih
      by_cases hb : p b <;> simp [splitOn, ih, hs, hb]

theorem splitOn_eq_singleton {s : List α} (h : ∀ a ∈ s, p a = false) : splitOn p s = [s] := by
  induction s with
  | nil => rfl
  | cons a s ih =>
    have ih := ih fun b hb => h b (List.mem_cons_of_mem a hb)
    simp [splitOn, ih, h a]

theorem not_of_mem_splitOn {s w : List α} (hw : w ∈ splitOn p s) {a : α} (ha : a ∈ w) : p a = false := by
  induction s generalizing w with
  | nil =>
    obtain rfl : w = [] := by simpa [splitOn] using hw
    cases ha
  | cons b s ih =>
    cases hs : splitOn p s with
    | nil => exact absurd hs (splitOn_ne_nil p s)
    | cons v vs =>
      simp only [splitOn, hs] at hw ih
      split at hw
      · rcases List.mem_cons.mp hw with rfl | hw
        · cases ha
        · exact ih hw ha
      · rename_i hb
        rcases List.mem_cons.mp hw with rfl | hw
        · rcases List.mem_cons.mp ha with rfl | ha
          · simpa using hb
          · exact ih List.mem_cons_self ha
        · exact ih (List.mem_cons_of_mem v hw) ha

end Seq

namespace Path

/-- A name that stands for a member of a folder. -/
structure IsName (n : String) : Prop where
  ne_empty : n ≠ ""
  ne_dot : n ≠ "."
  ne_dots : n ≠ ".."
  no_slash : '/' ∉ n.toList

instance (n : String) : Decidable (IsName n) :=
  decidable_of_iff (n ≠ "" ∧ n ≠ "." ∧ n ≠ ".." ∧ '/' ∉ n.toList)
    ⟨fun ⟨h₁, h₂, h₃, h₄⟩ => ⟨h₁, h₂, h₃, h₄⟩, fun ⟨h₁, h₂, h₃, h₄⟩ => ⟨h₁, h₂, h₃, h₄⟩⟩

/-! ### Splitting -/

theorem split_append_slash (p q : String) : split (p ++ "/" ++ q) = split p ++ split q := by
  have hl : (p ++ "/" ++ q).toList = p.toList ++ '/' :: q.toList := by simp
  rw [split, Str.split, hl, Seq.splitOn_append_cons (by decide), List.map_append]
  rfl

theorem split_eq_singleton {n : String} (h : '/' ∉ n.toList) : split n = [n] := by
  rw [split, Str.split, Seq.splitOn_eq_singleton]
  · simp
  · intro c hc
    exact beq_false_of_ne fun he => h (he ▸ hc)

theorem no_slash_of_mem_split {p n : String} (h : n ∈ split p) : '/' ∉ n.toList := by
  obtain ⟨w, hw, rfl⟩ := List.mem_map.mp h
  intro hc
  rw [String.toList_ofList] at hc
  simpa using Seq.not_of_mem_splitOn hw hc

theorem split_join {names : List String} (hne : names ≠ []) (h : ∀ n ∈ names, '/' ∉ n.toList) :
    split (Str.join "/" names) = names := by
  induction names with
  | nil => exact absurd rfl hne
  | cons n names ih =>
    cases names with
    | nil => exact split_eq_singleton (h n List.mem_cons_self)
    | cons m names =>
      have ih := ih (by simp) fun k hk => h k (List.mem_cons_of_mem n hk)
      rw [Str.join, split_append_slash, ih, split_eq_singleton (h n List.mem_cons_self)]
      rfl

theorem isAbsolute_append {p : String} (h : isAbsolute p = true) (q : String) :
    isAbsolute (p ++ q) = true := by
  rw [isAbsolute, Str.startsWith, List.isPrefixOf_iff_prefix] at h ⊢
  rw [String.toList_append]
  exact h.trans (List.prefix_append _ _)

theorem isAbsolute_spell (names : List String) : isAbsolute (spell true names) = true :=
  isAbsolute_append (p := "/") (by decide) _

theorem ne_empty_of_isAbsolute {p : String} (h : isAbsolute p = true) : p ≠ "" := by
  rintro rfl
  exact absurd h (by decide)

/-! ### Names -/

theorem push_name {n : String} (h : IsName n) (absolute : Bool) (stack : List String) :
    push absolute stack n = n :: stack := by
  simp [push, h.ne_empty, h.ne_dot, h.ne_dots]

theorem foldl_push {names : List String} (h : ∀ n ∈ names, IsName n) (absolute : Bool)
    (stack : List String) : names.foldl (push absolute) stack = names.reverse ++ stack := by
  induction names generalizing stack with
  | nil => rfl
  | cons n names ih =>
    rw [List.foldl_cons, push_name (h n List.mem_cons_self),
      ih fun m hm => h m (List.mem_cons_of_mem n hm)]
    simp

theorem mem_push {stack : List String} (hs : ∀ n ∈ stack, IsName n) {n : String} (hn : '/' ∉ n.toList) :
    ∀ m ∈ push true stack n, IsName m := by
  unfold push
  split
  · exact hs
  · rename_i h₁
    split
    · cases stack with
      | nil => simp
      | cons top rest =>
        have ht := (hs top List.mem_cons_self).ne_dots
        simp only [beq_iff_eq, ht, ↓reduceIte]
        exact fun m hm => hs m (List.mem_cons_of_mem top hm)
    · rename_i h₂
      simp only [Bool.or_eq_true, beq_iff_eq, not_or] at h₁ h₂
      intro m hm
      rcases List.mem_cons.mp hm with rfl | hm
      · exact ⟨h₁.1, h₁.2, h₂, hn⟩
      · exact hs m hm

theorem isName_of_mem_segments {p : String} (h : isAbsolute p = true) : ∀ n ∈ segments p, IsName n := by
  have hfold : ∀ (ws : List String), (∀ w ∈ ws, '/' ∉ w.toList) → ∀ stack, (∀ n ∈ stack, IsName n) →
      ∀ n ∈ ws.foldl (push true) stack, IsName n := by
    intro ws
    induction ws with
    | nil => exact fun _ stack hs => hs
    | cons w ws ih =>
      intro hw stack hs
      refine ih (fun v hv => hw v (List.mem_cons_of_mem w hv)) _ ?_
      exact mem_push hs (hw w List.mem_cons_self)
  intro n hn
  rw [segments, h, List.mem_reverse] at hn
  exact hfold _ (fun _ hw => no_slash_of_mem_split hw) [] (by simp) n hn

theorem segments_append_slash (p q : String) (hp : isAbsolute p = true) :
    segments (p ++ "/" ++ q) = ((split q).foldl (push true) (segments p).reverse).reverse := by
  have h : isAbsolute (p ++ "/" ++ q) = true := isAbsolute_append (isAbsolute_append hp _) _
  rw [segments, h, split_append_slash, List.foldl_append, segments, hp, List.reverse_reverse]

theorem segments_spell {names : List String} (h : ∀ n ∈ names, IsName n) :
    segments (spell true names) = names := by
  have hs : split (spell true names) = "" :: split (Str.join "/" names) :=
    split_append_slash "" (Str.join "/" names)
  rw [segments, isAbsolute_spell, hs]
  by_cases hne : names = []
  · subst hne
    decide
  · rw [split_join hne fun n hn => (h n hn).no_slash, List.foldl_cons]
    have hp : push true [] "" = [] := by decide
    rw [hp, foldl_push h]
    simp

theorem spell_injective {names names' : List String} (h : ∀ n ∈ names, IsName n)
    (h' : ∀ n ∈ names', IsName n) (he : spell true names = spell true names') : names = names' := by
  rw [← segments_spell h, he, segments_spell h']

theorem clean_eq_spell {p : String} (h : isAbsolute p = true) : clean p = spell true (segments p) := by
  rw [clean, h]

theorem isAbsolute_clean {p : String} (h : isAbsolute p = true) : isAbsolute (clean p) = true := by
  rw [clean_eq_spell h]
  exact isAbsolute_spell _

theorem clean_spell {names : List String} (h : ∀ n ∈ names, IsName n) :
    clean (spell true names) = spell true names := by
  rw [clean_eq_spell (isAbsolute_spell names), segments_spell h]

theorem clean_clean {p : String} (h : isAbsolute p = true) : clean (clean p) = clean p := by
  rw [clean_eq_spell h, clean_spell (isName_of_mem_segments h)]

/-! ### Joining -/

theorem join_eq_clean {p : String} (h : isAbsolute p = true) (names : List String) :
    ∃ q, isAbsolute q = true ∧ join (p :: names) = clean q := by
  have hf : (p :: names).filter (· != "") = p :: names.filter (· != "") := by
    rw [List.filter_cons_of_pos (by simp [ne_empty_of_isAbsolute h])]
  unfold join
  rw [hf]
  cases names.filter (· != "") with
  | nil => exact ⟨p, h, rfl⟩
  | cons n ns => exact ⟨_, isAbsolute_append (isAbsolute_append h _) _, rfl⟩

theorem join_spell {root names : List String} (hr : ∀ n ∈ root, IsName n) (h : ∀ n ∈ names, IsName n) :
    join (spell true root :: names) = spell true (root ++ names) := by
  have hf : (spell true root :: names).filter (· != "") = spell true root :: names := by
    rw [List.filter_eq_self]
    intro n hn
    rcases List.mem_cons.mp hn with rfl | hn
    · simpa using ne_empty_of_isAbsolute (isAbsolute_spell root)
    · simpa using (h n hn).ne_empty
  cases names with
  | nil =>
    rw [join, hf, List.append_nil]
    exact clean_spell hr
  | cons n ns =>
    have ha := isAbsolute_spell root
    have hj : join (spell true root :: n :: ns) =
        clean (spell true root ++ "/" ++ Str.join "/" (n :: ns)) := by
      rw [join, hf]
      rfl
    rw [hj, clean_eq_spell (isAbsolute_append (isAbsolute_append ha _) _), segments_append_slash _ _ ha,
      segments_spell hr, split_join (by simp) fun m hm => (h m hm).no_slash, foldl_push h]
    simp

end Path

namespace Disk

theorem absolute_eq_clean (d : Disk) (p : String) :
    ∃ q, Path.isAbsolute q = true ∧ d.absolute p = Path.clean q := by
  unfold absolute Path.resolve
  split
  · rename_i h
    exact ⟨p, h, rfl⟩
  · exact Path.join_eq_clean (Path.isAbsolute_spell d.here) [p]

theorem isAbsolute_absolute (d : Disk) (p : String) : Path.isAbsolute (d.absolute p) = true := by
  obtain ⟨q, hq, he⟩ := d.absolute_eq_clean p
  rw [he]
  exact Path.isAbsolute_clean hq

theorem absolute_clean (d : Disk) {q : String} (h : Path.isAbsolute q = true) :
    d.absolute (Path.clean q) = Path.clean q := by
  rw [absolute, Path.resolve, if_pos (Path.isAbsolute_clean h), Path.clean_clean h]

theorem clean_absolute (d : Disk) (p : String) : Path.clean (d.absolute p) = d.absolute p := by
  obtain ⟨q, hq, he⟩ := d.absolute_eq_clean p
  rw [he, Path.clean_clean hq]

theorem absolute_absolute (d : Disk) (p : String) : d.absolute (d.absolute p) = d.absolute p := by
  obtain ⟨q, hq, he⟩ := d.absolute_eq_clean p
  rw [he, d.absolute_clean hq]

end Disk

end MoquiLint
