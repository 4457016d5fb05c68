import Mathlib.Data.List.Infix
import MoquiLint.Sniff

/-!
# Opening tags in bytes

The search for an opening tag looks for `<` and the name, and where a longer name begins there, it goes on behind
what it has matched. It finds every tag nevertheless: a tag that it stepped over would begin inside the name of the
one before, and a name has no `<` in it. Each round leaves a whole tag behind, so there are few of them.
-/
namespace MoquiLint

namespace Seq

variable {α : Type} [BEq α] [LawfulBEq α] {p s r : List α}

/-- Nothing is found only where the block is nowhere. -/
theorem not_prefix_of_after?_eq_none (h : after? p s = none) (i : Nat) : ¬p <+: s.drop i := by
  induction s generalizing i with
  | nil =>
    simp only [after?, ite_eq_right_iff, reduceCtorEq, imp_false, List.isEmpty_iff] at h
    rwa [List.drop_nil, List.prefix_nil]
  | cons a s ih =>
    simp only [after?] at h
    split at h
    · cases h
    · rename_i hp
      cases i with
      | zero => exact mt List.isPrefixOf_iff_prefix.mpr hp
      | succ i => exact ih h i

theorem eq_of_after?_eq_some (h : after? p s = some r) :
    ∃ u, s = u ++ (p ++ r) ∧ ∀ i < u.length, ¬p <+: s.drop i := by
  induction s with
  | nil =>
    simp only [after?, Option.ite_none_right_eq_some, List.isEmpty_iff, Option.some_inj] at h
    obtain ⟨rfl, rfl⟩ := h
    exact ⟨[], rfl, by simp⟩
  | cons a s ih =>
    simp only [after?] at h
    split at h
    · rename_i hp
      obtain ⟨t, ht⟩ := List.isPrefixOf_iff_prefix.mp hp
      refine ⟨[], ?_, by simp⟩
      rw [← Option.some.inj h, ← ht, List.drop_left, List.nil_append]
    · rename_i hp
      obtain ⟨u, hs, hu⟩ := ih h
      refine ⟨a :: u, congrArg (a :: ·) hs, fun i hi => ?_⟩
      cases i with
      | zero => exact mt List.isPrefixOf_iff_prefix.mpr hp
      | succ i => exact hu i (Nat.lt_of_succ_lt_succ hi)

end Seq

namespace Sniff

/-- An opening tag named exactly `tag` begins at the position: behind `<` and the name the bytes end, or a byte
follows that ends the name. -/
def OpensAt (tag s : Bytes) (i : Nat) : Prop :=
  ∃ v, s.drop i = lt :: tag ++ v ∧ (v = [] ∨ ∃ b rest, v = b :: rest ∧ b ∈ utf8 " \t\r\n>/")

theorem endsName_iff (b : UInt8) : endsName b = true ↔ b ∈ utf8 " \t\r\n>/" := by
  have hends : utf8 " \t\r\n>/" = [0x20, 0x09, 0x0D, 0x0A, 0x3E, 0x2F] := by decide +kernel
  simp [endsName, hends, or_assoc]

variable {tag s t : Bytes} {i : Nat}

theorem OpensAt.getElem? (h : OpensAt tag s i) : s[i]? = some lt := by
  obtain ⟨v, hv, -⟩ := h
  rw [← List.head?_drop, hv]
  rfl

theorem opensAt_append (u : Bytes) (i : Nat) : OpensAt tag (u ++ s) (u.length + i) ↔ OpensAt tag s i := by
  rw [OpensAt, OpensAt, List.drop_append, List.drop_eq_nil_of_le (Nat.le_add_right _ _), List.nil_append,
    Nat.add_sub_cancel_left]

/-- Bytes in front hide no tag, and bring none if none begins among them. -/
theorem exists_opensAt_append_iff {u : Bytes} (hu : ∀ i < u.length, ¬OpensAt tag (u ++ s) i) :
    (∃ i, OpensAt tag (u ++ s) i) ↔ ∃ i, OpensAt tag s i := by
  constructor
  · rintro ⟨i, hi⟩
    rcases Nat.lt_or_ge i u.length with hin | hout
    · exact absurd hi (hu i hin)
    · obtain ⟨j, rfl⟩ := Nat.exists_eq_add_of_le hout
      exact ⟨j, (opensAt_append u j).mp hi⟩
  · rintro ⟨i, hi⟩
    exact ⟨_, (opensAt_append u i).mpr hi⟩

/-! ### One round of the search -/

/-- The search meets a tag, or the beginning of a longer name, and these bytes follow. -/
def Meets (tag s after : Bytes) : Prop :=
  ∃ u, s = u ++ (lt :: tag ++ after) ∧ ∀ i < u.length, ¬OpensAt tag s i

theorem meets_of_after? (h : Seq.after? (lt :: tag) s = some t) : Meets tag s t := by
  obtain ⟨u, hs, hu⟩ := Seq.eq_of_after?_eq_some h
  exact ⟨u, hs, fun i hi ⟨v, hv, _⟩ => hu i hi ⟨v, hv.symm⟩⟩

theorem Meets.exists_opensAt (h : Meets tag s t) (ht : t = [] ∨ ∃ b rest, t = b :: rest ∧ endsName b = true) :
    ∃ i, OpensAt tag s i := by
  obtain ⟨u, rfl, -⟩ := h
  refine ⟨u.length + 0, (opensAt_append u 0).mpr ⟨t, rfl, ?_⟩⟩
  simpa only [endsName_iff] using ht

/-- Within a name that goes on no tag begins: at its front another byte follows, and behind that there is no `<`. -/
theorem not_opensAt_of_longer {b : UInt8} {rest : Bytes} (htag : lt ∉ tag) (hb : endsName b = false) :
    ∀ i < (lt :: tag).length, ¬OpensAt tag (lt :: tag ++ b :: rest) i := by
  intro i hi hopen
  cases i with
  | zero =>
    obtain ⟨v, hv, hend⟩ := hopen
    obtain rfl : b :: rest = v := List.append_cancel_left hv
    obtain h | ⟨c, rest', heq, hc⟩ := hend
    · cases h
    · obtain ⟨rfl, rfl⟩ := List.cons.inj heq
      rw [← endsName_iff, hb] at hc
      cases hc
  | succ k =>
    have hget := hopen.getElem?
    rw [List.cons_append, List.getElem?_cons_succ, List.getElem?_append_left (Nat.lt_of_succ_lt_succ hi)] at hget
    exact htag (List.mem_of_getElem? hget)

/-- Where a longer name was met, the tags are those behind what was matched. -/
theorem Meets.exists_opensAt_iff {b : UInt8} {rest : Bytes} (htag : lt ∉ tag) (h : Meets tag s (b :: rest))
    (hb : endsName b = false) : (∃ i, OpensAt tag s i) ↔ ∃ i, OpensAt tag (b :: rest) i := by
  obtain ⟨u, rfl, hu⟩ := h
  rw [exists_opensAt_append_iff hu, exists_opensAt_append_iff (not_opensAt_of_longer htag hb)]

/-- The search finds a tag exactly if one begins somewhere. -/
theorem hasTag_eq_true_iff (htag : lt ∉ tag) (s : Bytes) : hasTag tag s = true ↔ ∃ i, OpensAt tag s i := by
  fun_induction hasTag tag s with
  | case1 s h =>
    simp only [Bool.false_eq_true, false_iff, not_exists]
    intro i ⟨v, hv, _⟩
    exact Seq.not_prefix_of_after?_eq_none h i ⟨v, hv.symm⟩
  | case2 s h =>
    exact iff_of_true rfl ((meets_of_after? h).exists_opensAt (.inl rfl))
  | case3 s b rest h _ ih =>
    have hmeets := meets_of_after? h
    cases hb : endsName b with
    | true => exact iff_of_true (Bool.true_or _) (hmeets.exists_opensAt (.inr ⟨b, rest, rfl, hb⟩))
    | false => rw [Bool.false_or, ih, hmeets.exists_opensAt_iff htag hb]

/-! ### All rounds -/

/-- The search goes on, a number of rounds long: each time it has met a longer name, in what follows the match. -/
inductive GoesOn (tag : Bytes) : Nat → Bytes → Bytes → Prop
  | here (s : Bytes) : GoesOn tag 0 s s
  | behind {rounds : Nat} {s : Bytes} {b : UInt8} {rest t : Bytes}
      (met : Seq.after? (lt :: tag) s = some (b :: rest)) (longer : endsName b = false)
      (later : GoesOn tag rounds (b :: rest) t) : GoesOn tag (rounds + 1) s t

/-- The search ends with these bytes: what it meets in them, if anything, is no longer name. -/
def EndsWith (tag t : Bytes) : Prop :=
  ∀ b rest, Seq.after? (lt :: tag) t = some (b :: rest) → endsName b = true

theorem length_le_of_after? (h : Seq.after? (lt :: tag) s = some t) : t.length + (tag.length + 1) ≤ s.length := by
  obtain ⟨u, rfl, -⟩ := meets_of_after? h
  simp only [List.length_append, List.length_cons]
  omega

theorem GoesOn.length_le {rounds : Nat} (h : GoesOn tag rounds s t) :
    rounds * (tag.length + 1) + t.length ≤ s.length := by
  induction h with
  | here s => simp
  | behind met _ _ ih =>
    have hstep := length_le_of_after? met
    rw [Nat.succ_mul]
    omega

/-- The search comes to an end, and its answer is whether it has met anything there. -/
theorem exists_goesOn (tag s : Bytes) : ∃ rounds t, GoesOn tag rounds s t ∧ EndsWith tag t ∧
    hasTag tag s = (Seq.after? (lt :: tag) t).isSome := by
  fun_induction hasTag tag s with
  | case1 s h => exact ⟨0, s, .here s, by simp [EndsWith, h], by rw [h]; rfl⟩
  | case2 s h => exact ⟨0, s, .here s, by simp [EndsWith, h], by rw [h]; rfl⟩
  | case3 s b rest h _ ih =>
    cases hb : endsName b with
    | true => exact ⟨0, s, .here s, by simp [EndsWith, h, hb], by rw [h]; rfl⟩
    | false =>
      obtain ⟨rounds, t, hgo, hend, heq⟩ := ih
      exact ⟨rounds + 1, t, .behind h hb hgo, hend, heq⟩

/-- The search ends, after at most as many rounds as tags of this length fit into the bytes, and it finds a tag
exactly if one begins somewhere. -/
theorem hasTag_complete {tag : Bytes} (htag : lt ∉ tag) (s : Bytes) :
    (∃ rounds t, GoesOn tag rounds s t ∧ EndsWith tag t ∧ rounds * (tag.length + 1) ≤ s.length ∧
      hasTag tag s = (Seq.after? (lt :: tag) t).isSome) ∧
    (hasTag tag s = true ↔ ∃ i, OpensAt tag s i) := by
  obtain ⟨rounds, t, hgo, hend, heq⟩ := exists_goesOn tag s
  exact ⟨⟨rounds, t, hgo, hend, (Nat.le_add_right _ _).trans hgo.length_le, heq⟩, hasTag_eq_true_iff htag s⟩

/-- A tag behind two longer names, which the search goes past, and a longer name alone. -/
theorem hasTag_complete_entity :
    let found := utf8 "<entities><entity-find/><entity/>"
    let missed := utf8 "<entity-facade-xml/>"
    (lt ∉ utf8 "entity" ∧ ∃ i, OpensAt (utf8 "entity") found i) ∧ ¬∃ i, OpensAt (utf8 "entity") missed i := by
  intro found missed
  have htag : lt ∉ utf8 "entity" := by decide +kernel
  have hfound : hasTag (utf8 "entity") found = true := by decide +kernel
  have hmissed : hasTag (utf8 "entity") missed = false := by decide +kernel
  refine ⟨⟨htag, (hasTag_complete htag found).2.mp hfound⟩, ?_⟩
  rw [← (hasTag_complete htag missed).2, hmissed]
  exact Bool.false_ne_true

end Sniff

end MoquiLint
