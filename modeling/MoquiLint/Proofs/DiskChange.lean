import Mathlib.Data.List.Basic
import MoquiLint.Disk.Access

/-!
# Paths across a change of the disk

A change at one place leaves all other places alike: what is no folder stays the same, and folders stay
folders. So a path that led to the changed place leads there again, and any other path leads where it
did before, or to nothing.
-/
namespace MoquiLint

namespace Entry

/-- Two entries that a path goes through in the same way. -/
inductive Alike : Option Entry → Option Entry → Prop
  | same (e : Option Entry) : Alike e e
  | folders (ms ns : List (String × Entry)) : Alike (some (.folder ms)) (some (.folder ns))

theorem isFolder_eq_false {e : Entry} (h : ∀ ms, e ≠ .folder ms) : e.isFolder = false := by
  cases e with
  | folder ms => exact absurd rfl (h ms)
  | file | link | socket => rfl

theorem Alike.eq_none {e : Option Entry} (h : Alike none e) : e = none := by
  cases h
  rfl

theorem Alike.eq_folder {ms : List (String × Entry)} {e : Option Entry} (h : Alike (some (.folder ms)) e) :
    ∃ ns, e = some (.folder ns) := by
  cases h with
  | same => exact ⟨ms, rfl⟩
  | folders _ ns => exact ⟨ns, rfl⟩

theorem Alike.eq_some {f : Entry} {e : Option Entry} (h : Alike (some f) e) (hf : f.isFolder = false) :
    e = some f := by
  cases h with
  | same => rfl
  | folders => cases hf

theorem at?_cons_folder (ms : List (String × Entry)) (n : String) (ns : List String) :
    (Entry.folder ms).at? (n :: ns) = (ms.lookup n).bind fun f => f.at? ns := rfl

theorem at?_cons_eq_none {e : Entry} (h : e.isFolder = false) (n : String) (ns : List String) :
    e.at? (n :: ns) = none := by
  cases e <;> first | rfl | cases h

theorem at?_append (e : Entry) (p q : List String) : e.at? (p ++ q) = (e.at? p).bind fun f => f.at? q := by
  induction p generalizing e with
  | nil => rfl
  | cons n p ih =>
    rw [List.cons_append, at?, at?]
    cases e.member? n with
    | none => rfl
    | some f => exact ih f

theorem lookup_filter_self (ms : List (String × Entry)) (n : String) :
    (ms.filter fun x => x.1 != n).lookup n = none := by
  rw [List.lookup_eq_none_iff]
  intro x hx
  have hn := (List.mem_filter.mp hx).2
  simp only [bne_iff_ne, ne_eq] at hn ⊢
  exact fun he => hn he.symm

theorem lookup_filter_ne {m n : String} (h : m ≠ n) (ms : List (String × Entry)) :
    (ms.filter fun x => x.1 != n).lookup m = ms.lookup m := by
  induction ms with
  | nil => rfl
  | cons x ms ih =>
    obtain ⟨k, f⟩ := x
    by_cases hk : k = n
    · have hm : (m == k) = false := beq_false_of_ne (hk ▸ h)
      simp [hk, ih, List.lookup_cons, hk ▸ hm]
    · simp [hk, List.lookup_cons, ih]

theorem set_of_isFolder_eq_false {e : Entry} (h : e.isFolder = false) (new : Option Entry) (n : String)
    (p : List String) : e.set new (n :: p) = e := by
  cases e <;> first | (cases p <;> rfl) | cases h

theorem set_folder (ms : List (String × Entry)) (new : Option Entry) (n : String) (p : List String) :
    ∃ ns, (Entry.folder ms).set new (n :: p) = .folder ns ∧ (∀ m ≠ n, ns.lookup m = ms.lookup m) ∧
      ns.lookup n = if p = [] then new else (ms.lookup n).map fun f => f.set new p := by
  cases p with
  | nil =>
    cases new with
    | none => exact ⟨_, rfl, fun m hm => lookup_filter_ne hm ms, lookup_filter_self ms n⟩
    | some f =>
      exact ⟨_, rfl, fun m hm => Keyed.lookup_insert_of_ne hm f ms, Keyed.lookup_insert_self n f ms⟩
  | cons n' p =>
    cases hl : ms.lookup n with
    | none => exact ⟨ms, by simp [set, hl], fun _ _ => rfl, by simp [hl]⟩
    | some f =>
      refine ⟨Keyed.insert n (f.set new (n' :: p)) ms, by simp [set, hl], ?_, by simp⟩
      exact fun m hm => Keyed.lookup_insert_of_ne hm _ ms

/-- A change leaves alike what does not lie at or below its place. -/
theorem alike_set (e : Entry) (new : Option Entry) {p q : List String} (h : ¬ p <+: q) :
    Alike (e.at? q) ((e.set new p).at? q) := by
  induction p generalizing e q with
  | nil => exact absurd List.nil_prefix h
  | cons n p ih =>
    cases hf : e.isFolder with
    | false =>
      rw [set_of_isFolder_eq_false hf]
      exact .same _
    | true =>
      obtain ⟨ms, rfl⟩ : ∃ ms, e = .folder ms := by cases e <;> simp_all [isFolder]
      obtain ⟨ns, hs, hne, hself⟩ := set_folder ms new n p
      rw [hs]
      cases q with
      | nil => exact .folders ms ns
      | cons m q =>
        rw [at?_cons_folder, at?_cons_folder]
        by_cases hm : m = n
        · subst hm
          have hp : ¬ p <+: q := fun hp => h (List.cons_prefix_cons.mpr ⟨rfl, hp⟩)
          have hne : p ≠ [] := fun he => hp (he ▸ List.nil_prefix)
          rw [hself, if_neg hne]
          cases ms.lookup m with
          | none => exact .same _
          | some f => exact ih f hp
        · rw [hne m hm]
          exact .same _

theorem at?_set_self (e : Entry) (new : Option Entry) {p : List String} (hp : p ≠ []) :
    (e.set new p).at? p = new ∨ (e.set new p).at? p = none := by
  induction p generalizing e with
  | nil => exact absurd rfl hp
  | cons n p ih =>
    cases hf : e.isFolder with
    | false =>
      rw [set_of_isFolder_eq_false hf, at?_cons_eq_none hf]
      exact .inr rfl
    | true =>
      obtain ⟨ms, rfl⟩ : ∃ ms, e = .folder ms := by cases e <;> simp_all [isFolder]
      obtain ⟨ns, hs, -, hself⟩ := set_folder ms new n p
      rw [hs, at?_cons_folder, hself]
      by_cases hp : p = []
      · subst hp
        cases new <;> simp [at?]
      · rw [if_neg hp]
        cases ms.lookup n with
        | none => exact .inr rfl
        | some f => exact ih f hp

end Entry

namespace Disk

section
variable {d d' : Disk} {last : Bool} {jump jump' : List String → List String → Except Cause Spot}

theorem entry_of_walk
    (hj : ∀ place names spot, jump place names = .ok spot → spot.entry = d.root.at? spot.place)
    {place names : List String} {spot : Spot} (h : d.walk last jump place names = .ok spot) :
    spot.entry = d.root.at? spot.place := by
  fun_induction walk d last jump place names with
  | case1 => cases h; rfl
  | case2 _ _ _ _ ih => exact ih h
  | case3 _ _ _ _ _ ih => exact ih h
  | case7 _ _ _ _ _ _ _ _ ih => exact ih h
  | case9 => exact hj _ _ _ h
  | case5 | case8 | case10 => cases h; symm; assumption
  | case4 | case6 | case11 => cases h

/-- A place for a file: there is nothing yet, or a file. -/
def IsSlot (e : Option Entry) : Prop := ∀ f, e = some f → ∃ c, f = .file c

/-- What is no file does not lie at or below a place for a file. -/
theorem IsSlot.not_prefix {root : Entry} {p q : List String} (h : IsSlot (root.at? p)) {f : Entry}
    (hq : root.at? q = some f) (hf : ∀ c, f ≠ .file c) : ¬ p <+: q := by
  rintro ⟨s, rfl⟩
  rw [Entry.at?_append] at hq
  obtain ⟨g, hg, hs⟩ := Option.bind_eq_some_iff.mp hq
  obtain ⟨c, rfl⟩ := h g hg
  cases s with
  | nil => exact hf c (Option.some.inj hs).symm
  | cons n s => cases hs

/-- A name that is followed by looking it up. -/
structure IsProper (n : String) : Prop where
  named : ¬ (n == "" || n == ".") = true
  down : ¬ (n == "..") = true
  short : ¬ maxName < n.utf8ByteSize

theorem walk_none {n : String} (hn : IsProper n) {place : List String}
    (h : d.root.at? (n :: place).reverse = none) (names : List String) :
    d.walk last jump place (n :: names) =
      if names.isEmpty then .ok ⟨(n :: place).reverse, none⟩ else .error .missing := by
  rw [walk, if_neg hn.named, if_neg hn.down, if_neg hn.short, h]

theorem walk_folder {n : String} (hn : IsProper n) {place : List String} {ms : List (String × Entry)}
    (h : d.root.at? (n :: place).reverse = some (.folder ms)) (names : List String) :
    d.walk last jump place (n :: names) = d.walk last jump (n :: place) names := by
  rw [walk, if_neg hn.named, if_neg hn.down, if_neg hn.short, h]

theorem walk_link {n : String} (hn : IsProper n) {place : List String} {target : String}
    (h : d.root.at? (n :: place).reverse = some (.link target)) (names : List String) :
    d.walk last jump place (n :: names) =
      if names.isEmpty && !last then .ok ⟨(n :: place).reverse, some (.link target)⟩
      else jump (if Path.isAbsolute target then [] else place) (Path.split target ++ names) := by
  rw [walk, if_neg hn.named, if_neg hn.down, if_neg hn.short, h]

theorem walk_end {n : String} (hn : IsProper n) {place : List String} {f : Entry}
    (hf : ∀ ms, f ≠ .folder ms) (hl : ∀ target, f ≠ .link target)
    (h : d.root.at? (n :: place).reverse = some f) (names : List String) :
    d.walk last jump place (n :: names) =
      if names.isEmpty then .ok ⟨(n :: place).reverse, some f⟩ else .error .notFolder := by
  rw [walk, if_neg hn.named, if_neg hn.down, if_neg hn.short, h]
  cases f with
  | folder ms => exact absurd rfl (hf ms)
  | link target => exact absurd rfl (hl target)
  | file | socket => rfl

theorem walk_slot {n : String} (hn : IsProper n) {place : List String}
    (h : IsSlot (d.root.at? (n :: place).reverse)) :
    d.walk last jump place [n] = .ok ⟨(n :: place).reverse, d.root.at? (n :: place).reverse⟩ := by
  cases he : d.root.at? (n :: place).reverse with
  | none => exact walk_none hn he []
  | some f =>
    obtain ⟨c, rfl⟩ := h f he
    exact walk_end hn (by simp) (by simp) he []

/-- A path that leads to a place for a file leads there again when a file has been put there, if that is
so from behind the first link. -/
theorem walk_changed {p : List String} (he : IsSlot (d.root.at? p)) (he' : IsSlot (d'.root.at? p))
    (ha : ∀ q, ¬ p <+: q → Entry.Alike (d.root.at? q) (d'.root.at? q))
    (hj : ∀ place names e, jump place names = .ok ⟨p, e⟩ → jump' place names = .ok ⟨p, d'.root.at? p⟩)
    {place names : List String} {e : Option Entry} (h : d.walk last jump place names = .ok ⟨p, e⟩) :
    d'.walk last jump' place names = .ok ⟨p, d'.root.at? p⟩ := by
  -- folders and links on the way do not lie at or below `p`, where there is at most a file
  fun_induction walk d last jump place names with
  | case1 =>
    cases h
    rw [walk]
  | case2 _ _ _ hn ih =>
    rw [walk, if_pos hn]
    exact ih h
  | case3 _ _ _ hn hu ih =>
    rw [walk, if_neg hn, if_pos hu]
    exact ih h
  | case4 | case6 | case11 => cases h
  | case5 place n names h₁ h₂ h₃ hq hl =>
    cases h
    obtain rfl := List.isEmpty_iff.mp hl
    exact walk_slot ⟨h₁, h₂, h₃⟩ he'
  | case7 place n names h₁ h₂ h₃ ms hq ih =>
    have hs := ha _ (he.not_prefix hq (by simp))
    rw [hq] at hs
    obtain ⟨ns, hq'⟩ := hs.eq_folder
    rw [walk_folder ⟨h₁, h₂, h₃⟩ hq']
    exact ih h
  | case8 place n names h₁ h₂ h₃ target hq hl =>
    cases h
    obtain ⟨c, hc⟩ := he _ hq
    cases hc
  | case9 place n names h₁ h₂ h₃ target hq hl =>
    have hs := ha _ (he.not_prefix hq (by simp))
    rw [hq] at hs
    rw [walk_link ⟨h₁, h₂, h₃⟩ (hs.eq_some rfl), if_neg hl]
    exact hj _ _ _ h
  | case10 place n names h₁ h₂ h₃ f hnf hnl hq hl =>
    cases h
    obtain rfl := List.isEmpty_iff.mp hl
    exact walk_slot ⟨h₁, h₂, h₃⟩ he'

/-- What following a path has come to when something may have gone: the same as before, or nothing. -/
inductive SameOrGone : Except Cause Spot → Except Cause Spot → Prop
  | missing (r : Except Cause Spot) : SameOrGone r (.error .missing)
  | gone (r : Except Cause Spot) (p : List String) : SameOrGone r (.ok ⟨p, none⟩)
  | error (c : Cause) : SameOrGone (.error c) (.error c)
  | same (p : List String) {e e' : Option Entry} (h : Entry.Alike e e') :
      SameOrGone (.ok ⟨p, e⟩) (.ok ⟨p, e'⟩)

theorem sameOrGone_walk {n : String} (hn : IsProper n) {place : List String}
    (h : d.root.at? (n :: place).reverse = none) (r : Except Cause Spot) (names : List String) :
    SameOrGone r (d.walk last jump place (n :: names)) := by
  rw [walk_none hn h]
  split
  · exact .gone _ _
  · exact .missing _

/-- Where some places have become empty, a path leads where it did before, or to nothing, if that is so
from behind the first link. -/
theorem walk_thinned (ha : ∀ q, d'.root.at? q = none ∨ Entry.Alike (d.root.at? q) (d'.root.at? q))
    (hj : ∀ place names, SameOrGone (jump place names) (jump' place names)) (place names : List String) :
    SameOrGone (d.walk last jump place names) (d'.walk last jump' place names) := by
  fun_induction walk d last jump place names with
  | case1 place =>
    rw [walk]
    rcases ha place.reverse with hg | hs
    · rw [hg]
      exact .gone _ _
    · exact .same _ hs
  | case2 _ _ _ hn ih =>
    rw [walk, if_pos hn]
    exact ih
  | case3 _ _ _ hn hu ih =>
    rw [walk, if_neg hn, if_pos hu]
    exact ih
  | case4 _ _ _ hn hu hs =>
    rw [walk, if_neg hn, if_neg hu, if_pos hs]
    exact .error _
  | case5 place n names h₁ h₂ h₃ hq hl | case6 place n names h₁ h₂ h₃ hq hl =>
    have hq' : d'.root.at? (n :: place).reverse = none := by
      rcases ha (n :: place).reverse with hg | hs
      · exact hg
      · rw [hq] at hs
        exact hs.eq_none
    exact sameOrGone_walk ⟨h₁, h₂, h₃⟩ hq' _ names
  | case7 place n names h₁ h₂ h₃ ms hq ih =>
    rcases ha (n :: place).reverse with hg | hs
    · exact sameOrGone_walk ⟨h₁, h₂, h₃⟩ hg _ names
    · rw [hq] at hs
      obtain ⟨ns, hq'⟩ := hs.eq_folder
      rw [walk_folder ⟨h₁, h₂, h₃⟩ hq']
      exact ih
  | case8 place n names h₁ h₂ h₃ target hq hl =>
    rcases ha (n :: place).reverse with hg | hs
    · exact sameOrGone_walk ⟨h₁, h₂, h₃⟩ hg _ names
    · rw [hq] at hs
      rw [walk_link ⟨h₁, h₂, h₃⟩ (hs.eq_some rfl), if_pos hl]
      exact .same _ (.same _)
  | case9 place n names h₁ h₂ h₃ target hq hl =>
    rcases ha (n :: place).reverse with hg | hs
    · exact sameOrGone_walk ⟨h₁, h₂, h₃⟩ hg _ names
    · rw [hq] at hs
      rw [walk_link ⟨h₁, h₂, h₃⟩ (hs.eq_some rfl), if_neg hl]
      exact hj _ _
  | case10 place n names h₁ h₂ h₃ f hnf hnl hq hl =>
    rcases ha (n :: place).reverse with hg | hs
    · exact sameOrGone_walk ⟨h₁, h₂, h₃⟩ hg _ names
    · rw [hq] at hs
      rw [walk_end ⟨h₁, h₂, h₃⟩ hnf hnl (hs.eq_some (Entry.isFolder_eq_false hnf)), if_pos hl]
      exact .same _ (.same _)
  | case11 place n names h₁ h₂ h₃ f hnf hnl hq hl =>
    rcases ha (n :: place).reverse with hg | hs
    · exact sameOrGone_walk ⟨h₁, h₂, h₃⟩ hg _ names
    · rw [hq] at hs
      rw [walk_end ⟨h₁, h₂, h₃⟩ hnf hnl (hs.eq_some (Entry.isFolder_eq_false hnf)), if_neg hl]
      exact .error _

end

/-! ### Links -/

theorem entry_of_follow {d : Disk} {last : Bool} {links : Nat} {place names : List String} {spot : Spot}
    (h : d.follow last links place names = .ok spot) : spot.entry = d.root.at? spot.place := by
  induction links generalizing place names spot with
  | zero => exact entry_of_walk (fun _ _ _ hj => by cases hj) h
  | succ links ih => exact entry_of_walk (fun _ _ _ hj => ih hj) h

/-- A path that leads to a place for a file leads there again when a file has been put there. -/
theorem follow_changed {d d' : Disk} {p : List String} (he : IsSlot (d.root.at? p))
    (he' : IsSlot (d'.root.at? p))
    (ha : ∀ q, ¬ p <+: q → Entry.Alike (d.root.at? q) (d'.root.at? q)) {last : Bool} {links : Nat}
    {place names : List String} {e : Option Entry} (h : d.follow last links place names = .ok ⟨p, e⟩) :
    d'.follow last links place names = .ok ⟨p, d'.root.at? p⟩ := by
  induction links generalizing place names e with
  | zero => exact walk_changed he he' ha (fun _ _ _ hj => by cases hj) h
  | succ links ih => exact walk_changed he he' ha (fun _ _ _ hj => ih hj) h

/-- Where some places have become empty, a path leads where it did before, or to nothing. -/
theorem follow_thinned {d d' : Disk}
    (ha : ∀ q, d'.root.at? q = none ∨ Entry.Alike (d.root.at? q) (d'.root.at? q)) (last : Bool)
    (links : Nat) (place names : List String) :
    SameOrGone (d.follow last links place names) (d'.follow last links place names) := by
  induction links generalizing place names with
  | zero => exact walk_thinned ha (fun _ _ => .error _) place names
  | succ links ih => exact walk_thinned ha ih place names

/-! ### Files -/

theorem entry_of_locate {d : Disk} {last : Bool} {path : String} {spot : Spot}
    (h : d.locate last path = .ok spot) : spot.entry = d.root.at? spot.place := by
  unfold locate at h
  split at h
  · cases h
  · split at h
    · cases h
    · exact entry_of_follow h

theorem locate_changed {d d' : Disk} (hh : d'.here = d.here) {p : List String}
    (he : IsSlot (d.root.at? p)) (he' : IsSlot (d'.root.at? p))
    (ha : ∀ q, ¬ p <+: q → Entry.Alike (d.root.at? q) (d'.root.at? q)) {last : Bool} {path : String}
    {e : Option Entry} (h : d.locate last path = .ok ⟨p, e⟩) :
    d'.locate last path = .ok ⟨p, d'.root.at? p⟩ := by
  unfold locate at h ⊢
  rw [hh]
  split at h
  · cases h
  · rename_i h₁
    split at h
    · cases h
    · rename_i h₂
      rw [if_neg h₁, if_neg h₂]
      exact follow_changed he he' ha h

theorem locate_thinned {d d' : Disk} (hh : d'.here = d.here)
    (ha : ∀ q, d'.root.at? q = none ∨ Entry.Alike (d.root.at? q) (d'.root.at? q)) (last : Bool)
    (path : String) : SameOrGone (d.locate last path) (d'.locate last path) := by
  unfold locate
  rw [hh]
  split
  · exact .error _
  · split
    · exact .error _
    · exact follow_thinned ha ..

theorem read?_eq (d : Disk) (path : String) :
    d.read? path = match d.locate true path with
      | .ok ⟨_, some (.file content)⟩ => .ok (some content)
      | .ok ⟨_, some (.folder _)⟩ => .error ⟨"read", path, .isFolder⟩
      | .ok ⟨_, some _⟩ => .error ⟨"open", path, .noDevice⟩
      | .ok ⟨_, none⟩ => .ok none
      | .error c => if c = .missing then .ok none else .error ⟨"open", path, c⟩ := by
  unfold read? read entryAt
  cases d.locate true path with
  | error c => rfl
  | ok spot =>
    obtain ⟨p, e⟩ := spot
    cases e with
    | none => rfl
    | some f => cases f <;> rfl

theorem read?_of_sameOrGone {d d' : Disk} {path : String}
    (h : SameOrGone (d.locate true path) (d'.locate true path)) :
    d'.read? path = .ok none ∨ d'.read? path = d.read? path := by
  rw [read?_eq d, read?_eq d']
  generalize d.locate true path = r at h
  generalize d'.locate true path = r' at h
  cases h with
  | missing | gone => exact .inl rfl
  | error c => exact .inr rfl
  | same p h =>
    cases h with
    | same e => exact .inr rfl
    | folders ms ns => exact .inr rfl

/-- What can be written to is a place for a file. -/
theorem write_eq_ok {d d' : Disk} {path : String} {content : Bytes} (h : d.write path content = .ok d') :
    ∃ p, d.locate true path = .ok ⟨p, d.root.at? p⟩ ∧ IsSlot (d.root.at? p) ∧
      d' = d.put p (.file content) := by
  unfold write at h
  cases hl : d.locate true path with
  | error c => rw [hl] at h; cases h
  | ok spot =>
    obtain ⟨p, e⟩ := spot
    obtain rfl : e = d.root.at? p := entry_of_locate hl
    rw [hl] at h
    cases he : d.root.at? p with
    | none =>
      simp only [fail, bind, Except.bind, he] at h
      cases h
      exact ⟨p, by rw [he], by simp [IsSlot, he], rfl⟩
    | some f =>
      simp only [fail, bind, Except.bind, he] at h
      cases f with
      | file c => cases h; exact ⟨p, by rw [he], by simp [IsSlot, he], rfl⟩
      | folder | link | socket => cases h

theorem read?_of_write {d d' : Disk} {path : String} {content : Bytes}
    (h : d.write path content = .ok d') :
    d'.read? path = .ok (some content) ∨ d'.read? path = .ok none := by
  obtain ⟨p, hl, he, hd⟩ := write_eq_ok h
  have hh : d'.here = d.here := by rw [hd]; rfl
  have ha : ∀ q, ¬ p <+: q → Entry.Alike (d.root.at? q) (d'.root.at? q) := by
    intro q hq
    rw [hd]
    exact Entry.alike_set d.root _ hq
  have hput : d'.root.at? p = some (.file content) ∨ d'.root.at? p = none := by
    rw [hd]
    by_cases hn : p = []
    · subst hn
      exact .inl rfl
    · exact Entry.at?_set_self d.root _ hn
  have hs : IsSlot (d'.root.at? p) := by
    rcases hput with hput | hput <;> simp [IsSlot, hput]
  have hl' := locate_changed hh he hs ha hl
  rw [read?_eq, hl']
  rcases hput with hput | hput
  · left
    rw [hput]
  · right
    rw [hput]

theorem remove_eq_ok {d d' : Disk} {path : String} (h : d.remove path = .ok d') : ∃ p, d' = d.erase p := by
  unfold remove at h
  cases hl : d.locate false path with
  | error c => rw [hl] at h; cases h
  | ok spot =>
    obtain ⟨p, e⟩ := spot
    simp only [hl, fail, bind, Except.bind] at h
    cases e with
    | none => cases h
    | some f =>
      cases f with
      | folder ms => cases ms <;> cases h; exact ⟨p, rfl⟩
      | file | link | socket => cases h; exact ⟨p, rfl⟩

theorem read?_of_remove {d d' : Disk} {path : String} (h : d.remove path = .ok d') (path' : String) :
    d'.read? path' = .ok none ∨ d'.read? path' = d.read? path' := by
  obtain ⟨p, hd⟩ := remove_eq_ok h
  have hh : d'.here = d.here := by rw [hd]; rfl
  refine read?_of_sameOrGone (locate_thinned hh ?_ true path')
  intro q
  rw [hd]
  by_cases hq : p <+: q
  · obtain ⟨s, rfl⟩ := hq
    by_cases hn : p = []
    · subst hn
      exact .inr (.same _)
    · left
      have hg : (d.root.set none p).at? p = none := by
        simpa using Entry.at?_set_self d.root none hn
      rw [erase, Entry.at?_append, hg]
      rfl
  · exact .inr (Entry.alike_set d.root none hq)

end Disk

end MoquiLint
