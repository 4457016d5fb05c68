import MoquiLint.Proofs.BatchOrder

/-!
# Paths through folders

A path that leads on from a folder is followed to the folder first and from there on with the links that are
left. So what a path leads to is known from its last folder, and it is the same on two disks on which the
folders and links are the same.
-/
namespace MoquiLint

namespace Entry

def IsFolderAt (e : Entry) (place : List String) : Prop := ∃ ms, e.at? place = some (.folder ms)

/-- Whether something can stand at a place: it is the root, or it lies in a folder. -/
def IsHosted (e : Entry) (place : List String) : Prop :=
  place = [] ∨ ∃ folder n, place = folder ++ [n] ∧ e.IsFolderAt folder

theorem isFolderAt_of_at?_append {e f : Entry} {p q : List String} (hq : q ≠ [])
    (h : e.at? (p ++ q) = some f) : e.IsFolderAt p := by
  rw [at?_append, Option.bind_eq_some_iff] at h
  obtain ⟨g, hg, hf⟩ := h
  obtain ⟨n, q, rfl⟩ := List.exists_cons_of_ne_nil hq
  cases g with
  | folder ms => exact ⟨ms, hg⟩
  | file | link | socket => cases hf

theorem IsFolderAt.of_append {e : Entry} {p q : List String} (h : e.IsFolderAt (p ++ q)) : e.IsFolderAt p := by
  by_cases hq : q = []
  · rwa [hq, List.append_nil] at h
  · obtain ⟨ms, h⟩ := h
    exact isFolderAt_of_at?_append hq h

theorem IsFolderAt.nil {e : Entry} {p : List String} (h : e.IsFolderAt p) : e.IsFolderAt [] :=
  IsFolderAt.of_append (p := []) h

theorem IsFolderAt.tail {e : Entry} {place : List String} (h : e.IsFolderAt place.reverse) :
    e.IsFolderAt place.tail.reverse := by
  cases place with
  | nil => exact h
  | cons n place =>
    rw [List.reverse_cons] at h
    exact h.of_append

theorem IsFolderAt.isHosted {e : Entry} {p : List String} (h : e.IsFolderAt p) : e.IsHosted p := by
  rcases List.eq_nil_or_concat' p with rfl | ⟨q, n, rfl⟩
  · exact .inl rfl
  · exact .inr ⟨q, n, rfl, h.of_append⟩

theorem at?_set_of_isHosted {e : Entry} {p : List String} (h : e.IsHosted p) (new : Entry) :
    (e.set (some new) p).at? p = some new := by
  rcases h with rfl | ⟨q, n, rfl, ms, hms⟩
  · rfl
  · induction q generalizing e with
    | nil =>
      obtain rfl := Option.some.inj hms
      obtain ⟨ns, hs, -, hn⟩ := set_folder ms (some new) n []
      rw [List.nil_append, hs, at?_cons_folder, hn]
      rfl
    | cons m q ih =>
      cases e with
      | folder es =>
        obtain ⟨ns, hs, -, hm⟩ := set_folder es (some new) m (q ++ [n])
        rw [at?_cons_folder, Option.bind_eq_some_iff] at hms
        obtain ⟨f, hf, hms⟩ := hms
        rw [List.cons_append, hs, at?_cons_folder, hm, if_neg (by simp), hf]
        exact ih hms
      | file | link | socket => cases hms

end Entry

namespace Disk

open Entry (IsFolderAt IsHosted Alike)

variable {d d' : Disk} {last : Bool}

/-! ### One name after the other -/

/-- How a path goes on behind a link, if so many may be followed. -/
def behind (d : Disk) (last : Bool) : Nat → List String → List String → Except Cause Spot
  | 0 => fun _ _ => .error .tooManyLinks
  | links + 1 => d.follow last links

def linkStart (folder : List String) (target : String) : List String :=
  if Path.isAbsolute target then [] else folder

theorem follow_eq (d : Disk) (last : Bool) (links : Nat) :
    d.follow last links = d.walk last (d.behind last links) := by
  cases links <;> rfl

theorem follow_nil (links : Nat) (place : List String) :
    d.follow last links place [] = .ok ⟨place.reverse, d.root.at? place.reverse⟩ := by
  rw [follow_eq, walk]

theorem follow_blank {n : String} (h : (n == "" || n == ".") = true) (links : Nat) (place names : List String) :
    d.follow last links place (n :: names) = d.follow last links place names := by
  rw [follow_eq, walk, if_pos h]

theorem follow_up {n : String} (h : ¬ (n == "" || n == ".") = true) (hu : (n == "..") = true) (links : Nat)
    (place names : List String) :
    d.follow last links place (n :: names) = d.follow last links place.tail names := by
  rw [follow_eq, walk, if_neg h, if_pos hu]

theorem follow_long {n : String} (h : ¬ (n == "" || n == ".") = true) (hu : ¬ (n == "..") = true)
    (hl : maxName < n.utf8ByteSize) (links : Nat) (place names : List String) :
    d.follow last links place (n :: names) = .error .nameTooLong := by
  rw [follow_eq, walk, if_neg h, if_neg hu, if_pos hl]

section
variable {n : String} (hn : IsProper n) {place : List String} (links : Nat) (names : List String)
include hn

theorem follow_none (h : d.root.at? (n :: place).reverse = none) :
    d.follow last links place (n :: names) =
      if names.isEmpty then .ok ⟨(n :: place).reverse, none⟩ else .error .missing := by
  rw [follow_eq, walk_none hn h]

theorem follow_folder {ms : List (String × Entry)} (h : d.root.at? (n :: place).reverse = some (.folder ms)) :
    d.follow last links place (n :: names) = d.follow last links (n :: place) names := by
  rw [follow_eq, walk_folder hn h]

theorem follow_link {target : String} (h : d.root.at? (n :: place).reverse = some (.link target)) :
    d.follow last links place (n :: names) =
      if names.isEmpty && !last then .ok ⟨(n :: place).reverse, some (.link target)⟩
      else d.behind last links (linkStart place target) (Path.split target ++ names) := by
  rw [follow_eq, walk_link hn h]
  rfl

theorem follow_end {f : Entry} (hf : ∀ ms, f ≠ .folder ms) (hl : ∀ target, f ≠ .link target)
    (h : d.root.at? (n :: place).reverse = some f) :
    d.follow last links place (n :: names) =
      if names.isEmpty then .ok ⟨(n :: place).reverse, some f⟩ else .error .notFolder := by
  rw [follow_eq, walk_end hn hf hl h]

end

/-- What stands at the next name of a path, and how the name is taken. -/
inductive Next (d : Disk) (place : List String) (n : String) : Prop where
  | blank (h : (n == "" || n == ".") = true)
  | up (h : ¬ (n == "" || n == ".") = true) (hu : (n == "..") = true)
  | long (h : ¬ (n == "" || n == ".") = true) (hu : ¬ (n == "..") = true) (hl : maxName < n.utf8ByteSize)
  | none (hn : IsProper n) (h : d.root.at? (n :: place).reverse = none)
  | folder (hn : IsProper n) (ms : List (String × Entry)) (h : d.root.at? (n :: place).reverse = some (.folder ms))
  | link (hn : IsProper n) (target : String) (h : d.root.at? (n :: place).reverse = some (.link target))
  | other (hn : IsProper n) (f : Entry) (hf : ∀ ms, f ≠ .folder ms) (hl : ∀ target, f ≠ .link target)
      (h : d.root.at? (n :: place).reverse = some f)

theorem next (d : Disk) (place : List String) (n : String) : d.Next place n := by
  by_cases h : (n == "" || n == ".") = true
  · exact .blank h
  · by_cases hu : (n == "..") = true
    · exact .up h hu
    · by_cases hl : maxName < n.utf8ByteSize
      · exact .long h hu hl
      · have hn : IsProper n := ⟨h, hu, hl⟩
        cases he : d.root.at? (n :: place).reverse with
        | none => exact .none hn he
        | some f =>
          cases f with
          | folder ms => exact .folder hn ms he
          | link target => exact .link hn target he
          | file c => exact .other hn _ (by simp) (by simp) he
          | socket => exact .other hn _ (by simp) (by simp) he

/-! ### Parts of a path -/

theorem isFolderAt_linkStart {place : List String} (hp : d.root.IsFolderAt place.reverse) (target : String) :
    d.root.IsFolderAt (linkStart place target).reverse := by
  unfold linkStart
  split
  · exact hp.nil
  · exact hp

theorem follow_split {links : Nat} {place names more : List String} {spot : Spot}
    (hp : d.root.IsFolderAt place.reverse) (hm : more ≠ [])
    (h : d.follow last links place (names ++ more) = .ok spot) :
    ∃ p ms, d.follow true links place names = .ok ⟨p, some (.folder ms)⟩ := by
  -- on the links that are left, then on the names: a link uses one up and puts new names in front
  induction links using Nat.strong_induction_on generalizing place names with
  | _ links ihl =>
  induction names generalizing place with
  | nil =>
    obtain ⟨ms, hms⟩ := hp
    exact ⟨place.reverse, ms, by rw [follow_nil, hms]⟩
  | cons n names ih =>
    have hempty : (names ++ more).isEmpty = false := by simp [hm]
    rw [List.cons_append] at h
    cases d.next place n with
    | blank hb =>
      rw [follow_blank hb] at h ⊢
      exact ih hp h
    | up hb hu =>
      rw [follow_up hb hu] at h ⊢
      exact ih hp.tail h
    | long hb hu hl =>
      rw [follow_long hb hu hl] at h
      cases h
    | none hn he =>
      rw [follow_none hn _ _ he, hempty] at h
      cases h
    | folder hn ms he =>
      rw [follow_folder hn _ _ he] at h ⊢
      exact ih ⟨ms, he⟩ h
    | link hn target he =>
      rw [follow_link hn _ _ he] at h ⊢
      rw [hempty, Bool.false_and, if_neg Bool.false_ne_true, ← List.append_assoc] at h
      rw [Bool.not_true, Bool.and_false, if_neg Bool.false_ne_true]
      cases links with
      | zero => cases h
      | succ links => exact ihl links (Nat.lt_succ_self links) (isFolderAt_linkStart hp target) h
    | other hn f hf hl he =>
      rw [follow_end hn _ _ hf hl he, hempty] at h
      cases h

/-- Behind a folder a path is followed from there, with the links that are left. -/
theorem follow_append {links : Nat} {place names more p : List String} {ms : List (String × Entry)}
    (hm : more ≠ []) (h : d.follow last links place names = .ok ⟨p, some (.folder ms)⟩) :
    ∃ left ≤ links, ∀ last,
      d.follow last links place (names ++ more) = d.follow last left p.reverse more := by
  induction links using Nat.strong_induction_on generalizing place names with
  | _ links ihl =>
  induction names generalizing place with
  | nil =>
    rw [follow_nil, Except.ok.injEq, Spot.mk.injEq] at h
    exact ⟨links, le_rfl, fun last => by rw [← h.1, List.reverse_reverse, List.nil_append]⟩
  | cons n names ih =>
    have hempty : (names ++ more).isEmpty = false := by simp [hm]
    cases d.next place n with
    | blank hb =>
      rw [follow_blank hb] at h
      obtain ⟨left, hleft, he⟩ := ih h
      exact ⟨left, hleft, fun last => by rw [List.cons_append, follow_blank hb, he]⟩
    | up hb hu =>
      rw [follow_up hb hu] at h
      obtain ⟨left, hleft, he⟩ := ih h
      exact ⟨left, hleft, fun last => by rw [List.cons_append, follow_up hb hu, he]⟩
    | long hb hu hl =>
      rw [follow_long hb hu hl] at h
      cases h
    | none hn hq =>
      rw [follow_none hn _ _ hq] at h
      split at h <;> cases h
    | folder hn es hq =>
      rw [follow_folder hn _ _ hq] at h
      obtain ⟨left, hleft, he⟩ := ih h
      exact ⟨left, hleft, fun last => by rw [List.cons_append, follow_folder hn _ _ hq, he]⟩
    | link hn target hq =>
      rw [follow_link hn _ _ hq] at h
      split at h
      · cases h
      · cases links with
        | zero => cases h
        | succ links =>
          obtain ⟨left, hleft, he⟩ := ihl links (Nat.lt_succ_self links) h
          refine ⟨left, Nat.le_succ_of_le hleft, fun last => ?_⟩
          rw [List.cons_append, follow_link hn _ _ hq, hempty, Bool.false_and, if_neg Bool.false_ne_true,
            ← List.append_assoc]
          exact he last
    | other hn f hf hl hq =>
      rw [follow_end hn _ _ hf hl hq] at h
      split at h
      · cases h
        exact absurd rfl (hf ms)
      · cases h

/-- With more links to follow a path leads where it does, unless there were too many. -/
theorem follow_mono {links more : Nat} (hle : links ≤ more) {place names : List String}
    (h : d.follow last links place names ≠ .error .tooManyLinks) :
    d.follow last more place names = d.follow last links place names := by
  induction links using Nat.strong_induction_on generalizing more place names with
  | _ links ihl =>
  induction names generalizing place with
  | nil => rw [follow_nil, follow_nil]
  | cons n names ih =>
    cases d.next place n with
    | blank hb =>
      rw [follow_blank hb] at h
      rw [follow_blank hb, follow_blank hb, ih h]
    | up hb hu =>
      rw [follow_up hb hu] at h
      rw [follow_up hb hu, follow_up hb hu, ih h]
    | long hb hu hl => rw [follow_long hb hu hl, follow_long hb hu hl]
    | none hn hq => rw [follow_none hn _ _ hq, follow_none hn _ _ hq]
    | folder hn ms hq =>
      rw [follow_folder hn _ _ hq] at h
      rw [follow_folder hn _ _ hq, follow_folder hn _ _ hq, ih h]
    | link hn target hq =>
      rw [follow_link hn _ _ hq] at h
      rw [follow_link hn _ _ hq, follow_link hn _ _ hq]
      split
      · rfl
      · rename_i hs
        rw [if_neg hs] at h
        cases links with
        | zero => exact absurd rfl h
        | succ links =>
          obtain ⟨more, rfl⟩ := Nat.exists_eq_succ_of_ne_zero (Nat.ne_zero_of_lt hle)
          exact ihl links (Nat.lt_succ_self links) (Nat.le_of_succ_le_succ hle) h
    | other hn f hf hl hq => rw [follow_end hn _ _ hf hl hq, follow_end hn _ _ hf hl hq]

theorem isHosted_of_follow {links : Nat} {place names : List String} {spot : Spot}
    (hp : d.root.IsFolderAt place.reverse) (h : d.follow last links place names = .ok spot) :
    d.root.IsHosted spot.place := by
  induction links using Nat.strong_induction_on generalizing place names with
  | _ links ihl =>
  induction names generalizing place with
  | nil =>
    rw [follow_nil] at h
    cases h
    exact hp.isHosted
  | cons n names ih =>
    have hchild : d.root.IsHosted (n :: place).reverse := .inr ⟨place.reverse, n, List.reverse_cons, hp⟩
    cases d.next place n with
    | blank hb =>
      rw [follow_blank hb] at h
      exact ih hp h
    | up hb hu =>
      rw [follow_up hb hu] at h
      exact ih hp.tail h
    | long hb hu hl =>
      rw [follow_long hb hu hl] at h
      cases h
    | none hn hq =>
      rw [follow_none hn _ _ hq] at h
      split at h
      · cases h
        exact hchild
      · cases h
    | folder hn ms hq =>
      rw [follow_folder hn _ _ hq] at h
      exact ih ⟨ms, hq⟩ h
    | link hn target hq =>
      rw [follow_link hn _ _ hq] at h
      split at h
      · cases h
        exact hchild
      · cases links with
        | zero => cases h
        | succ links => exact ihl links (Nat.lt_succ_self links) (isFolderAt_linkStart hp target) h
    | other hn f hf hl hq =>
      rw [follow_end hn _ _ hf hl hq] at h
      split at h
      · cases h
        exact hchild
      · cases h

/-! ### Two disks -/

/-- A link that no path leads through: its target is no folder. -/
def IsDead (d : Disk) (place : List String) (e : Entry) : Prop :=
  ∃ folder n target, place = folder ++ [n] ∧ e = .link target ∧
    ∀ links p ms, d.follow true links (linkStart folder.reverse target) (Path.split target) ≠
      .ok ⟨p, some (.folder ms)⟩

/-- What is no file is alike on both disks, links that no path leads through apart. -/
def Carries (d d' : Disk) : Prop :=
  ∀ place e, d.root.at? place = some e → (∀ c, e ≠ .file c) →
    Alike (some e) (d'.root.at? place) ∨ d.IsDead place e

theorem follow_carried (hc : d.Carries d') {links : Nat} {place names p : List String}
    {ms : List (String × Entry)} (hp : d.root.IsFolderAt place.reverse)
    (h : d.follow last links place names = .ok ⟨p, some (.folder ms)⟩) :
    ∃ ns, d'.follow last links place names = .ok ⟨p, some (.folder ns)⟩ := by
  have hfolder : ∀ {q es}, d.root.at? q = some (.folder es) → ∃ ns, d'.root.at? q = some (.folder ns) := by
    intro q es hq
    rcases hc q _ hq (by simp) with ha | ⟨_, _, _, -, hl, -⟩
    · exact ha.eq_folder
    · cases hl
  induction links using Nat.strong_induction_on generalizing place names with
  | _ links ihl =>
  induction names generalizing place with
  | nil =>
    rw [follow_nil, Except.ok.injEq, Spot.mk.injEq] at h
    obtain ⟨ns, hns⟩ := hfolder h.2
    exact ⟨ns, by rw [follow_nil, hns, h.1]⟩
  | cons n names ih =>
    cases d.next place n with
    | blank hb =>
      rw [follow_blank hb] at h ⊢
      exact ih hp h
    | up hb hu =>
      rw [follow_up hb hu] at h ⊢
      exact ih hp.tail h
    | long hb hu hl =>
      rw [follow_long hb hu hl] at h
      cases h
    | none hn hq =>
      rw [follow_none hn _ _ hq] at h
      split at h <;> cases h
    | folder hn es hq =>
      obtain ⟨ns, hns⟩ := hfolder hq
      rw [follow_folder hn _ _ hq] at h
      rw [follow_folder hn _ _ hns]
      exact ih ⟨es, hq⟩ h
    | link hn target hq =>
      rw [follow_link hn _ _ hq] at h
      split at h
      · cases h
      · rename_i hs
        cases links with
        | zero => cases h
        | succ links =>
          rcases hc _ _ hq (by simp) with ha | ⟨folder, m, target', hplace, he, hdead⟩
          · have hq' := ha.eq_some rfl
            rw [follow_link hn _ _ hq', if_neg hs]
            exact ihl links (Nat.lt_succ_self links) (isFolderAt_linkStart hp target) h
          · -- the path goes through the link, so the target of the link is a folder
            obtain rfl : target = target' := Entry.link.inj he
            rw [List.reverse_cons] at hplace
            obtain ⟨rfl, -⟩ := List.append_inj' hplace rfl
            rw [List.reverse_reverse] at hdead
            by_cases hnames : names = []
            · subst hnames
              obtain rfl : last = true := by simpa using hs
              rw [List.append_nil] at h
              exact absurd h (hdead links p ms)
            · obtain ⟨q, es, hq⟩ := follow_split (isFolderAt_linkStart hp target) hnames h
              exact absurd hq (hdead links q es)
    | other hn f hf hl hq =>
      rw [follow_end hn _ _ hf hl hq] at h
      split at h
      · cases h
        exact absurd rfl (hf ms)
      · cases h

end Disk

end MoquiLint
