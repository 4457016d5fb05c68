import MoquiLint.Proofs.Incremental
import MoquiLint.Proofs.SavedFile
import MoquiLint.Watch.Run

/-!
# Watched trees

What a watcher does in one step: a directory that it starts to watch is watched with all that lies below and is
not left out, changed files are collected, and of the collected ones those that are still there are handed over.
Below the root a path leads to what stands at its place.
-/
namespace MoquiLint

namespace Entry

/-- What stands somewhere after a change was put there, or it was there before. -/
theorem at?_set_cases {e f : Entry} {new : Option Entry} {place q : List String} (hp : place ≠ [])
    (hnew : ∀ g, new = some g → ∀ n ns, g.at? (n :: ns) = none) (h : (e.set new place).at? q = some f) :
    (q = place ∧ new = some f) ∨ Alike (e.at? q) (some f) := by
  by_cases hq : place <+: q
  · left
    obtain ⟨more, rfl⟩ := hq
    rw [at?_append, Option.bind_eq_some_iff] at h
    obtain ⟨g, hg, hf⟩ := h
    have hset : new = some g := by
      rcases at?_set_self e new hp with hs | hs
      · rw [← hs, hg]
      · rw [hs] at hg
        cases hg
    cases more with
    | nil =>
      cases hf
      exact ⟨List.append_nil place, hset⟩
    | cons n more =>
      rw [hnew g hset n more] at hf
      cases hf
  · right
    rw [← h]
    exact alike_set e new hq

theorem exists_eq_folder {e : Entry} (h : e.isFolder = true) : ∃ ms, e = .folder ms := by
  cases e with
  | folder ms => exact ⟨ms, rfl⟩
  | file | link | socket => cases h

def isFile : Entry → Bool
  | .file _ => true
  | .folder _ | .link _ | .socket => false

theorem exists_eq_file {e : Entry} (h : e.isFile = true) : ∃ c, e = .file c := by
  cases e with
  | file c => exact ⟨c, rfl⟩
  | folder | link | socket => cases h

theorem isFolderAt_of_alike {e : Entry} {q : List String} {ms : List (String × Entry)}
    (h : Alike (e.at? q) (some (.folder ms))) : e.IsFolderAt q := by
  generalize hf : e.at? q = f at h
  cases h with
  | same => exact ⟨ms, hf⟩
  | folders es => exact ⟨es, hf⟩

theorem eq_file_of_alike {e : Option Entry} {c : Bytes} (h : Alike e (some (.file c))) : e = some (.file c) := by
  cases h
  rfl

end Entry

namespace Disk

open Entry (IsFolderAt)

/-- From a folder proper names lead to what stands there, unless it is a link. -/
theorem follow_names {d : Disk} {last : Bool} {links : Nat} {names place : List String} {e : Entry}
    (hn : ∀ n ∈ names, IsProper n) (he : d.root.at? (place.reverse ++ names) = some e)
    (hl : ∀ target, e ≠ .link target) :
    d.follow last links place names = .ok ⟨place.reverse ++ names, some e⟩ := by
  induction names generalizing place with
  | nil =>
    rw [List.append_nil] at he ⊢
    rw [follow_nil, he]
  | cons n names ih =>
    obtain ⟨hproper, hrest⟩ := List.forall_mem_cons.mp hn
    have hsplit : place.reverse ++ n :: names = (n :: place).reverse ++ names := by simp
    rw [hsplit] at he ⊢
    obtain ⟨f, hf, hbelow⟩ := Option.bind_eq_some_iff.mp ((Entry.at?_append ..).symm.trans he)
    by_cases hfolder : f.isFolder = true
    · obtain ⟨ms, rfl⟩ := Entry.exists_eq_folder hfolder
      rw [follow_folder hproper _ _ hf]
      exact ih hrest he
    · -- nothing lies below what is no folder
      cases names with
      | cons m names =>
        rw [Entry.at?_cons_eq_none (Bool.eq_false_iff.mpr hfolder)] at hbelow
        cases hbelow
      | nil =>
        cases hbelow
        rw [List.append_nil]
        exact follow_end hproper _ _ (fun ms h => hfolder (h ▸ rfl)) hl hf

theorem keeps_erase {d : Disk} {place : List String} (h : IsSlot (d.root.at? place)) : Keeps d (d.erase place) :=
  keeps_set h none

end Disk

namespace Scan

variable {root : String} {names : List String}

theorem place_eq_spell (hr : Path.isAbsolute root = true) (hc : Path.clean root = root)
    (h : ∀ n ∈ names, Path.IsName n) : place root names = Path.spell true (Path.segments root ++ names) := by
  rw [place, ← hc, Path.clean_eq_spell hr, Path.join_spell (Path.isName_of_mem_segments hr) h,
    Path.segments_spell (Path.isName_of_mem_segments hr)]

theorem isAbsolute_place (hr : Path.isAbsolute root = true) (hc : Path.clean root = root)
    (h : ∀ n ∈ names, Path.IsName n) : Path.isAbsolute (place root names) = true := by
  rw [place_eq_spell hr hc h]
  exact Path.isAbsolute_spell _

theorem clean_place (hr : Path.isAbsolute root = true) (hc : Path.clean root = root)
    (h : ∀ n ∈ names, Path.IsName n) : Path.clean (place root names) = place root names := by
  have hall : ∀ n ∈ Path.segments root ++ names, Path.IsName n := by
    simpa [or_imp, forall_and] using And.intro (Path.isName_of_mem_segments hr) h
  rw [place_eq_spell hr hc h, Path.clean_spell hall]

end Scan

namespace Watch

open Entry (IsFolderAt)
open Scan (place)

theorem isFileName_iff {n : String} : isFileName n = true ↔ Disk.IsFileName n := by
  simp only [isFileName, Bool.and_eq_true, bne_iff_ne, Bool.not_eq_true', decide_eq_true_eq]
  constructor
  · rintro ⟨⟨⟨⟨⟨h₁, h₂⟩, h₃⟩, h₄⟩, h₅⟩, h₆⟩
    exact ⟨⟨h₁, h₂, h₃, by simpa using h₄⟩, h₆, by simpa using h₅⟩
  · rintro ⟨⟨h₁, h₂, h₃, h₄⟩, h₆, h₅⟩
    exact ⟨⟨⟨⟨⟨h₁, h₂⟩, h₃⟩, by simpa using h₄⟩, by simpa using h₅⟩, h₆⟩

/-! ### What is watched -/

theorem mem_foldersOf {path p n : String} {e : Entry} {ms : List (String × Entry)} (hl : ms.lookup n = some e)
    (hs : skips n = false) (hp : p ∈ folders (Path.join [path, n]) e) : p ∈ foldersOf path ms := by
  induction ms with
  | nil => cases hl
  | cons m ms ih =>
    obtain ⟨k, f⟩ := m
    rw [foldersOf, List.mem_append]
    by_cases hk : n = k
    · subst hk
      rw [List.lookup_cons_self] at hl
      cases hl
      left
      rwa [hs, if_neg Bool.false_ne_true]
    · rw [List.lookup_cons, beq_false_of_ne hk] at hl
      exact .inr (ih hl)

/-- All directories below are watched that are not left out, and do not lie below one that is. -/
theorem mem_folders {path : String} (habs : Path.isAbsolute path = true) (hclean : Path.clean path = path)
    {dirs : List String} (hd : ∀ n ∈ dirs, Path.IsName n) (hs : ∀ n ∈ dirs, skips n = false) {e : Entry}
    (he : e.IsFolderAt dirs) : place path dirs ∈ folders path e := by
  induction dirs generalizing path e with
  | nil =>
    obtain ⟨ms, hms⟩ := he
    cases hms
    rw [Scan.place_nil habs hclean, folders]
    exact List.mem_cons_self
  | cons n dirs ih =>
    obtain ⟨es, hes⟩ := he
    cases e with
    | file | link | socket => cases hes
    | folder ms =>
      obtain ⟨f, hf, hbelow⟩ := Option.bind_eq_some_iff.mp hes
      obtain ⟨hn, hdirs⟩ := List.forall_mem_cons.mp hd
      obtain ⟨hskip, hskips⟩ := List.forall_mem_cons.mp hs
      have hchild : ∀ m ∈ [n], Path.IsName m := List.forall_mem_singleton.mpr hn
      have hplace : place (place path [n]) dirs = place path (n :: dirs) :=
        Scan.place_place habs hclean hchild hdirs
      have hin := ih (Scan.isAbsolute_place habs hclean hchild) (Scan.clean_place habs hclean hchild) hdirs hskips
        ⟨es, hbelow⟩
      rw [hplace] at hin
      rw [folders]
      exact List.mem_cons_of_mem path (mem_foldersOf hf hskip hin)

namespace State

variable {s s' : State} {d : Disk} {path p : String} {o : Operation}

theorem mem_foldl_insert {ps watched : List String} :
    p ∈ ps.foldl (fun qs q => insert q qs) watched ↔ p ∈ ps ∨ p ∈ watched := by
  induction ps generalizing watched with
  | nil => simp
  | cons q ps ih =>
    rw [List.foldl_cons, ih, mem_insert, List.mem_cons]
    tauto

theorem watch_eq_ok (h : s.watch d path = .ok s') :
    ∃ e, d.lstat path = .ok e ∧ ∀ p, p ∈ s'.watched ↔ p ∈ folders path e ∨ p ∈ s.watched := by
  unfold watch at h
  cases he : d.lstat path with
  | error f => simp [he, bind, Except.bind] at h
  | ok e =>
    simp only [he, bind, Except.bind, pure, Except.pure, Except.ok.injEq] at h
    rw [← h]
    exact ⟨e, rfl, fun p => mem_foldl_insert⟩

/-- What comes of a change: its path is collected, it is watched from now on, or nothing. -/
theorem notice_cases (s : State) (d : Disk) (path : String) (o : Operation) :
    ((o.created = true ∨ o.written = true) ∧ Path.isXml path = true ∧
        (s.notice d path o).1 = { s with pending := insert path s.pending }) ∨
      (o.created = true ∧ Path.isXml path = false ∧ d.isFolder path = true ∧
        s.watch d path = .ok (s.notice d path o).1) ∨
      ((s.notice d path o).1 = s ∧
        (o.created = true ∨ o.written = true → Path.isXml path = false) ∧
        (o.created = true → d.isFolder path = true → ∃ f, s.watch d path = .error f)) := by
  unfold notice
  split
  · rename_i hnone
    right; right
    simp only [Bool.and_eq_true, Bool.not_eq_true'] at hnone
    simp [hnone.1, hnone.2]
  · rename_i hsome
    have hcw : o.created = true ∨ o.written = true := by
      cases hc : o.created <;> cases hw : o.written <;> simp_all
    split
    · rename_i hx
      exact .inl ⟨hcw, hx, rfl⟩
    · rename_i hx
      have hxml := Bool.eq_false_iff.mpr hx
      right
      split
      · rename_i hfolder
        obtain ⟨hc, hf⟩ := Bool.and_eq_true_iff.mp hfolder
        split
        · rename_i s' hs'
          exact .inl ⟨hc, hxml, hf, hs'⟩
        · rename_i f hf'
          exact .inr ⟨rfl, fun _ => hxml, fun _ _ => ⟨f, hf'⟩⟩
      · rename_i hno
        refine .inr ⟨rfl, fun _ => hxml, fun hc hf => absurd ?_ hno⟩
        rw [hc, hf]
        rfl

theorem watched_notice (h : p ∈ s.watched) : p ∈ (s.notice d path o).1.watched := by
  rcases notice_cases s d path o with ⟨-, -, he⟩ | ⟨-, -, -, he⟩ | ⟨he, -, -⟩
  · rw [he]
    exact h
  · obtain ⟨_, -, hw⟩ := watch_eq_ok he
    exact (hw p).mpr (.inr h)
  · rw [he]
    exact h

theorem mem_pending_notice_iff : p ∈ (s.notice d path o).1.pending ↔
    p ∈ s.pending ∨ (p = path ∧ (o.created = true ∨ o.written = true) ∧ Path.isXml path = true) := by
  rcases notice_cases s d path o with ⟨hcw, hx, he⟩ | ⟨-, hx, -, he⟩ | ⟨he, hx, -⟩
  · rw [he]
    constructor
    · intro h
      rcases mem_insert.mp h with rfl | h
      · exact .inr ⟨rfl, hcw, hx⟩
      · exact .inl h
    · rintro (h | ⟨rfl, -⟩)
      · exact mem_insert.mpr (.inr h)
      · exact mem_insert.mpr (.inl rfl)
  · rw [pending_of_watch he]
    constructor
    · exact .inl
    · rintro (h | ⟨-, -, hxml⟩)
      · exact h
      · rw [hx] at hxml
        cases hxml
  · rw [he]
    constructor
    · exact .inl
    · rintro (h | ⟨-, hcw, hxml⟩)
      · exact h
      · rw [hx hcw] at hxml
        cases hxml

theorem mem_watched_notice {ms : List (String × Entry)} (hx : Path.isXml path = false) (hc : o.created = true)
    (hs : d.stat path = .ok (.folder ms)) (hl : d.lstat path = .ok (.folder ms))
    (hp : p ∈ folders path (.folder ms)) : p ∈ (s.notice d path o).1.watched := by
  have hfolder : d.isFolder path = true := by
    rw [Disk.isFolder, hs]
    rfl
  have hwatch : s.watch d path =
      .ok { s with watched := (folders path (.folder ms)).foldl (fun qs q => insert q qs) s.watched } := by
    rw [watch, hl]
    rfl
  rcases notice_cases s d path o with ⟨-, hxml, -⟩ | ⟨-, -, -, he⟩ | ⟨-, -, hfail⟩
  · rw [hx] at hxml
    cases hxml
  · obtain ⟨e, hle, hw⟩ := watch_eq_ok he
    obtain rfl := Except.ok.inj (hl.symm.trans hle)
    exact (hw p).mpr (.inl hp)
  · obtain ⟨f, hf⟩ := hfail hc hfolder
    rw [hwatch] at hf
    cases hf

theorem flush_eq (s : State) (d : Disk) :
    (s.flush d).1 = { s with pending := [] } ∧ (s.flush d).2.getD [] = s.pending.filter d.isPlain := by
  unfold flush
  split
  · rename_i hnil
    obtain ⟨watched, pending⟩ := s
    obtain rfl := List.isEmpty_iff.mp hnil
    exact ⟨rfl, rfl⟩
  · exact ⟨rfl, rfl⟩

end State

end Watch

end MoquiLint
