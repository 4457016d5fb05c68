import MoquiLint.Proofs.ExcludedGlobs
import MoquiLint.Proofs.WatchBatches

/-!
# Directories that are not to be watched

A walk over a tree leaves out directories by their names, but never the one that it starts from. The watcher walks once
from its root, and again from every directory whose creation it takes notice of. What it watches is what these walks
have come to, so a directory that is to be left out is watched after its own creation.
-/
namespace MoquiLint

/-! ### Paths that end in no link -/

namespace Disk

variable {d : Disk} {e : Entry}

/-- What is found at the end of a path without a look behind a last link is found with one too, unless it is a link. -/
theorem follow_true_of_follow_false {links : Nat} {place names p : List String} (hl : ∀ target, e ≠ .link target)
    (h : d.follow false links place names = .ok ⟨p, some e⟩) :
    d.follow true links place names = .ok ⟨p, some e⟩ := by
  -- on the links that are left, then on the names: a link uses one up and puts new names in front
  induction links using Nat.strong_induction_on generalizing place names with
  | _ links ihl =>
  induction names generalizing place with
  | nil => rwa [follow_nil] at h ⊢
  | cons n names ih =>
    cases d.next place n with
    | blank hb =>
      rw [follow_blank hb] at h ⊢
      exact ih h
    | up hb hu =>
      rw [follow_up hb hu] at h ⊢
      exact ih h
    | long hb hu hlong => rwa [follow_long hb hu hlong] at h ⊢
    | none hn hq => rwa [follow_none hn _ _ hq] at h ⊢
    | folder hn ms hq =>
      rw [follow_folder hn _ _ hq] at h ⊢
      exact ih h
    | link hn target hq =>
      rw [follow_link hn _ _ hq] at h ⊢
      rw [Bool.not_true, Bool.and_false, if_neg Bool.false_ne_true]
      split at h
      · cases h
        exact absurd rfl (hl target)
      · cases links with
        | zero => cases h
        | succ links => exact ihl links (Nat.lt_succ_self links) h
    | other hn f hf hnl hq => rwa [follow_end hn _ _ hf hnl hq] at h ⊢

theorem stat_of_lstat {path : String} (hl : ∀ target, e ≠ .link target) (h : d.lstat path = .ok e) :
    d.stat path = .ok e := by
  obtain ⟨p, hp⟩ := entryAt_eq_ok.mp (fail_eq_ok.mp h)
  unfold locate at hp
  split at hp
  · cases hp
  · rename_i h₁
    split at hp
    · cases hp
    · rename_i h₂
      refine fail_eq_ok.mpr (entryAt_eq_ok.mpr ⟨p, ?_⟩)
      rw [locate, if_neg h₁, if_neg h₂, follow_true_of_follow_false hl hp]

end Disk

theorem Entry.IsTree.lookup_of_mem {ms : List (String × Entry)} (h : (Entry.folder ms).IsTree) {n : String} {e : Entry}
    (hm : (n, e) ∈ ms) : ms.lookup n = some e := by
  cases h with
  | folder distinct =>
    obtain ⟨before, after, rfl⟩ := List.append_of_mem hm
    refine List.lookup_eq_some_iff.mpr ⟨before, after, rfl, fun m hbefore => ?_⟩
    rw [List.map_append, List.nodup_append] at distinct
    have hne := distinct.2.2 m.1 (List.mem_map_of_mem hbefore) n (by simp)
    simpa using Ne.symm hne

namespace Watch

open Scan (place)

/-! ### One walk -/

/-- A walk from the path comes to the directory at the names below it: a directory stands there, and no name on the
way is left out. -/
structure Reaches (d : Disk) (path : String) (dirs : List String) : Prop where
  found : ∃ e, d.lstat path = .ok e ∧ e.IsFolderAt dirs
  kept : ∀ n ∈ dirs, skips n = false

theorem exists_of_mem_foldersOf {path p : String} {ms : List (String × Entry)} (h : p ∈ foldersOf path ms) :
    ∃ n e, (n, e) ∈ ms ∧ skips n = false ∧ p ∈ folders (place path [n]) e := by
  induction ms with
  | nil => simp [foldersOf] at h
  | cons m ms ih =>
    obtain ⟨k, f⟩ := m
    rw [foldersOf, List.mem_append] at h
    rcases h with h | h
    · split at h
      · cases h
      · rename_i hk
        exact ⟨k, f, List.mem_cons_self, Bool.eq_false_iff.mpr hk, h⟩
    · obtain ⟨n, e, hm, hn, hp⟩ := ih h
      exact ⟨n, e, List.mem_cons_of_mem _ hm, hn, hp⟩

/-- Besides those no directories are watched. -/
theorem exists_place_of_mem_folders {path p : String} (habs : Path.isAbsolute path = true)
    (hclean : Path.clean path = path) {e : Entry} (ht : e.IsTree) (h : p ∈ folders path e) :
    ∃ dirs, p = place path dirs ∧ (∀ n ∈ dirs, Path.IsName n) ∧ (∀ n ∈ dirs, skips n = false) ∧ e.IsFolderAt dirs := by
  induction ht generalizing path with
  | file | link | socket => simp [folders] at h
  | @folder ms distinct names members ih =>
    have hms : (Entry.folder ms).IsTree := .folder distinct names members
    rw [folders, List.mem_cons] at h
    rcases h with rfl | h
    · exact ⟨[], (Scan.place_nil habs hclean).symm, by simp, by simp, ms, rfl⟩
    · obtain ⟨n, f, hm, hskip, hp⟩ := exists_of_mem_foldersOf h
      have hn : ∀ m ∈ [n], Path.IsName m := List.forall_mem_singleton.mpr (names (n, f) hm)
      obtain ⟨dirs, rfl, hd, hs, es, hes⟩ :=
        ih (n, f) hm (Scan.isAbsolute_place habs hclean hn) (Scan.clean_place habs hclean hn) hp
      refine ⟨n :: dirs, Scan.place_place habs hclean hn hd, List.forall_mem_cons.mpr ⟨names (n, f) hm, hd⟩,
        List.forall_mem_cons.mpr ⟨hskip, hs⟩, es, ?_⟩
      rw [Entry.at?_cons_folder, hms.lookup_of_mem hm]
      exact hes

/-- What a walk from a place below the root comes to. -/
theorem mem_folders_place_iff {d : Disk} (ht : d.root.IsTree) {root : String} (habs : Path.isAbsolute root = true)
    (hclean : Path.clean root = root) {way dirs : List String} (hw : ∀ n ∈ way, Path.IsName n)
    (hd : ∀ n ∈ dirs, Path.IsName n) :
    (∃ e, d.lstat (place root way) = .ok e ∧ place root dirs ∈ folders (place root way) e) ↔
      ∃ more, dirs = way ++ more ∧ Reaches d (place root way) more := by
  have habs' := Scan.isAbsolute_place habs hclean hw
  have hclean' := Scan.clean_place habs hclean hw
  constructor
  · rintro ⟨e, he, hin⟩
    obtain ⟨more, hp, hm, hs, hf⟩ := exists_place_of_mem_folders habs' hclean' (Disk.isTree_of_lstat ht he) hin
    rw [Scan.place_place habs hclean hw hm] at hp
    have hwm : ∀ n ∈ way ++ more, Path.IsName n := List.forall_mem_append.mpr ⟨hw, hm⟩
    exact ⟨more, Scan.place_injective habs hclean hd hwm hp, ⟨e, he, hf⟩, hs⟩
  · rintro ⟨more, rfl, ⟨e, he, hf⟩, hs⟩
    have hm := (List.forall_mem_append.mp hd).2
    rw [← Scan.place_place habs hclean hw hm]
    exact ⟨e, he, mem_folders habs' hclean' hm hs hf⟩

/-! ### All walks -/

namespace State

variable {s : State} {p : String}

/-- A change adds what a walk from its path comes to, if a directory was created there. -/
theorem mem_watched_notice_iff {d : Disk} {path : String} {o : Operation} :
    p ∈ (s.notice d path o).1.watched ↔ p ∈ s.watched ∨
      (o.created = true ∧ Path.isXml path = false ∧ ∃ e, d.lstat path = .ok e ∧ p ∈ folders path e) := by
  constructor
  · intro h
    rcases notice_cases s d path o with ⟨-, -, he⟩ | ⟨hc, hx, -, he⟩ | ⟨he, -, -⟩
    · rw [he] at h
      exact .inl h
    · obtain ⟨e, hl, hw⟩ := watch_eq_ok he
      exact ((hw p).mp h).elim (fun hp => .inr ⟨hc, hx, e, hl, hp⟩) .inl
    · rw [he] at h
      exact .inl h
  · rintro (h | ⟨hc, hx, e, hl, hp⟩)
    · exact watched_notice h
    · cases e with
      | file | link | socket => simp [folders] at hp
      | folder ms => exact mem_watched_notice hx hc (Disk.stat_of_lstat (by simp) hl) hl hp

/-- Nothing is ever dropped from what is watched, and only walks from created directories add to it. -/
theorem mem_watched_after_iff (ms : List Moment) :
    p ∈ (s.after ms).watched ↔ p ∈ s.watched ∨ ∃ d path o, .change d path o ∈ ms ∧
      o.created = true ∧ Path.isXml path = false ∧ ∃ e, d.lstat path = .ok e ∧ p ∈ folders path e := by
  induction ms using List.reverseRecOn with
  | nil => simp [after]
  | append_singleton ms m ih =>
    rw [after_append_singleton]
    cases m with
    | change d path o =>
      rw [meet, mem_watched_notice_iff, ih]
      constructor
      · rintro ((h | ⟨d', path', o', hin, h⟩) | h)
        · exact .inl h
        · exact .inr ⟨d', path', o', List.mem_append_left _ hin, h⟩
        · exact .inr ⟨d, path, o, by simp, h⟩
      · rintro (h | ⟨d', path', o', hin, h⟩)
        · exact .inl (.inl h)
        · rcases List.mem_append.mp hin with hin | hin
          · exact .inl (.inr ⟨d', path', o', hin, h⟩)
          · cases List.mem_singleton.mp hin
            exact .inr h
    | tick d =>
      rw [meet, tick_eq, ih]
      simp

end State

/-- At the start the directories are watched that a walk from the root comes to. -/
theorem mem_watched_start_iff {d : Disk} {root : String} {s : State} (h : start d root = .ok s) (ht : d.root.IsTree)
    {dirs : List String} (hd : ∀ n ∈ dirs, Path.IsName n) :
    place (d.absolute root) dirs ∈ s.watched ↔ Reaches d (d.absolute root) dirs := by
  obtain ⟨e, he, hw⟩ := State.watch_eq_ok h
  have hnone : ∀ n ∈ ([] : List String), Path.IsName n := by simp
  have hwalk := mem_folders_place_iff ht (d.isAbsolute_absolute root) (d.clean_absolute root) hnone hd
  rw [Scan.place_nil (d.isAbsolute_absolute root) (d.clean_absolute root)] at hwalk
  rw [hw]
  simpa [he] using hwalk

/-- The watcher takes notice that a directory was created below the root, under a name of no XML file. -/
def IsCreated (root : String) (ms : List Moment) (d : Disk) (way : List String) : Prop :=
  ∃ o, .change d (place root way) o ∈ ms ∧ o.created = true ∧ Path.isXml (place root way) = false

/-- If a walk after the first names does not come by a name, this is one of the first names. -/
theorem Reaches.exists_prefix {d : Disk} {path n : String} {way more before after : List String}
    (h : Reaches d path more) (hn : skips n = true) (he : before ++ n :: after = way ++ more) :
    ∃ done, done <+: after ∧ way = before ++ n :: done := by
  have hout : n ∉ more := fun hin => absurd (h.kept n hin) (by simp [hn])
  rcases List.append_eq_append_iff.mp he with ⟨done, rfl, hdone⟩ | ⟨done, -, rfl⟩
  · cases done with
    | nil =>
      obtain rfl : n :: after = more := hdone
      exact absurd List.mem_cons_self hout
    | cons m done =>
      obtain ⟨rfl, rfl⟩ := List.cons.inj hdone
      exact ⟨done, List.prefix_append .., rfl⟩
  · exact absurd (by simp) hout

/-- At any time the directories that are watched below the root are those that a walk from the root came to at the
start, or a walk from a created directory when its creation was noticed. So if a name on the way to a directory is
to be left out, the directory is watched only after the creation, under this name or below it, of a directory on
the way to it. -/
theorem watched_iff_reached {d₀ : Disk} {root : String} {s : State} (h : start d₀ root = .ok s) (ht : d₀.root.IsTree)
    {ms : List Moment} (hms : ∀ d path o, .change d path o ∈ ms →
      d.root.IsTree ∧ ∃ way, (∀ n ∈ way, Path.IsName n) ∧ path = place (d₀.absolute root) way)
    {dirs : List String} (hd : ∀ n ∈ dirs, Path.IsName n) :
    (place (d₀.absolute root) dirs ∈ (s.after ms).watched ↔
      Reaches d₀ (d₀.absolute root) dirs ∨ ∃ d way more, dirs = way ++ more ∧
        IsCreated (d₀.absolute root) ms d way ∧ Reaches d (place (d₀.absolute root) way) more) ∧
    ∀ before n after, dirs = before ++ n :: after → skips n = true →
      place (d₀.absolute root) dirs ∈ (s.after ms).watched →
      ∃ d done, done <+: after ∧ IsCreated (d₀.absolute root) ms d (before ++ n :: done) := by
  have habs := d₀.isAbsolute_absolute root
  have hclean := d₀.clean_absolute root
  have hwatched : place (d₀.absolute root) dirs ∈ (s.after ms).watched ↔
      Reaches d₀ (d₀.absolute root) dirs ∨ ∃ d way more, dirs = way ++ more ∧
        IsCreated (d₀.absolute root) ms d way ∧ Reaches d (place (d₀.absolute root) way) more := by
    rw [State.mem_watched_after_iff, mem_watched_start_iff h ht hd]
    refine or_congr_right ⟨?_, ?_⟩
    · rintro ⟨d, path, o, hin, hc, hx, hwalk⟩
      obtain ⟨htree, way, hw, rfl⟩ := hms d path o hin
      obtain ⟨more, he, hmore⟩ := (mem_folders_place_iff htree habs hclean hw hd).mp hwalk
      exact ⟨d, way, more, he, ⟨o, hin, hc, hx⟩, hmore⟩
    · rintro ⟨d, way, more, rfl, ⟨o, hin, hc, hx⟩, hmore⟩
      have hw := (List.forall_mem_append.mp hd).1
      have hwalk := (mem_folders_place_iff (hms d _ o hin).1 habs hclean hw hd).mpr ⟨more, rfl, hmore⟩
      exact ⟨d, _, o, hin, hc, hx, hwalk⟩
  refine ⟨hwatched, fun before n after he hskip hin => ?_⟩
  rcases hwatched.mp hin with hr | ⟨d, way, more, hway, hc, hr⟩
  · have hall : before ++ n :: after = [] ++ dirs := he.symm
    obtain ⟨done, -, hnil⟩ := hr.exists_prefix hskip hall
    simp at hnil
  · obtain ⟨done, hdone, rfl⟩ := hr.exists_prefix hskip (he.symm.trans hway)
    exact ⟨d, done, hdone, hc⟩

/-- A walk from a new directory that is to be left out comes to what lies below it, but not to what is to be left
out there. -/
theorem watched_iff_reached_below :
    let d₀ : Disk := { root := .folder [("p", .folder [])] }
    let build : Entry := .folder [(".git", .folder []), ("lib", .folder [])]
    let d : Disk := { root := .folder [("p", .folder [("build", build)])] }
    ∃ s, start d₀ "/p" = .ok s ∧
      "/p/build/lib" ∈ (s.after [.change d "/p/build" .create]).watched ∧
      "/p/build/.git" ∉ (s.after [.change d "/p/build" .create]).watched := by
  intro d₀ build d
  have hs : start d₀ "/p" = .ok ⟨["/p"], []⟩ := by decide +kernel
  have habs : d₀.absolute "/p" = "/p" := by decide +kernel
  have ht₀ : d₀.root.IsTree := by decide +kernel
  have ht : d.root.IsTree := by decide +kernel
  have hbuild : place (d₀.absolute "/p") ["build"] = "/p/build" := by decide +kernel
  have hlib : place (d₀.absolute "/p") ["build", "lib"] = "/p/build/lib" := by decide +kernel
  have hgit : place (d₀.absolute "/p") ["build", ".git"] = "/p/build/.git" := by decide +kernel
  have hms : ∀ d' path o, Moment.change d' path o ∈ [Moment.change d "/p/build" .create] →
      d'.root.IsTree ∧ ∃ way, (∀ n ∈ way, Path.IsName n) ∧ path = place (d₀.absolute "/p") way := by
    intro d' path o hin
    cases List.mem_singleton.mp hin
    exact ⟨ht, ["build"], by decide +kernel, hbuild.symm⟩
  have hiff := @watched_iff_reached d₀ "/p" _ hs ht₀ _ hms
  refine ⟨_, hs, ?_, fun hin => ?_⟩
  · rw [← hlib]
    refine (hiff (by decide +kernel)).1.mpr (.inr ⟨d, ["build"], ["lib"], rfl, ?_, ?_⟩)
    · exact ⟨.create, by simp [hbuild], rfl, by decide +kernel⟩
    · rw [hbuild]
      exact ⟨⟨_, rfl, [], rfl⟩, by decide +kernel⟩
  · rw [← hgit] at hin
    obtain ⟨d', done, hdone, o, hmem, -⟩ := (hiff (by decide +kernel)).2 ["build"] ".git" [] rfl (by decide +kernel) hin
    obtain rfl := List.prefix_nil.mp hdone
    obtain ⟨-, hpath, -⟩ := Moment.change.inj (List.mem_singleton.mp hmem)
    exact absurd (hgit.symm.trans hpath) (by decide)

/-- A directory that was left out at the start, or was not there yet, is watched once its creation is noticed. -/
theorem left_out_watched :
    let d₀ : Disk := { root := .folder [("p", .folder [("a", .folder [])])] }
    let modules : Entry := .folder [("node_modules", .folder [("b", .folder [])])]
    let d : Disk := { root := .folder [("p", .folder [("a", modules)])] }
    let watched (d : Disk) (ms : List Moment) : Option (List String) :=
      (start d "/p").toOption.map fun s => (s.after ms).watched
    skips "node_modules" = true ∧ watched d [] = some ["/p", "/p/a"] ∧
      watched d₀ [.change d "/p/a/node_modules" .create] =
        some ["/p", "/p/a", "/p/a/node_modules", "/p/a/node_modules/b"] := by
  decide +kernel

end Watch

end MoquiLint
