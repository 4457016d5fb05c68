import Mathlib.Data.List.Pairwise
import Mathlib.Data.List.Perm.Basic
import MoquiLint.Proofs.BatchOrder
import MoquiLint.Proofs.KnownFolders
import MoquiLint.Proofs.Verdict

/-!
# The shares of the components

Grouping files by their owners divides them among components with different names, so that the counts of a
batch are the sum of those of its components.
-/
namespace MoquiLint

/-! ### Grouping -/

theorem pairwise_lt_eraseDups : {xs : List String} → xs.Pairwise (· ≤ ·) → xs.eraseDups.Pairwise (· < ·)
  | [], _ => List.Pairwise.nil
  | x :: xs, h => by
    obtain ⟨hx, hxs⟩ := List.pairwise_cons.mp h
    rw [List.eraseDups_cons, List.pairwise_cons]
    refine ⟨fun y hy => ?_, pairwise_lt_eraseDups (hxs.filter _)⟩
    obtain ⟨hmem, hne⟩ := List.mem_filter.mp (List.mem_eraseDups.mp hy)
    have hle : x ≤ y := hx y hmem
    by_contra hlt
    obtain rfl := String.le_antisymm hle (String.not_lt.mp hlt)
    simp at hne
termination_by xs => xs.length
decreasing_by exact Nat.lt_succ_of_le (List.length_filter_le _ _)

/-- The groups of different keys make up the list if every key of it is among them. -/
theorem flatMap_filter_perm {α : Type} (key : α → String) {names : List String} (hn : names.Nodup)
    {xs : List α} (h : ∀ x ∈ xs, key x ∈ names) :
    (names.flatMap fun n => xs.filter fun x => key x == n).Perm xs := by
  induction names generalizing xs with
  | nil =>
    obtain rfl : xs = [] := List.eq_nil_iff_forall_not_mem.mpr fun x hx => List.not_mem_nil (h x hx)
    exact .refl _
  | cons n names ih =>
    obtain ⟨hnot, hn'⟩ := List.nodup_cons.mp hn
    have hothers : ∀ x ∈ xs.filter (fun x => !(key x == n)), key x ∈ names := by
      intro x hx
      obtain ⟨hmem, hne⟩ := List.mem_filter.mp hx
      have hkey : key x ≠ n := by simpa using hne
      exact (List.mem_cons.mp (h x hmem)).resolve_left hkey
    -- what has another key is left to the groups of the other keys as it is
    have hsame : ∀ m ∈ names, (xs.filter fun x => key x == m) =
        (xs.filter fun x => !(key x == n)).filter fun x => key x == m := by
      intro m hm
      rw [List.filter_filter]
      refine List.filter_congr fun x _ => ?_
      by_cases hx : key x = m
      · have hne : m ≠ n := fun he => hnot (he ▸ hm)
        simp [hx, hne]
      · simp [hx]
    rw [List.flatMap_cons, List.flatMap_congr hsame]
    exact ((ih hn' hothers).append_left _).trans (List.filter_append_perm _ xs)

namespace Component

theorem mem_sortedSet {xs : List String} {x : String} : x ∈ sortedSet xs ↔ x ∈ xs := by
  rw [sortedSet, List.mem_eraseDups, List.mem_mergeSort]

theorem pairwise_sortedSet (xs : List String) : (sortedSet xs).Pairwise (· < ·) :=
  pairwise_lt_eraseDups (pairwise_le_mergeSort_key id xs)

/-- Components in the order of their names that have the given files among them, each in one of them. -/
structure Divides (cs : List Component) (files : List String) : Prop where
  sorted : cs.Pairwise fun c k => c.name < k.name
  owns : ∀ c ∈ cs, c.files ≠ []
  perm : (cs.flatMap (·.files)).Perm files

theorem divides_gather (root : String) (owned : List (String × String × String)) :
    Divides ((sortedSet (owned.map (·.2.1))).map (gather root owned)) (owned.map (·.1)) := by
  have hsorted := pairwise_sortedSet (owned.map (·.2.1))
  have hnodup : (sortedSet (owned.map (·.2.1))).Nodup := hsorted.imp fun h => String.ne_of_lt h
  refine ⟨List.pairwise_map.mpr hsorted, ?_, ?_⟩
  · intro c hc
    obtain ⟨name, hname, rfl⟩ := List.mem_map.mp hc
    obtain ⟨o, ho, rfl⟩ := List.mem_map.mp (mem_sortedSet.mp hname)
    have hmem : o.1 ∈ (gather root owned o.2.1).files :=
      List.mem_mergeSort.mpr (List.mem_map_of_mem (List.mem_filter.mpr ⟨ho, beq_self_eq_true _⟩))
    exact List.ne_nil_of_mem hmem
  · have hfiles : ∀ name ∈ sortedSet (owned.map (·.2.1)),
        (gather root owned name).files.Perm ((owned.filter fun o => o.2.1 == name).map (·.1)) :=
      fun name _ => List.mergeSort_perm _ _
    have hgroups := flatMap_filter_perm (fun o : String × String × String => o.2.1) hnodup
      fun o (ho : o ∈ owned) => mem_sortedSet.mpr (List.mem_map_of_mem ho)
    rw [List.flatMap_map]
    refine (List.Perm.flatMap_left _ hfiles).trans ?_
    rw [← List.map_flatMap]
    exact hgroups.map _

/-- Files are divided among their owners, also if several folders declare the same name. -/
theorem divides_detect (d : Disk) (root : String) (files : List String) :
    Divides (detect d root files) files := by
  have hfiles : (files.map fun f => (f, owner d (d.absolute root) f)).map (·.1) = files := by
    rw [List.map_map]
    exact List.map_id' files
  have h := divides_gather (d.absolute root) (files.map fun f => (f, owner d (d.absolute root) f))
  rw [hfiles] at h
  rwa [detect_eq_gather]

theorem Divides.existsUnique {cs : List Component} {files : List String} (h : Divides cs files)
    (hn : files.Nodup) {path : String} (hp : path ∈ files) : ∃! c, c ∈ cs ∧ path ∈ c.files := by
  obtain ⟨c, hc, hmem⟩ := List.mem_flatMap.mp (h.perm.mem_iff.mpr hp)
  have hdisjoint := (List.nodup_flatMap.mp (h.perm.nodup_iff.mpr hn)).2
  refine ⟨c, ⟨hc, hmem⟩, ?_⟩
  rintro k ⟨hk, hmem'⟩
  by_contra hne
  have : Std.Symm (Function.onFun List.Disjoint fun c : Component => c.files) := ⟨fun _ _ hd path hc hk => hd hk hc⟩
  have hkc : List.Disjoint k.files c.files := hdisjoint.forall hk hc hne
  exact hkc hmem' hmem

/-! ### Totals -/

section
variable {cs : List Component} {files : List FileReport}

theorem reportOn?_path (hn : (files.map FileReport.path).Nodup) {f : FileReport} (hf : f ∈ files) :
    reportOn? files f.path = some f := by
  unfold reportOn?
  cases hfind : files.reverse.find? fun g => g.path == f.path with
  | none =>
    have hne := List.find?_eq_none.mp hfind f (List.mem_reverse.mpr hf)
    simp at hne
  | some g =>
    have hg : g ∈ files := List.mem_reverse.mp (List.mem_of_find?_eq_some hfind)
    have hpath : g.path = f.path := by simpa using List.find?_some hfind
    rw [List.inj_on_of_nodup_map hn hg hf hpath]

theorem flatMap_reports_perm (h : Divides cs (files.map FileReport.path))
    (hn : (files.map FileReport.path).Nodup) : (cs.flatMap fun c => c.reports files).Perm files := by
  have hall : (files.map FileReport.path).filterMap (reportOn? files) = files := by
    rw [List.filterMap_map]
    refine (List.filterMap_congr fun f hf => ?_).trans List.filterMap_some
    exact reportOn?_path hn hf
  have hperm := h.perm.filterMap (reportOn? files)
  rwa [hall, List.filterMap_flatMap] at hperm

theorem reports_ne_nil (h : Divides cs (files.map FileReport.path))
    (hn : (files.map FileReport.path).Nodup) {c : Component} (hc : c ∈ cs) : c.reports files ≠ [] := by
  obtain ⟨path, hpath⟩ := List.exists_mem_of_ne_nil _ (h.owns c hc)
  have hmem : path ∈ files.map FileReport.path := h.perm.mem_iff.mp (List.mem_flatMap.mpr ⟨c, hc, hpath⟩)
  obtain ⟨f, hf, rfl⟩ := List.mem_map.mp hmem
  exact List.ne_nil_of_mem (List.mem_filterMap.mpr ⟨f.path, hpath, reportOn?_path hn hf⟩)

def share (files : List FileReport) (c : Component) : ComponentSummary where
  name := c.name
  path := c.path
  kinds := c.kinds
  passed := (BatchReport.ofFiles (some (c.reports files))).passed
  totals := (BatchReport.ofFiles (some (c.reports files))).totals

theorem summary?_eq_share {c : Component} (h : c.reports files ≠ []) :
    summary? files c = some (share files c) := by
  unfold summary?
  exact if_neg (by simpa using h)

/-- No component is left out, and they are in their order already. -/
theorem summarize_eq (h : Divides cs (files.map FileReport.path)) (hn : (files.map FileReport.path).Nodup) :
    summarize cs files = cs.map (share files) := by
  have hall : cs.filterMap (summary? files) = cs.map (share files) := by
    rw [← List.filterMap_eq_map]
    exact List.filterMap_congr fun c hc => summary?_eq_share (reports_ne_nil h hn hc)
  have hsorted : (cs.map (share files)).Pairwise fun a b => Str.le a.name b.name = true :=
    List.pairwise_map.mpr (h.sorted.imp fun hlt => Str.le_eq_true_iff.mpr (String.not_lt.mp (String.lt_asymm hlt)))
  rw [summarize, hall, List.mergeSort_of_pairwise hsorted]

theorem sum_totals_share (h : Divides cs (files.map FileReport.path))
    (hn : (files.map FileReport.path).Nodup) :
    ((cs.map (share files)).map (·.totals)).sum = (BatchReport.ofFiles (some files)).totals := by
  have hsum : ∀ ks : List Component, ((ks.map (share files)).map (·.totals)).sum =
      ((ks.flatMap fun c => c.reports files).map Totals.ofFile).sum := by
    intro ks
    induction ks with
    | nil => rfl
    | cons k ks ih =>
      rw [List.map_cons, List.map_cons, List.sum_cons, ih, List.flatMap_cons, List.map_append,
        List.sum_append, share, BatchReport.totals_ofFiles, Option.getD_some]
  rw [hsum, BatchReport.totals_ofFiles]
  exact ((flatMap_reports_perm h hn).map _).sum_eq

theorem passed_iff_share (h : Divides cs (files.map FileReport.path))
    (hn : (files.map FileReport.path).Nodup) (hne : files ≠ []) :
    (BatchReport.ofFiles (some files)).passed = true ↔ ∀ c ∈ cs.map (share files), c.passed = true := by
  have hperm := flatMap_reports_perm h hn
  rw [BatchReport.passed_ofFiles_iff, List.forall_mem_map]
  constructor
  · rintro ⟨-, hall⟩ c hc
    refine BatchReport.passed_ofFiles_iff _ |>.mpr ⟨reports_ne_nil h hn hc, fun f hf => ?_⟩
    exact hall f (hperm.mem_iff.mp (List.mem_flatMap.mpr ⟨c, hc, hf⟩))
  · intro hall
    refine ⟨hne, fun f hf => ?_⟩
    obtain ⟨c, hc, hmem⟩ := List.mem_flatMap.mp (hperm.mem_iff.mpr hf)
    exact (BatchReport.passed_ofFiles_iff _ |>.mp (hall c hc)).2 f hmem

end

end Component

/-! ### Runs -/

namespace Lint

section
variable (scan : Disk → String → Dialect → Config → Except Text Scan.Result)
  (parse : String → Bytes → Except ParseFault Markup.Node) (cache : Option String) (canceled : Bool)

/-- A report on files is that of candidates with different paths, broken down by the components found after
the run. -/
theorem exists_reports_of_run {d : Disk} {r : Request} {b : BatchReport}
    (hb : (run ⟨⟨scan, parse, Parts.standard.detect⟩, cache, canceled⟩ d r).report = .ok b)
    (hne : b.fileList ≠ []) :
    b.files = some b.fileList ∧ (b.fileList.map FileReport.path).Nodup ∧
      b.components = Component.summarize (Component.detect
        (run ⟨⟨scan, parse, Parts.standard.detect⟩, cache, canceled⟩ d r).disk r.project
        (b.fileList.map FileReport.path)) b.fileList := by
  obtain ⟨report, hempty, hrun⟩ | ⟨cfg, cs, -, hcs, hrun⟩ :=
    run_cases ⟨scan, parse, Parts.standard.detect⟩ canceled d r
  · rw [(hrun cache).1] at hb
    exact absurd (hempty b hb) hne
  · obtain ⟨hreport, hdisk⟩ := hrun cache
    rw [hreport] at hb
    rw [hdisk]
    obtain rfl := Except.ok.inj hb
    have hpath : (((cs.map (judge ⟨scan, parse, Parts.standard.detect⟩ d cfg.skipped
        (Service.lookedUp ⟨⟨scan, parse, Parts.standard.detect⟩, cache, canceled⟩ d r.project cfg))).map
          (·.report)).map FileReport.path) = cs.map Candidate.path := by
      rw [List.map_map, List.map_map]
      exact List.map_congr_left fun c _ => path_judge _ _ _ _ c
    refine ⟨rfl, ?_, rfl⟩
    have hn : (([] : List Candidate).map Candidate.path).Nodup := List.nodup_nil
    rw [BatchReport.fileList]
    exact hpath ▸ nodup_collect hn hcs

/-- The components of a batch account for every file once: they have different names, each has files, their
totals add up to those of the batch, and the batch passes if all of them do. -/
theorem component_totals {d : Disk} {r : Request} {b : BatchReport}
    (hb : (run ⟨⟨scan, parse, Parts.standard.detect⟩, cache, canceled⟩ d r).report = .ok b)
    (hne : b.fileList ≠ []) :
    let after := (run ⟨⟨scan, parse, Parts.standard.detect⟩, cache, canceled⟩ d r).disk
    let cs := Component.detect after r.project (b.fileList.map FileReport.path)
    (cs.flatMap Component.files).Perm (b.fileList.map FileReport.path) ∧
      (∀ f ∈ b.fileList, ∃! c, c ∈ cs ∧ f.path ∈ c.files) ∧
      cs.Pairwise (fun c k => utf8 c.name < utf8 k.name) ∧
      b.components.map ComponentSummary.name = cs.map Component.name ∧
      (∀ c ∈ b.components, 0 < c.totals.files) ∧
      (b.components.map ComponentSummary.totals).sum = b.totals ∧
      (b.passed = true ↔ ∀ c ∈ b.components, c.passed = true) := by
  intro after cs
  obtain ⟨hfiles, hn, hcomponents⟩ := exists_reports_of_run scan parse cache canceled hb hne
  have hreduced := isReduced_of_run hb
  have h : Component.Divides cs (b.fileList.map FileReport.path) := Component.divides_detect _ _ _
  rw [Component.summarize_eq h hn] at hcomponents
  refine ⟨h.perm, fun f hf => h.existsUnique hn (List.mem_map_of_mem hf),
    h.sorted.imp fun hlt => utf8_lt_utf8 hlt, ?_, ?_, ?_, ?_⟩
  · rw [hcomponents, List.map_map]
    rfl
  · intro c hc
    rw [hcomponents] at hc
    obtain ⟨k, hk, rfl⟩ := List.mem_map.mp hc
    have hlength : 0 < (k.reports b.fileList).length :=
      List.length_pos_iff.mpr (Component.reports_ne_nil h hn hk)
    have hcount : (Component.share b.fileList k).totals.files = (k.reports b.fileList).length :=
      BatchReport.files_totals _
    omega
  · rw [hcomponents, hreduced.totals, hfiles]
    exact Component.sum_totals_share h hn
  · rw [hcomponents, hreduced.passed, hfiles]
    exact Component.passed_iff_share h hn hne

end

/-- Two folders that declare the same name are one component. -/
theorem component_totals_shared_name :
    let descriptor := Entry.file (utf8 "<component name='shop'/>")
    let d : Disk := { root := .folder [("p", .folder [("c.xml", .file (utf8 "<services/>")),
      ("x", .folder [("a.xml", .file (utf8 "<entities/>")), ("component.xml", descriptor)]),
      ("y", .folder [("b.xml", .file (utf8 "<entities/>")), ("component.xml", descriptor)])])] }
    let r : Request := { project := "/p", paths := ["/p/x/a.xml", "/p/c.xml", "/p/y/b.xml"], dialect := .auto }
    (Component.owner d "/p" "/p/x/a.xml").1 = "shop" ∧ (Component.owner d "/p" "/p/y/b.xml").1 = "shop" ∧
      (Component.owner d "/p" "/p/c.xml").1 = "p" ∧
      ∃ b, (run {} d r).report = .ok b ∧
        b.fileList.map FileReport.path = ["/p/x/a.xml", "/p/c.xml", "/p/y/b.xml"] ∧
        (b.components.map ComponentSummary.totals).sum = b.totals ∧
        (b.passed = true ↔ ∀ c ∈ b.components, c.passed = true) := by
  intro descriptor d r
  have hpaths : (run {} d r).report.map (fun b => b.fileList.map FileReport.path) =
      .ok ["/p/x/a.xml", "/p/c.xml", "/p/y/b.xml"] := by decide +kernel
  refine ⟨by decide +kernel, by decide +kernel, by decide +kernel, ?_⟩
  cases hb : (run {} d r).report with
  | error e => simp [hb, Except.map] at hpaths
  | ok b =>
    have hpath : b.fileList.map FileReport.path = ["/p/x/a.xml", "/p/c.xml", "/p/y/b.xml"] := by
      simpa [hb, Except.map] using hpaths
    have hne : b.fileList ≠ [] := fun h => by simp [h] at hpath
    obtain ⟨-, -, -, -, -, hsum, hpassed⟩ := component_totals scanDisk parseDocument none false hb hne
    exact ⟨b, rfl, hpath, hsum, hpassed⟩

end Lint

end MoquiLint
