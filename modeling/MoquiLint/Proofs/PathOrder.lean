import MoquiLint.Proofs.ComponentOrder
import MoquiLint.Proofs.Incremental
import MoquiLint.Proofs.Reruns

/-!
# Components and the order of the paths

A run on the same paths in another order comes to the same candidates, and leaves the same results in its cache. So
its components are the same but for where they are shown, and that too if no name stands for two places.
-/
namespace MoquiLint

/-! ### Stored results -/

/-- Values of different names are put in in either order. -/
theorem Keyed.insert_comm {α : Type} {name name' : String} (h : name ≠ name') (a a' : α) (l : List (String × α)) :
    insert name a (insert name' a' l) = insert name' a' (insert name a l) := by
  induction l with
  | nil => grind [insert]
  | cons x l ih =>
    -- each of the two stands before, at or after the first name of the list
    obtain ⟨n, b⟩ := x
    grind [insert]

/-! ### Shares -/

def ComponentSummary.placeless (c : ComponentSummary) : ComponentSummary := { c with path := "" }

namespace Component

variable {files files' : List FileReport}

theorem reportOn?_eq_some_iff (hn : (files.map FileReport.path).Nodup) {path : String} {f : FileReport} :
    reportOn? files path = some f ↔ f ∈ files ∧ f.path = path := by
  constructor
  · intro h
    rw [reportOn?] at h
    exact ⟨List.mem_reverse.mp (List.mem_of_find?_eq_some h), by simpa using List.find?_some h⟩
  · rintro ⟨hf, rfl⟩
    exact reportOn?_path hn hf

theorem share_perm (hn : (files.map FileReport.path).Nodup) (h : files.Perm files') (c : Component) :
    share files c = share files' c := by
  have hn' : (files'.map FileReport.path).Nodup := (h.map _).nodup_iff.mp hn
  have hreports : c.reports files = c.reports files' := by
    refine List.filterMap_congr fun path _ => Option.ext fun f => ?_
    rw [reportOn?_eq_some_iff hn, reportOn?_eq_some_iff hn', h.mem_iff]
  simp only [share, hreports]

theorem placeless_share (c : Component) : (share files c).placeless = share files c.placeless := rfl

end Component

namespace Lint

section
variable {k : ResultCache} {cs cs' : List Candidate} {report : Candidate → Judged}

theorem record_comm (k : ResultCache) (c c' : Candidate) {j j' : Judged} (h : j.report.path ≠ j'.report.path) :
    record (record k c j) c' j' = record (record k c' j') c j := by
  unfold record
  cases j.hash with
  | none => rfl
  | some hash =>
    cases j'.hash with
    | none => rfl
    | some hash' =>
      simp only
      by_cases hj : j.report.cached = true
      · simp [hj]
      · by_cases hj' : j'.report.cached = true
        · simp [hj']
        · simp [hj, hj', ResultCache.put, Keyed.insert_comm h]

theorem recordAll_map (report : Candidate → Judged) (k : ResultCache) (cs : List Candidate) :
    recordAll k cs (cs.map report) = cs.foldl (fun k c => record k c (report c)) k := by
  induction cs generalizing k with
  | nil => rfl
  | cons c cs ih => rw [List.map_cons, recordAll_cons, ih, List.foldl_cons]

/-- Results of different files are kept in whatever order they come. -/
theorem recordAll_perm (hpath : ∀ c, (report c).report.path = c.path) (hn : (cs.map Candidate.path).Nodup)
    (h : cs.Perm cs') (k : ResultCache) : recordAll k cs (cs.map report) = recordAll k cs' (cs'.map report) := by
  rw [recordAll_map, recordAll_map]
  refine h.foldl_eq' (fun c hc c' hc' k => ?_) k
  by_cases he : c = c'
  · rw [he]
  · refine record_comm k c c' ?_
    rw [hpath, hpath]
    exact fun hp => he (List.inj_on_of_nodup_map hn hc hc' hp)

end

/-! ### Candidates -/

section
variable {s : Service} {d : Disk} {r r' : Request} {cfg : Config} {cs cs' : List Candidate}

theorem mem_addNew_nil {new : List Candidate} (hsame : ∀ c ∈ new, ∀ k ∈ new, c.path = k.path → c = k) {c : Candidate} :
    c ∈ addNew [] new ↔ c ∈ new := by
  constructor
  · intro h
    exact (mem_addNew h).resolve_left List.not_mem_nil
  · intro h
    have hpath : c.path ∈ (addNew [] new).map Candidate.path :=
      mem_path_addNew.mpr (.inr (List.mem_map_of_mem h))
    obtain ⟨k, hk, he⟩ := List.mem_map.mp hpath
    have hk' : k ∈ new := (mem_addNew hk).resolve_left List.not_mem_nil
    rwa [hsame c h k hk' he.symm]

/-- If each path comes up as one candidate only, their order does not matter. -/
theorem addNew_perm {new new' : List Candidate} (hsame : ∀ c ∈ new, ∀ k ∈ new, c.path = k.path → c = k)
    (h : new.Perm new') : (addNew [] new).Perm (addNew [] new') := by
  have hnil : (([] : List Candidate).map Candidate.path).Nodup := List.nodup_nil
  have hnodup : ∀ cs, (addNew [] cs).Nodup := fun cs => (nodup_addNew hnil cs).of_map _
  have hsame' : ∀ c ∈ new', ∀ k ∈ new', c.path = k.path → c = k := fun c hc k hk =>
    hsame c (h.mem_iff.mpr hc) k (h.mem_iff.mpr hk)
  rw [List.perm_ext_iff_of_nodup (hnodup new) (hnodup new')]
  intro c
  rw [mem_addNew_nil hsame, mem_addNew_nil hsame', h.mem_iff]

/-- Each file that the paths lead to is taken up in one dialect, however often it comes up. -/
def AgreesOnDialects (d : Disk) (r : Request) : Prop :=
  ∀ cfg, Config.load d r.project = .ok cfg →
    ∀ c ∈ r.paths.flatMap (candidatesAt d (r.dialectIn cfg) cfg),
      ∀ k ∈ r.paths.flatMap (candidatesAt d (r.dialectIn cfg) cfg), c.path = k.path → c = k

end

/-! ### Runs -/

section
variable (parse : String → Bytes → Except ParseFault Markup.Node)
  (detect : Disk → String → List String → Except Text (List Component)) (cache : Option String)
  {d : Disk} {r : Request} {paths : List String} {cfg : Config} {cs cs' : List Candidate}

theorem Collects.nodup {p : Parts} (h : Collects p d r cfg cs) : (cs.map Candidate.path).Nodup := by
  have hnil : (([] : List Candidate).map Candidate.path).Nodup := List.nodup_nil
  exact nodup_collect hnil h.collected

/-- The same paths in another order come to the same candidates. -/
theorem Collects.perm (h : Collects ⟨scanDisk, parse, detect⟩ d r cfg cs) (hp : r.paths.Perm paths)
    (hsame : AgreesOnDialects d r) :
    ∃ cs', Collects ⟨scanDisk, parse, detect⟩ d { r with paths := paths } cfg cs' ∧ cs.Perm cs' := by
  have hstat := exists_stat_of_collect h.collected
  have hcs : cs = addNew [] (r.paths.flatMap (candidatesAt d (r.dialectIn cfg) cfg)) :=
    Except.ok.inj (h.collected.symm.trans (collect_eq (r.dialectIn cfg) cfg parse detect hstat []))
  refine ⟨_, ⟨h.loaded, collect_eq _ cfg parse detect (fun path hpath => hstat path (hp.mem_iff.mpr hpath)) []⟩, ?_⟩
  rw [hcs]
  exact addNew_perm (hsame cfg h.loaded) (hp.flatMap_right _)

/-- The same candidates in another order leave the disk as it would be left. -/
theorem disk_run_perm {s : Service} (hc : s.canceled = false) (h : Collects s.parts d r cfg cs)
    (h' : Collects s.parts d { r with paths := paths } cfg cs') (hp : cs.Perm cs') :
    (run s d { r with paths := paths }).disk = (run s d r).disk := by
  by_cases hne : cs = []
  · subst hne
    obtain rfl := hp.nil_eq
    rw [h.run_nil.2, h'.run_nil.2]
  · obtain ⟨events, hrun⟩ := h.run_eq hne hc
    obtain ⟨events', hrun'⟩ := h'.run_eq (fun he => hne (by rw [he] at hp; exact hp.eq_nil)) hc
    rw [hrun, hrun', Outcome.after, Outcome.after, lintAll_disk, lintAll_disk]
    cases s.cache with
    | none => rfl
    | some version =>
      simp only
      rw [recordAll_perm (fun c => path_judge _ _ _ _ c) h.nodup hp]

theorem components_batch_detect {s : Service} (hs : s.parts.detect = Parts.standard.detect)
    (hn : (cs.map Candidate.path).Nodup) :
    (s.batch d r cfg cs).components =
      (Component.detect (run s d r).disk r.project (cs.map Candidate.path)).map
        (Component.share (cs.map (s.reportOn d r cfg))) := by
  cases cs with
  | nil => simp [Service.batch, BatchReport.ofFiles, Component.detect_eq_gathered, Component.sortedSet]
  | cons c cs =>
    have hpaths : ((c :: cs).map (s.reportOn d r cfg)).map FileReport.path = (c :: cs).map Candidate.path :=
      paths_reports _
    have hdivides := Component.divides_detect (run s d r).disk r.project ((c :: cs).map Candidate.path)
    rw [← hpaths] at hdivides hn ⊢
    rw [Service.batch, shares, hs]
    exact Component.summarize_eq hdivides hn

/-- In whatever order files are looked at, the same components are found, except that a component is shown where its
first file belongs; so nothing changes if and only if no name stands for two places. A run on paths in another order
shows the same for its components. -/
theorem components_by_order (d : Disk) :
    (∀ root files files', files.Perm files' →
        (Component.detect d root files').map Component.placeless =
          (Component.detect d root files).map Component.placeless) ∧
      (∀ root files, (∀ files', files.Perm files' → Component.detect d root files' = Component.detect d root files) ↔
        Component.AreTogether d (d.absolute root) files) ∧
      ∀ (r : Request) (paths : List String) (b : BatchReport), r.paths.Perm paths → AgreesOnDialects d r →
        let s : Service := ⟨⟨scanDisk, parse, Parts.standard.detect⟩, cache, false⟩
        let after := (run s d r).disk
        (run s d r).report = .ok b →
          ∃ b', (run s d { r with paths := paths }).report = .ok b' ∧
            b'.components.map ComponentSummary.placeless = b.components.map ComponentSummary.placeless ∧
            (Component.AreTogether after (after.absolute r.project) (b.fileList.map FileReport.path) →
              b'.components = b.components) := by
  refine ⟨fun root files files' h => Component.detect_perm_placeless d root h, Component.detect_perm_iff d, ?_⟩
  intro r paths b hp hsame s after hb
  obtain ⟨cfg, cs, h, rfl⟩ := exists_collects rfl hb
  obtain ⟨cs', h', hperm⟩ := h.perm parse _ hp hsame
  have hdisk : (run s d { r with paths := paths }).disk = after := disk_run_perm rfl h h' hperm
  have hn : ((cs.map (s.reportOn d r cfg)).map FileReport.path).Nodup := by
    rw [paths_reports]
    exact h.nodup
  have hshare : Component.share (cs'.map (s.reportOn d r cfg)) = Component.share (cs.map (s.reportOn d r cfg)) :=
    funext fun c => (Component.share_perm hn (hperm.map _) c).symm
  have hbatch : (s.batch d r cfg cs).components = (Component.detect after r.project (cs.map Candidate.path)).map
      (Component.share (cs.map (s.reportOn d r cfg))) := components_batch_detect rfl h.nodup
  have hbatch' : (s.batch d { r with paths := paths } cfg cs').components =
      (Component.detect after r.project (cs'.map Candidate.path)).map
        (Component.share (cs.map (s.reportOn d r cfg))) := by
    rw [← hshare, ← hdisk]
    exact components_batch_detect rfl h'.nodup
  refine ⟨_, h'.report rfl, ?_, fun htogether => ?_⟩
  · have hplaceless := Component.detect_perm_placeless after r.project (hperm.map Candidate.path)
    have hshares : ∀ ks : List Component,
        (ks.map (Component.share (cs.map (s.reportOn d r cfg)))).map ComponentSummary.placeless =
          (ks.map Component.placeless).map (Component.share (cs.map (s.reportOn d r cfg))) := fun ks => by
      rw [List.map_map, List.map_map]
      exact List.map_congr_left fun c _ => Component.placeless_share c
    rw [hbatch, hbatch', hshares, hshares, hplaceless]
  · rw [fileList_batch, paths_reports] at htogether
    rw [hbatch, hbatch', (Component.detect_perm_iff after r.project _).mpr htogether _ (hperm.map Candidate.path)]

end

/-- Folders of different names are shown alike from either side. -/
theorem components_by_order_two :
    let d : Disk := { root := .folder [("p", .folder [
      ("x", .folder [("component.xml", .file (utf8 "<component name='shop'/>")),
        ("entity", .folder [("a.xml", .file (utf8 "<entities/>"))])]),
      ("y", .folder [("component.xml", .file (utf8 "<component name='stock'/>")),
        ("service", .folder [("b.xml", .file (utf8 "<services/>"))])])])] }
    let r : Request := { project := "/p", paths := ["/p/x/entity/a.xml", "/p/y/service/b.xml"], dialect := .auto }
    let paths := ["/p/y/service/b.xml", "/p/x/entity/a.xml"]
    r.paths.Perm paths ∧ AgreesOnDialects d r ∧ Component.AreTogether d "/p" r.paths ∧
      ∃ b b', (run {} d r).report = .ok b ∧ (run {} d { r with paths := paths }).report = .ok b' ∧
        b.fileList.map FileReport.path = r.paths ∧ b'.components = b.components := by
  intro d r paths
  have hperm : r.paths.Perm paths := List.Perm.swap _ _ _
  have hcfg : Config.load d r.project = .ok .standard := by decide +kernel
  have hsame : AgreesOnDialects d r := by
    intro cfg hload
    obtain rfl : Config.standard = cfg := Except.ok.inj (hcfg.symm.trans hload)
    decide +kernel
  have htogether : Component.AreTogether d "/p" r.paths := by
    unfold Component.AreTogether
    decide +kernel
  have hpaths : (run {} d r).report.map (fun b => b.fileList.map FileReport.path) = .ok r.paths := by decide +kernel
  cases hb : (run {} d r).report with
  | error f => simp [hb, Except.map] at hpaths
  | ok b =>
    have hfiles : b.fileList.map FileReport.path = r.paths := by simpa [hb, Except.map] using hpaths
    have hdisk : (run {} d r).disk = d := disk_run rfl
    have htop : d.absolute r.project = "/p" := by decide +kernel
    have hafter : Component.AreTogether (run {} d r).disk ((run {} d r).disk.absolute r.project)
        (b.fileList.map FileReport.path) := by
      rw [hfiles, hdisk, htop]
      exact htogether
    obtain ⟨b', hb', -, hequal⟩ := (components_by_order parseDocument none d).2.2 r paths b hperm hsame hb
    exact ⟨hperm, hsame, htogether, b, b', rfl, hb', hfiles, hequal hafter⟩

/-- Two folders that declare the same name are shown as the one whose file comes first. -/
theorem components_by_order_fails :
    let descriptor := Entry.file (utf8 "<component name='shop'/>")
    let d : Disk := { root := .folder [("p", .folder [
      ("x", .folder [("component.xml", descriptor), ("entity", .folder [("a.xml", .file (utf8 "<entities/>"))])]),
      ("y", .folder [("component.xml", descriptor), ("service", .folder [("b.xml", .file (utf8 "<services/>"))])])])] }
    let files := ["/p/x/entity/a.xml", "/p/y/service/b.xml"]
    let files' := ["/p/y/service/b.xml", "/p/x/entity/a.xml"]
    files.Perm files' ∧ (Component.detect d "/p" files).map (fun c => (c.name, c.path)) = [("shop", "x")] ∧
      (Component.detect d "/p" files').map (fun c => (c.name, c.path)) = [("shop", "y")] := by
  intro descriptor d files files'
  have hone : Component.sortedSet ["shop", "shop"] = ["shop"] := by
    rw [Component.sortedSet, List.mergeSort_of_pairwise (by decide)]
    rfl
  have howner : Component.owner d "/p" "/p/x/entity/a.xml" = ("shop", "/p/x") := by decide +kernel
  have howner' : Component.owner d "/p" "/p/y/service/b.xml" = ("shop", "/p/y") := by decide +kernel
  have htop : d.absolute "/p" = "/p" := by decide +kernel
  have hnames : (files.map fun f => (Component.owner d "/p" f).1) = ["shop", "shop"] := by
    simp only [files, List.map_cons, List.map_nil, howner, howner']
  have hnames' : (files'.map fun f => (Component.owner d "/p" f).1) = ["shop", "shop"] := by
    simp only [files', List.map_cons, List.map_nil, howner, howner']
  have hplace : Component.shownAt "/p" "/p/x" = "x" ∧ Component.shownAt "/p" "/p/y" = "y" := by decide +kernel
  refine ⟨List.Perm.swap _ _ _, ?_, ?_⟩
  · rw [Component.detect_eq_gathered, htop, hnames, hone, List.map_singleton, List.map_singleton,
      Component.path_gathered_cons (congrArg Prod.fst howner), howner, Component.name_gathered, hplace.1]
  · rw [Component.detect_eq_gathered, htop, hnames', hone, List.map_singleton, List.map_singleton,
      Component.path_gathered_cons (congrArg Prod.fst howner'), howner', Component.name_gathered, hplace.2]

end Lint

end MoquiLint
