import MoquiLint.Proofs.ComponentShares

/-!
# Runs on the same candidates

The report of a run is put together from the reports on its candidates, and so are the shares of the components.
Where two runs have the same candidates, what is true of each pair of reports can thus be carried over to the
batches.
-/
namespace MoquiLint

/-! ### Shares -/

namespace Component

section
variable {cs : List Candidate} {report : Candidate → FileReport}

/-- The candidates that a component owns, a later one of the same path in place of an earlier one. -/
def candidates (cs : List Candidate) (k : Component) : List Candidate :=
  k.files.filterMap fun path => cs.reverse.find? fun c => c.path == path

theorem mem_of_mem_candidates {k : Component} {c : Candidate} (h : c ∈ candidates cs k) : c ∈ cs := by
  obtain ⟨path, -, hfind⟩ := List.mem_filterMap.mp h
  exact List.mem_reverse.mp (List.mem_of_find?_eq_some hfind)

theorem reports_map (hpath : ∀ c, (report c).path = c.path) (k : Component) :
    k.reports (cs.map report) = (candidates cs k).map report := by
  have hon : ∀ path, reportOn? (cs.map report) path =
      (cs.reverse.find? fun c => c.path == path).map report := by
    intro path
    rw [reportOn?, ← List.map_reverse, List.find?_map]
    simp only [Function.comp_def, hpath]
  rw [reports, candidates, List.map_filterMap]
  exact List.filterMap_congr fun path _ => hon path

def owning (cs : List Candidate) (ks : List Component) : List Component :=
  (ks.filter fun k => !(candidates cs k).isEmpty).mergeSort fun a b => Str.le a.name b.name

/-- Which components have a share does not depend on what is reported on the candidates. -/
theorem summarize_map (hpath : ∀ c, (report c).path = c.path) (ks : List Component) :
    summarize ks (cs.map report) = (owning cs ks).map (share (cs.map report)) := by
  have hshares : ks.filterMap (summary? (cs.map report)) =
      (ks.filter fun k => !(candidates cs k).isEmpty).map (share (cs.map report)) := by
    rw [← List.filterMap_eq_map (f := share (cs.map report)), List.filterMap_filter]
    refine List.filterMap_congr fun k _ => ?_
    cases hc : (candidates cs k).isEmpty with
    | true => simp [summary?, reports_map hpath, hc]
    | false =>
      have hne : k.reports (cs.map report) ≠ [] := by
        rw [reports_map hpath]
        simpa using hc
      simp [summary?_eq_share hne]
  rw [summarize, hshares, owning]
  exact (List.map_mergeSort (f := share (cs.map report)) fun a _ b _ => rfl).symm

end

end Component

namespace Lint

/-! ### Batches -/

/-- The candidates of a run and the configuration they are judged under. -/
structure Collects (p : Parts) (d : Disk) (r : Request) (cfg : Config) (cs : List Candidate) : Prop where
  loaded : Config.load d r.project = .ok cfg
  collected : (collect p d (r.dialectIn cfg) cfg [] r.paths).1 = .ok cs

def Service.reportOn (s : Service) (d : Disk) (r : Request) (cfg : Config) (c : Candidate) : FileReport :=
  (judge s.parts d cfg.skipped (s.lookedUp d r.project cfg) c).report

def Service.batch (s : Service) (d : Disk) (r : Request) (cfg : Config) : List Candidate → BatchReport
  | [] => { BatchReport.ofFiles none with dialect := r.dialectIn cfg }
  | c :: cs =>
    let reports := (c :: cs).map (s.reportOn d r cfg)
    { BatchReport.ofFiles (some reports) with
      dialect := r.dialectIn cfg
      components := (shares s.parts (run s d r).disk r.project reports).1 }

section
variable {s : Service} {d d' : Disk} {r : Request} {cfg cfg' : Config} {cs : List Candidate} {b : BatchReport}

theorem path_reportOn (c : Candidate) : (s.reportOn d r cfg c).path = c.path := path_judge _ _ _ _ c

theorem paths_reports (cs : List Candidate) :
    (cs.map (s.reportOn d r cfg)).map FileReport.path = cs.map Candidate.path := by
  rw [List.map_map]
  exact List.map_congr_left fun c _ => path_reportOn c

theorem fileList_batch : (s.batch d r cfg cs).fileList = cs.map (s.reportOn d r cfg) := by
  cases cs <;> rfl

theorem passed_batch : (s.batch d r cfg cs).passed = (BatchReport.ofFiles (some (cs.map (s.reportOn d r cfg)))).passed := by
  cases cs <;> rfl

theorem components_batch : (s.batch d r cfg cs).components =
    match s.parts.detect (run s d r).disk r.project (cs.map Candidate.path) with
    | .ok ks => (Component.owning cs ks).map (Component.share (cs.map (s.reportOn d r cfg)))
    | .error _ => [] := by
  cases cs with
  | nil =>
    have hnone : ∀ ks, Component.owning [] ks = [] := by
      intro ks
      have hfilter : (ks.filter fun k => !(Component.candidates [] k).isEmpty) = [] :=
        List.filter_eq_nil_iff.mpr fun k _ => by simp [Component.candidates]
      rw [Component.owning, hfilter, List.mergeSort_nil]
    simp only [hnone, List.map_nil]
    split <;> rfl
  | cons c cs =>
    simp only [Service.batch, shares, paths_reports]
    cases s.parts.detect (run s d r).disk r.project ((c :: cs).map Candidate.path) with
    | error e => rfl
    | ok ks => exact Component.summarize_map path_reportOn ks

theorem report_conclude (js : List Judged) (told : List Event) (dialect : Dialect) (project : String) :
    (conclude s d project dialect cfg cs js told).report =
      .ok { BatchReport.ofFiles (some (js.map (·.report))) with
        dialect := dialect
        components :=
          (shares s.parts (conclude s d project dialect cfg cs js told).disk project (js.map (·.report))).1 } := rfl

theorem Collects.run_eq (h : Collects s.parts d r cfg cs) (hne : cs ≠ []) (hc : s.canceled = false) :
    ∃ events, run s d r = Outcome.after events (lintAll s d r.project (r.dialectIn cfg) cfg cs) := by
  obtain ⟨hcfg, hcs⟩ := h
  obtain ⟨c, cs, rfl⟩ := List.exists_cons_of_ne_nil hne
  unfold run prepare
  rcases hcol : collect s.parts d (r.dialectIn cfg) cfg [] r.paths with ⟨collected, events⟩
  rw [hcol] at hcs
  obtain rfl : collected = .ok (c :: cs) := hcs
  simp only [hcfg, hcol, hc]
  exact ⟨events, rfl⟩

theorem Collects.run_nil (h : Collects s.parts d r cfg []) :
    (run s d r).report = .ok (s.batch d r cfg []) ∧ (run s d r).disk = d := by
  obtain ⟨hcfg, hcs⟩ := h
  unfold run prepare
  rcases hcol : collect s.parts d (r.dialectIn cfg) cfg [] r.paths with ⟨collected, events⟩
  rw [hcol] at hcs
  obtain rfl : collected = .ok [] := hcs
  simp only [hcfg, hcol]
  exact ⟨rfl, trivial⟩

theorem Collects.report (h : Collects s.parts d r cfg cs) (hc : s.canceled = false) :
    (run s d r).report = .ok (s.batch d r cfg cs) := by
  cases cs with
  | nil => exact h.run_nil.1
  | cons c cs =>
    obtain ⟨events, hrun⟩ := h.run_eq (List.cons_ne_nil c cs) hc
    have hreports : ((c :: cs).map (judge s.parts d cfg.skipped (s.lookedUp d r.project cfg))).map (·.report) =
        (c :: cs).map (s.reportOn d r cfg) := by
      rw [List.map_map]
      rfl
    rw [Service.batch, hrun, Outcome.after, lintAll, report_conclude, hreports]

theorem exists_collects (hc : s.canceled = false) (h : (run s d r).report = .ok b) :
    ∃ cfg cs, Collects s.parts d r cfg cs ∧ b = s.batch d r cfg cs := by
  obtain ⟨cfg, cs, hcollects⟩ : ∃ cfg cs, Collects s.parts d r cfg cs := by
    unfold run prepare at h
    cases hcfg : Config.load d r.project with
    | error f =>
      simp only [hcfg] at h
      cases h
    | ok cfg =>
      rcases hcol : collect s.parts d (r.dialectIn cfg) cfg [] r.paths with ⟨f | cs, events⟩
      · simp only [hcfg, hcol] at h
        cases h
      · exact ⟨cfg, cs, hcfg, by rw [hcol]⟩
  rw [hcollects.report hc] at h
  exact ⟨cfg, cs, hcollects, (Except.ok.inj h).symm⟩

theorem disk_run (h : s.cache = none) : (run s d r).disk = d := by
  obtain ⟨report, -, hrun⟩ | ⟨cfg, cs, -, -, hrun⟩ := run_cases s.parts s.canceled d r
  · exact (hrun s.cache).2
  · refine (hrun s.cache).2.trans ?_
    rw [lintAll_disk]
    simp only [h]

/-! ### Trusted caches -/

/-- What a run takes from its cache is what it would find: it has no cache, or the stored one was left by earlier
runs and no two of the contents and settings that were digested have the same digest. -/
def IsTrusted (s : Service) (d : Disk) (r : Request) : Prop :=
  s.cache ≠ none → ∃ bs, Reached s.parts r.project d bs ∧
    Set.InjOn Digest.Sha256.hash {b | b ∈ bs ++ digested s.parts d r}

/-- A trusted cache makes no difference to what is found. -/
theorem gist_reportOn (ht : IsTrusted s d r) (h : Collects s.parts d r cfg cs) {c : Candidate} (hc : c ∈ cs) :
    (s.reportOn d r cfg c).gist = (judge s.parts d cfg.skipped none c).report.gist := by
  unfold Service.reportOn Service.lookedUp
  cases hs : s.cache with
  | none => rfl
  | some version =>
    obtain ⟨bs, hreached, hinj⟩ := ht (by simp [hs])
    have hstored : StoresSound s.parts (bs ++ digested s.parts d r) d r.project := fun k hl =>
      (hreached.storesSound k hl).mono (List.subset_append_left _ _)
    obtain ⟨henc, hdata⟩ := mem_digested h.loaded h.collected
    obtain ⟨hsound, hlabel, -⟩ := openCache_sound hstored version cfg
    have hlabelled : IsLabelled (bs ++ digested s.parts d r) cfg (openCache d r.project version cfg).1 :=
      ⟨Config.hasKnownRules_of_load h.loaded, List.mem_append_right bs henc, hlabel⟩
    exact gist_judge hsound hlabelled hinj fun data hd => List.mem_append_right bs (hdata c hc data hd)

theorem judge_of_read {p : Parts} {skip : List String} {k : Option ResultCache} {c : Candidate}
    (h : d'.read c.path = d.read c.path) : judge p d' skip k c = judge p d skip k c := by
  unfold judge
  rw [h]

/-! ### Unchanged input -/

/-- On both disks a run in the given dialect comes to the same candidates, finds the same contents in them and, when
it is over, the same components around them. -/
structure SameInput (s : Service) (r : Request) (dialect : Dialect) (cfg : Config) (d d' : Disk) : Prop where
  candidates : (collect s.parts d' dialect cfg [] r.paths).1 = (collect s.parts d dialect cfg [] r.paths).1
  contents : ∀ cs, (collect s.parts d dialect cfg [] r.paths).1 = .ok cs →
    ∀ c ∈ cs, d'.read c.path = d.read c.path
  components : ∀ cs, (collect s.parts d dialect cfg [] r.paths).1 = .ok cs →
    s.parts.detect (run s d' r).disk r.project (cs.map Candidate.path) =
      s.parts.detect (run s d r).disk r.project (cs.map Candidate.path)

theorem sameInput_of_collected {dialect : Dialect} (h : (collect s.parts d dialect cfg [] r.paths).1 = .ok cs)
    (h' : (collect s.parts d' dialect cfg [] r.paths).1 = .ok cs) (hread : ∀ c ∈ cs, d'.read c.path = d.read c.path)
    (hdetect : s.parts.detect (run s d' r).disk r.project (cs.map Candidate.path) =
      s.parts.detect (run s d r).disk r.project (cs.map Candidate.path)) : SameInput s r dialect cfg d d' := by
  have hone : ∀ cs', (collect s.parts d dialect cfg [] r.paths).1 = .ok cs' → cs = cs' := by
    intro cs' hcs'
    exact Except.ok.inj (h.symm.trans hcs')
  refine ⟨h'.trans h.symm, ?_, ?_⟩
  · intro cs' hcs'
    obtain rfl := hone cs' hcs'
    exact hread
  · intro cs' hcs'
    obtain rfl := hone cs' hcs'
    exact hdetect

end

end Lint

end MoquiLint
