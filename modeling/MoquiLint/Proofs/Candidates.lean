import MoquiLint.Proofs.CacheTransparency
import MoquiLint.Proofs.ScanSelection

/-!
# What a run judges

Every report of a run without a cache is the judgement of one candidate, and every candidate is a path of
the request or was selected by the scan of one.
-/
namespace MoquiLint.Lint

open Scan (place)

/-- A path of the request that is no folder, to be judged as it was asked for. -/
def IsGiven (d : Disk) (paths : List String) (dialect : Dialect) (c : Candidate) : Prop :=
  ∃ path ∈ paths, d.isFolder (d.absolute path) = false ∧ c = ⟨d.absolute path, dialect⟩

/-- A file that a scan of a path of the request takes for a definition. -/
def IsScanned (d : Disk) (paths : List String) (dialect : Dialect) (c : Candidate) : Prop :=
  ∃ path ∈ paths, ∃ names data, c.path = place (d.absolute path) names ∧ d.read c.path = .ok data ∧
    Sniff.classify data dialect = some c.dialect

theorem mem_addNew {known new : List Candidate} {c : Candidate} (h : c ∈ addNew known new) :
    c ∈ known ∨ c ∈ new := by
  unfold addNew at h
  induction new generalizing known with
  | nil => exact .inl h
  | cons n new ih =>
    rw [List.foldl_cons] at h
    rcases ih h with hk | hn
    · split at hk
      · exact .inl hk
      · rcases List.mem_append.mp hk with hk | hk
        · exact .inl hk
        · exact .inr (List.mem_singleton.mp hk ▸ List.mem_cons_self)
    · exact .inr (List.mem_cons_of_mem n hn)

theorem collect_cons (p : Parts) (d : Disk) (dialect : Dialect) (cfg : Config) (known : List Candidate)
    (path : String) (paths : List String) :
    collect p d dialect cfg known (path :: paths) =
      match candidatesOf p d dialect cfg path with
      | .error f => (.error f, [])
      | .ok (new, events) =>
        let rest := collect p d dialect cfg (addNew known new) paths
        (rest.1, events ++ rest.2) := (rfl)

theorem mem_collect {p : Parts} {d : Disk} {dialect : Dialect} {cfg : Config} {known cs : List Candidate}
    {paths : List String} (h : (collect p d dialect cfg known paths).1 = .ok cs) {c : Candidate} (hc : c ∈ cs) :
    c ∈ known ∨
      ∃ path ∈ paths, ∃ new events, candidatesOf p d dialect cfg path = .ok (new, events) ∧ c ∈ new := by
  induction paths generalizing known with
  | nil =>
    obtain rfl := Except.ok.inj h
    exact .inl hc
  | cons path paths ih =>
    rw [collect_cons] at h
    split at h
    · cases h
    · rename_i new events hn
      rcases ih h with hk | ⟨path', hp, hnew⟩
      · rcases mem_addNew hk with hk | hm
        · exact .inl hk
        · exact .inr ⟨path, List.mem_cons_self, new, events, hn, hm⟩
      · exact .inr ⟨path', List.mem_cons_of_mem path hp, hnew⟩

theorem exists_stat_of_collect {p : Parts} {d : Disk} {dialect : Dialect} {cfg : Config} {known cs : List Candidate}
    {paths : List String} (h : (collect p d dialect cfg known paths).1 = .ok cs) :
    ∀ path ∈ paths, ∃ e, d.stat (d.absolute path) = .ok e := by
  induction paths generalizing known with
  | nil => nofun
  | cons path paths ih =>
    rw [collect_cons] at h
    split at h
    · cases h
    · rename_i hone
      refine List.forall_mem_cons.mpr ⟨?_, ih h⟩
      cases he : d.stat (d.absolute path) with
      | ok e => exact ⟨e, rfl⟩
      | error f => simp [candidatesOf, he] at hone

theorem scanned_of_mem_run {d : Disk} {root : String} {dialect : Dialect} {cfg : Config} {r : Scan.Result}
    (h : Scan.run d root dialect cfg = .ok r) {c : Candidate} (hc : c ∈ r.files) :
    ∃ names data, c.path = place (d.absolute root) names ∧ d.read c.path = .ok data ∧
      Sniff.classify data dialect = some c.dialect := by
  cases he : d.lstat (d.absolute root) with
  | error f => simp [Scan.run, he, bind, Except.bind] at h
  | ok e =>
    rw [Scan.run_eq_survey he] at h
    obtain ⟨names, hpath, ht⟩ := Scan.takes_of_mem_survey h hc
    obtain ⟨data, hr, hs⟩ := ht.sniffed
    exact ⟨names, data, hpath, hpath ▸ hr, hs⟩

theorem candidate_cases {d : Disk} {dialect : Dialect} {cfg : Config} {paths : List String}
    {cs : List Candidate} (h : (collect .standard d dialect cfg [] paths).1 = .ok cs) {c : Candidate}
    (hc : c ∈ cs) : IsGiven d paths dialect c ∨ IsScanned d paths dialect c := by
  rcases mem_collect h hc with hk | ⟨path, hp, new, events, hn, hm⟩
  · cases hk
  · unfold candidatesOf at hn
    simp only at hn
    split at hn
    · cases hn
    · split at hn
      · cases hn
      · rename_i r hs
        cases hn
        unfold Parts.standard scanDisk at hs
        simp only at hs
        split at hs
        · rename_i r' hr
          cases hs
          obtain ⟨names, data, hpath, hread, hsniff⟩ := scanned_of_mem_run hr hm
          rw [Disk.absolute_absolute] at hpath
          exact .inr ⟨path, hp, names, data, hpath, hread, hsniff⟩
        · cases hs
    · rename_i e hfile he
      cases hn
      have hfolder : d.isFolder (d.absolute path) = false := by
        rw [Disk.isFolder, he]
        cases e with
        | folder ms => exact absurd rfl (hfile ms)
        | file | link | socket => rfl
      exact .inl ⟨path, hp, hfolder, List.mem_singleton.mp hm⟩

/-- Without a cache a file is read, parsed and evaluated, as far as that goes. -/
theorem judge_cases (p : Parts) (d : Disk) (skip : List String) (c : Candidate) :
    (∃ f, d.read c.path = .error f ∧
        (judge p d skip none c).report =
          { path := c.path, dialect := c.dialect,
            parseError := Text.ofString ("reading file: " ++ f.message) }) ∨
      (∃ data e, d.read c.path = .ok data ∧ p.parse c.path data = .error e ∧
        (judge p d skip none c).report =
          { path := c.path, dialect := settle c.dialect (Sniff.detect data), parseError := e.detail }) ∨
      ∃ data root, d.read c.path = .ok data ∧ p.parse c.path data = .ok root ∧
        (judge p d skip none c).report =
          { path := c.path, dialect := settle c.dialect (Dialect.forRoot? root.tag),
            result := (Rules.evaluate (some root) c.dialect).without skip } := by
  unfold judge
  cases hr : d.read c.path with
  | error f => exact .inl ⟨f, rfl, rfl⟩
  | ok data =>
    cases hp : p.parse c.path data with
    | error e => exact .inr (.inl ⟨data, e, rfl, hp, by simp [hp]⟩)
    | ok root => exact .inr (.inr ⟨data, root, rfl, hp, by simp [hp]⟩)

theorem path_judge (p : Parts) (d : Disk) (skip : List String) (cache : Option ResultCache) (c : Candidate) :
    (judge p d skip cache c).report.path = c.path := by
  unfold judge
  split
  · rfl
  · simp only
    split
    · rfl
    · split <;> rfl

theorem mem_fileList_run {p : Parts} {canceled : Bool} {d : Disk} {r : Request} {b : BatchReport}
    (h : (run ⟨p, none, canceled⟩ d r).report = .ok b) {f : FileReport} (hf : f ∈ b.fileList) :
    ∃ cfg cs, Config.load d r.project = .ok cfg ∧
      (collect p d (r.dialectIn cfg) cfg [] r.paths).1 = .ok cs ∧
      ∃ c ∈ cs, f = (judge p d cfg.skipped none c).report := by
  obtain ⟨report, hempty, hrun⟩ | ⟨cfg, cs, hcfg, hcs, hrun⟩ := run_cases p canceled d r
  · rw [(hrun none).1] at h
    rw [hempty b h] at hf
    cases hf
  · rw [(hrun none).1] at h
    obtain ⟨components, hl⟩ := lintAll_report ⟨p, none, canceled⟩ d r.project (r.dialectIn cfg) cfg cs
    rw [hl] at h
    obtain rfl := Except.ok.inj h
    obtain ⟨j, hj, rfl⟩ := List.mem_map.mp hf
    obtain ⟨c, hc, rfl⟩ := List.mem_map.mp hj
    exact ⟨cfg, cs, hcfg, hcs, c, hc, rfl⟩

theorem run_file {p : Parts} {d : Disk} {r : Request} {cfg : Config} (hcfg : Config.load d r.project = .ok cfg)
    {path : String} (hp : r.paths = [path]) {e : Entry} (he : d.stat (d.absolute path) = .ok e)
    (hfile : e.isFolder = false) :
    ∃ b, (run ⟨p, none, false⟩ d r).report = .ok b ∧
      b.fileList = [(judge p d cfg.skipped none ⟨d.absolute path, r.dialectIn cfg⟩).report] := by
  have hc : (collect p d (r.dialectIn cfg) cfg [] r.paths) = (.ok [⟨d.absolute path, r.dialectIn cfg⟩], []) := by
    have hn : candidatesOf p d (r.dialectIn cfg) cfg path =
        .ok ([⟨d.absolute path, r.dialectIn cfg⟩], []) := by
      unfold candidatesOf
      simp only [he]
      cases e with
      | folder ms => cases hfile
      | file | link | socket => rfl
    rw [hp, collect_cons, hn]
    rfl
  unfold run prepare
  rw [hcfg]
  simp only [hc]
  obtain ⟨components, hl⟩ := lintAll_report ⟨p, none, false⟩ d r.project (r.dialectIn cfg) cfg
    [⟨d.absolute path, r.dialectIn cfg⟩]
  exact ⟨_, hl, rfl⟩

end MoquiLint.Lint
