import Mathlib.Data.Set.Function
import MoquiLint.Lint.Basic
import MoquiLint.Proofs.CacheFile
import MoquiLint.Proofs.LoadedConfig

/-!
# The cache is transparent

Whatever runs, edits and clearings a project went through, a run with the cache reports on every file
what a run without it reports. Each entry is kept with the contents and settings it was computed from,
as far as their digests tell.
-/
namespace MoquiLint

/-- A report without its dialect and without the mark of the cache. -/
def FileReport.gist (r : FileReport) : FileReport := { r with dialect := .unset, cached := false }

/-- What a batch says about its files, in total and in the end. -/
def BatchReport.gist (b : BatchReport) : Option (List FileReport) × Totals × Bool × Option Verdict :=
  (b.files.map (·.map FileReport.gist), b.totals, b.passed, b.verdict)

theorem BatchReport.totals_map_gist (fs : List FileReport) :
    (ofFiles (some (fs.map FileReport.gist))).totals = (ofFiles (some fs)).totals := by
  simp only [ofFiles, Option.getD_some, List.foldl_map]
  rfl

theorem BatchReport.passed_map_gist (fs : List FileReport) :
    (ofFiles (some (fs.map FileReport.gist))).passed = (ofFiles (some fs)).passed := by
  have hp : ∀ f : FileReport, f.gist.passed = f.passed := fun _ => rfl
  simp [ofFiles, Function.comp_def, hp]

theorem BatchReport.gist_ofFiles {fs gs : List FileReport}
    (h : fs.map FileReport.gist = gs.map FileReport.gist) (dialect : Dialect)
    (components components' : List ComponentSummary) :
    gist { ofFiles (some fs) with dialect := dialect, components := components } =
      gist { ofFiles (some gs) with dialect := dialect, components := components' } := by
  have ht : (ofFiles (some fs)).totals = (ofFiles (some gs)).totals := by
    rw [← totals_map_gist, h, totals_map_gist]
  have hp : (ofFiles (some fs)).passed = (ofFiles (some gs)).passed := by
    rw [← passed_map_gist, h, passed_map_gist]
  have hf : ∀ fs : List FileReport, (ofFiles (some fs)).files = some fs := fun _ => rfl
  simp [gist, verdict, ht, hp, hf, h]

namespace Lint
open ResultCache (load)

/-- The bytes that a run with a cache takes digests of: the settings, and the contents of its files. -/
def digested (p : Parts) (d : Disk) (r : Request) : List Bytes :=
  match Config.load d r.project with
  | .error _ => []
  | .ok cfg =>
    Config.encoding cfg.dialect cfg.skipRules ::
      match (collect p d (r.dialectIn cfg) cfg [] r.paths).1 with
      | .error _ => []
      | .ok cs => cs.filterMap fun c => (d.read c.path).toOption

/-- What becomes of a project without a stored cache by runs with a cache, by edits of anything but the
stored cache, and by clearing it; with the bytes that were digested. -/
inductive Reached (p : Parts) (project : String) : Disk → List Bytes → Prop
  | start {d : Disk} (h : load d project = .ok none) : Reached p project d []
  | run {d : Disk} {bs : List Bytes} (h : Reached p project d bs) (r : Request) (hr : r.project = project)
      (version : String) (canceled : Bool) :
      Reached p project (run ⟨p, some version, canceled⟩ d r).disk (bs ++ digested p d r)
  | edit {d d' : Disk} {bs : List Bytes} (h : Reached p project d bs)
      (hd : load d' project = load d project) : Reached p project d' bs
  | clear {d d' : Disk} {bs : List Bytes} (h : Reached p project d bs)
      (hd : ResultCache.clear d project = .ok d') : Reached p project d' bs

/-! ### Entries -/

/-- An entry is what evaluating a digested content under digested settings gives. -/
def IsBacked (p : Parts) (bs : List Bytes) (label path : String) (e : CachedEntry) : Prop :=
  ∃ (cfg : Config) (data : Bytes) (root : Markup.Node), cfg.HasKnownRules ∧
    Config.encoding cfg.dialect cfg.skipRules ∈ bs ∧ Config.hash cfg.dialect cfg.skipRules = label ∧
    data ∈ bs ∧ contentHash data = e.contentHash ∧ p.parse path data = .ok root ∧
    e.result = (Rules.evaluate (some root) e.dialect).without cfg.skipped

structure IsSound (p : Parts) (bs : List Bytes) (k : ResultCache) : Prop where
  sorted : k.IsSorted
  backed : ∀ path e, (k.entries.getD []).lookup path = some e → IsBacked p bs k.configHash path e

theorem IsBacked.mono {p : Parts} {bs bs' : List Bytes} {label path : String} {e : CachedEntry}
    (h : IsBacked p bs label path e) (hb : bs ⊆ bs') : IsBacked p bs' label path e := by
  obtain ⟨cfg, data, root, hk, hc, hl, hd, hr⟩ := h
  exact ⟨cfg, data, root, hk, hb hc, hl, hb hd, hr⟩

theorem IsSound.mono {p : Parts} {bs bs' : List Bytes} {k : ResultCache} (h : IsSound p bs k)
    (hb : bs ⊆ bs') : IsSound p bs' k :=
  ⟨h.sorted, fun path e he => (h.backed path e he).mono hb⟩

theorem IsSound.put {p : Parts} {bs : List Bytes} {k : ResultCache} (h : IsSound p bs k)
    {path hash : String} {d : Dialect} {r : Findings} (he : IsBacked p bs k.configHash path ⟨hash, d, r⟩) :
    IsSound p bs (k.put path hash d r) := by
  refine ⟨ResultCache.isSorted_put h.sorted path hash d r, ?_⟩
  intro path' e hl
  by_cases hp : path' = path
  · subst hp
    obtain rfl : ⟨hash, d, r⟩ = e := by simpa [ResultCache.put] using hl
    exact he
  · refine h.backed path' e ?_
    simpa [ResultCache.put, Keyed.lookup_insert_of_ne hp] using hl

/-! ### Runs -/

/-- What is judged anew and may be kept is the evaluation of the file as it is. -/
theorem judge_fresh {p : Parts} {d : Disk} {skip : List String} {k : Option ResultCache} {c : Candidate}
    {hash : String} (hh : (judge p d skip k c).hash = some hash)
    (hn : (judge p d skip k c).report.cached = false) :
    ∃ data root, d.read c.path = .ok data ∧ contentHash data = hash ∧ p.parse c.path data = .ok root ∧
      (judge p d skip k c).report.path = c.path ∧
      (judge p d skip k c).report.result = (Rules.evaluate (some root) c.dialect).without skip := by
  unfold judge at hh hn ⊢
  cases hr : d.read c.path with
  | error f =>
    simp only [hr] at hh
    cases hh
  | ok data =>
    simp only [hr] at hh hn ⊢
    cases hl : k.bind fun k => k.lookup c.path (contentHash data) c.dialect with
    | some r =>
      simp only [hl] at hn
      cases hn
    | none =>
      simp only [hl] at hh ⊢
      cases hp : p.parse c.path data with
      | error e =>
        simp only [hp] at hh
        cases hh
      | ok root =>
        simp only [hp] at hh ⊢
        exact ⟨data, root, rfl, Option.some.inj hh, hp, trivial, rfl⟩

/-- A cache is labelled with settings that were loaded and digested. -/
structure IsLabelled (bs : List Bytes) (cfg : Config) (k : ResultCache) : Prop where
  known : cfg.HasKnownRules
  digested : Config.encoding cfg.dialect cfg.skipRules ∈ bs
  label : k.configHash = Config.hash cfg.dialect cfg.skipRules

/-- A cached result that is found is the evaluation of the file as it is. -/
theorem IsSound.lookup {p : Parts} {bs : List Bytes} {k : ResultCache} (h : IsSound p bs k) {cfg : Config}
    (hc : IsLabelled bs cfg k) (hinj : Set.InjOn Digest.Sha256.hash {b | b ∈ bs}) {data : Bytes}
    (hd : data ∈ bs) {path : String} {dialect : Dialect} {r : Findings}
    (hr : k.lookup path (contentHash data) dialect = some r) :
    ∃ root, p.parse path data = .ok root ∧
      r = (Rules.evaluate (some root) dialect).without cfg.skipped := by
  unfold ResultCache.lookup at hr
  split at hr
  · rename_i e he
    split at hr
    · rename_i hm
      obtain ⟨hm, rfl⟩ := hm
      obtain rfl := Option.some.inj hr
      obtain ⟨cfg', data', root, hk', hc', hl', hd', hh, hp, hv⟩ := h.backed path e he
      -- equal digests: the entry is about this content and about these settings
      obtain rfl : data' = data := hinj hd' hd (hh.trans hm)
      have henc := hinj hc' hc.digested (hl'.trans hc.label)
      have hs : cfg'.skipped = cfg.skipped := by
        rw [Config.skipped, Config.skipRules_eq_of_encoding_eq hk' hc.known henc, Config.skipped]
      exact ⟨root, hp, hs ▸ hv⟩
    · cases hr
  · cases hr

/-- A file is judged with the cache as it is without. -/
theorem gist_judge {p : Parts} {bs : List Bytes} {k : ResultCache} (h : IsSound p bs k) {cfg : Config}
    (hc : IsLabelled bs cfg k) (hinj : Set.InjOn Digest.Sha256.hash {b | b ∈ bs}) {d : Disk} {c : Candidate}
    (hd : ∀ data, d.read c.path = .ok data → data ∈ bs) :
    (judge p d cfg.skipped (some k) c).report.gist = (judge p d cfg.skipped none c).report.gist := by
  unfold judge
  cases hr : d.read c.path with
  | error f => rfl
  | ok data =>
    simp only [Option.bind_some, Option.bind_none]
    cases hf : k.lookup c.path (contentHash data) c.dialect with
    | none => rfl
    | some r =>
      obtain ⟨root, hp, hv⟩ := h.lookup hc hinj (hd data hr) hf
      simp only [hp, hv]
      rfl

theorem IsSound.record {p : Parts} {bs : List Bytes} {k : ResultCache} (h : IsSound p bs k) {cfg : Config}
    (hc : IsLabelled bs cfg k) (used : Option ResultCache) {d : Disk} {c : Candidate}
    (hd : ∀ data, d.read c.path = .ok data → data ∈ bs) :
    IsSound p bs (Lint.record k c (judge p d cfg.skipped used c)) := by
  unfold Lint.record
  cases hh : (judge p d cfg.skipped used c).hash with
  | none => exact h
  | some hash =>
    simp only
    split
    · exact h
    · rename_i hn
      obtain ⟨data, root, hr, hhash, hp, hpath, hresult⟩ := judge_fresh hh (by simpa using hn)
      rw [hpath]
      exact h.put ⟨cfg, data, root, hc.known, hc.digested, hc.label.symm, hd data hr, hhash, hp, hresult⟩

theorem record_labels (k : ResultCache) (c : Candidate) (j : Judged) :
    (record k c j).configHash = k.configHash ∧ (record k c j).projectPath = k.projectPath := by
  unfold record
  split
  · split <;> exact ⟨rfl, rfl⟩
  · exact ⟨rfl, rfl⟩

theorem recordAll_cons (k : ResultCache) (c : Candidate) (cs : List Candidate) (j : Judged)
    (js : List Judged) : recordAll k (c :: cs) (j :: js) = recordAll (record k c j) cs js := rfl

theorem IsSound.recordAll {p : Parts} {bs : List Bytes} {k : ResultCache} (h : IsSound p bs k)
    {cfg : Config} (hc : IsLabelled bs cfg k) (used : Option ResultCache) {d : Disk} {cs : List Candidate}
    (hd : ∀ c ∈ cs, ∀ data, d.read c.path = .ok data → data ∈ bs) :
    IsSound p bs (Lint.recordAll k cs (cs.map (judge p d cfg.skipped used))) ∧
      (Lint.recordAll k cs (cs.map (judge p d cfg.skipped used))).projectPath = k.projectPath := by
  induction cs generalizing k with
  | nil => exact ⟨h, rfl⟩
  | cons c cs ih =>
    obtain ⟨hlabel, hproject⟩ := record_labels k c (judge p d cfg.skipped used c)
    have hr := h.record hc used (hd c (by simp))
    rw [List.map_cons, recordAll_cons, ← hproject]
    exact ih hr ⟨hc.known, hc.digested, hlabel.trans hc.label⟩ fun c' hc' => hd c' (by simp [hc'])

/-- The cache a run starts from is sound, and labelled for the run. -/
theorem openCache_sound {p : Parts} {bs : List Bytes} {d : Disk} {project : String}
    (h : ∀ k, load d project = .ok (some k) → IsSound p bs k) (version : String) (cfg : Config) :
    IsSound p bs (openCache d project version cfg).1 ∧
      (openCache d project version cfg).1.configHash = Config.hash cfg.dialect cfg.skipRules ∧
      (openCache d project version cfg).1.projectPath = project := by
  have hfresh : ∀ label, IsSound p bs ⟨project, label, version, none⟩ := fun label =>
    ⟨Keyed.sorted_nil, fun path e he => by cases he⟩
  unfold openCache
  cases hl : load d project with
  | error f => exact ⟨hfresh _, rfl, rfl⟩
  | ok k =>
    cases k with
    | none => exact ⟨hfresh _, rfl, rfl⟩
    | some k =>
      simp only
      split
      · exact ⟨hfresh _, rfl, rfl⟩
      · rename_i hv
        have hs := h k hl
        refine ⟨⟨hs.sorted, hs.backed⟩, ?_, rfl⟩
        simp only [ResultCache.isInvalidated, Bool.or_eq_true, bne_iff_ne, not_or, not_not] at hv
        exact hv.1

def StoresSound (p : Parts) (bs : List Bytes) (d : Disk) (project : String) : Prop :=
  ∀ k, load d project = .ok (some k) → IsSound p bs k

theorem StoresSound.close {p : Parts} {bs : List Bytes} {d : Disk} {k : ResultCache}
    (h : StoresSound p bs d k.projectPath) (hk : IsSound p bs k) :
    StoresSound p bs (closeCache d k).1 k.projectPath := by
  unfold closeCache
  cases hs : k.save d with
  | error f => exact h
  | ok d' =>
    intro k' hl
    rcases ResultCache.load_of_save hk.sorted hs with hl' | hl'
    · rw [hl'] at hl
      obtain rfl : k = k' := by simpa using hl
      exact hk
    · rw [hl'] at hl
      cases hl

/-- A run either judges files or ends before it comes to the cache. -/
theorem run_cases (p : Parts) (canceled : Bool) (d : Disk) (r : Request) :
    (∃ report, (∀ b, report = .ok b → b.fileList = []) ∧
      ∀ cache, (run ⟨p, cache, canceled⟩ d r).report = report ∧ (run ⟨p, cache, canceled⟩ d r).disk = d) ∨
    ∃ cfg cs, Config.load d r.project = .ok cfg ∧
      (collect p d (r.dialectIn cfg) cfg [] r.paths).1 = .ok cs ∧
      ∀ cache,
        (run ⟨p, cache, canceled⟩ d r).report =
          (lintAll ⟨p, cache, canceled⟩ d r.project (r.dialectIn cfg) cfg cs).report ∧
        (run ⟨p, cache, canceled⟩ d r).disk =
          (lintAll ⟨p, cache, canceled⟩ d r.project (r.dialectIn cfg) cfg cs).disk := by
  unfold run prepare
  cases hcfg : Config.load d r.project with
  | error f => exact .inl ⟨.error (.config f), by simp, fun cache => ⟨rfl, rfl⟩⟩
  | ok cfg =>
    simp only
    rcases hcs : collect p d (r.dialectIn cfg) cfg [] r.paths with ⟨f | ⟨_ | ⟨c, cs⟩⟩, events⟩
    · exact .inl ⟨.error f, by simp, fun cache => ⟨rfl, rfl⟩⟩
    · refine .inl ⟨_, ?_, fun cache => ⟨rfl, rfl⟩⟩
      intro b hb
      cases hb
      rfl
    · cases canceled with
      | true => exact .inl ⟨.error .canceled, by simp, fun cache => ⟨rfl, rfl⟩⟩
      | false => exact .inr ⟨cfg, c :: cs, rfl, by rw [hcs], fun cache => ⟨rfl, rfl⟩⟩

theorem mem_digested {p : Parts} {d : Disk} {r : Request} {cfg : Config} {cs : List Candidate}
    (hcfg : Config.load d r.project = .ok cfg)
    (hcs : (collect p d (r.dialectIn cfg) cfg [] r.paths).1 = .ok cs) :
    Config.encoding cfg.dialect cfg.skipRules ∈ digested p d r ∧
      ∀ c ∈ cs, ∀ data, d.read c.path = .ok data → data ∈ digested p d r := by
  unfold digested
  rw [hcfg]
  simp only
  rw [hcs]
  refine ⟨List.mem_cons_self, ?_⟩
  intro c hc data hd
  refine List.mem_cons_of_mem _ (List.mem_filterMap.mpr ⟨c, hc, ?_⟩)
  simp only [hd, Except.toOption]

theorem lintAll_disk (s : Service) (d : Disk) (project : String) (dialect : Dialect) (cfg : Config)
    (cs : List Candidate) :
    (lintAll s d project dialect cfg cs).disk = match s.cache with
      | none => d
      | some version =>
        (closeCache d (recordAll (openCache d project version cfg).1 cs
          (cs.map (judge s.parts d cfg.skipped (some (openCache d project version cfg).1))))).1 := by
  unfold lintAll conclude Service.lookedUp
  cases s.cache with
  | none => simp only [Option.map_none]
  | some version => simp only [Option.map_some]

theorem Reached.storesSound {p : Parts} {project : String} {d : Disk} {bs : List Bytes}
    (h : Reached p project d bs) : StoresSound p bs d project := by
  induction h with
  | start h =>
    intro k hl
    rw [h] at hl
    cases hl
  | edit _ hd ih =>
    intro k hl
    exact ih k (hd ▸ hl)
  | clear _ hd ih =>
    intro k hl
    rcases ResultCache.load_of_clear hd with hn | he
    · rw [hn] at hl
      cases hl
    · exact ih k (he ▸ hl)
  | @run d bs _ r hr version canceled ih =>
    -- entries from earlier runs stay backed, as more bytes have been digested since
    have hmore : StoresSound p (bs ++ digested p d r) d project := fun k hl =>
      (ih k hl).mono (List.subset_append_left _ _)
    obtain ⟨report, -, hrun⟩ | ⟨cfg, cs, hcfg, hcs, hrun⟩ := run_cases p canceled d r
    · rw [(hrun (some version)).2]
      exact hmore
    · obtain ⟨henc, hdata⟩ := mem_digested hcfg hcs
      obtain ⟨hs, hlabel, hproject⟩ := openCache_sound hmore version cfg
      have hc : IsLabelled (bs ++ digested p d r) cfg (openCache d project version cfg).1 :=
        ⟨Config.hasKnownRules_of_load hcfg, List.mem_append_right bs henc, hlabel⟩
      obtain ⟨hs', hproject'⟩ := hs.recordAll hc (some (openCache d project version cfg).1)
        fun c hc data hd => List.mem_append_right bs (hdata c hc data hd)
      rw [(hrun (some version)).2, lintAll_disk, hr]
      have hclose := StoresSound.close (hproject'.trans hproject ▸ hmore) hs'
      rw [hproject'.trans hproject] at hclose
      exact hclose

theorem lintAll_report (s : Service) (d : Disk) (project : String) (dialect : Dialect) (cfg : Config)
    (cs : List Candidate) :
    ∃ components, (lintAll s d project dialect cfg cs).report = .ok
      { BatchReport.ofFiles (some ((cs.map (judge s.parts d cfg.skipped
          (s.cache.map fun version => (openCache d project version cfg).1))).map (·.report))) with
        dialect := dialect, components := components } := by
  unfold lintAll conclude Service.lookedUp
  cases s.cache <;> exact ⟨_, rfl⟩

theorem judge_cached {p : Parts} {d : Disk} {skip : List String} {k : ResultCache} {c : Candidate}
    (h : (judge p d skip (some k) c).report.cached = true) :
    ∃ data r, d.read c.path = .ok data ∧ k.lookup c.path (contentHash data) c.dialect = some r ∧
      (judge p d skip (some k) c).report.gist = { path := c.path, dialect := .unset, result := r } := by
  unfold judge at h ⊢
  cases hr : d.read c.path with
  | error f =>
    simp only [hr] at h
    cases h
  | ok data =>
    simp only [hr, Option.bind_some] at h ⊢
    cases hl : k.lookup c.path (contentHash data) c.dialect with
    | some r => exact ⟨data, r, rfl, hl, rfl⟩
    | none =>
      simp only [hl] at h
      cases hp : p.parse c.path data <;> simp only [hp] at h <;> cases h

/-- The report on a candidate is the evaluation of its content as it is. -/
def IsEvaluation (p : Parts) (d : Disk) (cfg : Config) (c : Candidate) (f : FileReport) : Prop :=
  ∃ data root, d.read c.path = .ok data ∧ p.parse c.path data = .ok root ∧
    f.gist = { path := c.path, dialect := .unset,
               result := (Rules.evaluate (some root) c.dialect).without cfg.skipped }

/-- A run with the cache says what the same run says without it, and what it takes from the cache is the
evaluation of a file as it is. -/
theorem run_cached {p : Parts} {project : String} {d : Disk} {bs : List Bytes}
    (h : Reached p project d bs) {r : Request} (hr : r.project = project)
    (hinj : Set.InjOn Digest.Sha256.hash {b | b ∈ bs ++ digested p d r}) (version : String)
    (canceled : Bool) :
    (run ⟨p, some version, canceled⟩ d r).report.map BatchReport.gist =
        (run ⟨p, none, canceled⟩ d r).report.map BatchReport.gist ∧
      ∀ b, (run ⟨p, some version, canceled⟩ d r).report = .ok b → ∀ f ∈ b.fileList, f.cached = true →
        ∃ cfg cs, Config.load d r.project = .ok cfg ∧
          (collect p d (r.dialectIn cfg) cfg [] r.paths).1 = .ok cs ∧
          ∃ c ∈ cs, IsEvaluation p d cfg c f := by
  obtain ⟨report, hempty, hrun⟩ | ⟨cfg, cs, hcfg, hcs, hrun⟩ := run_cases p canceled d r
  · rw [(hrun (some version)).1, (hrun none).1]
    refine ⟨rfl, fun b hb f hf => ?_⟩
    rw [hempty b hb] at hf
    cases hf
  · have hstored : StoresSound p (bs ++ digested p d r) d r.project := fun k hl =>
      (h.storesSound k (hr ▸ hl)).mono (List.subset_append_left _ _)
    obtain ⟨henc, hdata⟩ := mem_digested hcfg hcs
    obtain ⟨hs, hlabel, -⟩ := openCache_sound hstored version cfg
    have hc : IsLabelled (bs ++ digested p d r) cfg (openCache d r.project version cfg).1 :=
      ⟨Config.hasKnownRules_of_load hcfg, List.mem_append_right bs henc, hlabel⟩
    obtain ⟨components, hcached⟩ :=
      lintAll_report ⟨p, some version, canceled⟩ d r.project (r.dialectIn cfg) cfg cs
    obtain ⟨components', hplain⟩ :=
      lintAll_report ⟨p, none, canceled⟩ d r.project (r.dialectIn cfg) cfg cs
    rw [(hrun (some version)).1, (hrun none).1, hcached, hplain]
    constructor
    · have hg : ∀ c ∈ cs,
          (judge p d cfg.skipped (some (openCache d r.project version cfg).1) c).report.gist =
            (judge p d cfg.skipped none c).report.gist := fun c hcs' =>
        gist_judge hs hc hinj fun data hd => List.mem_append_right bs (hdata c hcs' data hd)
      refine congrArg Except.ok (BatchReport.gist_ofFiles ?_ _ _ _)
      simpa using hg
    · intro b hb f hf hcf
      obtain rfl := Except.ok.inj hb
      simp only [BatchReport.fileList, BatchReport.ofFiles, Option.getD_some, List.mem_map] at hf
      obtain ⟨j, ⟨c, hcs', rfl⟩, rfl⟩ := hf
      obtain ⟨data, result, hr', hl, hgist⟩ := judge_cached hcf
      obtain ⟨root, hp, hv⟩ := hs.lookup hc hinj (List.mem_append_right bs (hdata c hcs' data hr')) hl
      exact ⟨cfg, cs, hcfg, hcs, c, hcs', data, root, hr', hp, hv ▸ hgist⟩

theorem run_cached_twice :
    let d : Disk := { root := .folder [("p", .folder [("a.xml", .file (utf8 "<entities/>"))])] }
    let r : Request := { project := "/p", paths := ["/p/a.xml"] }
    let d' := (run ⟨.standard, some "1", false⟩ d r).disk
    load d "/p" = .ok none ∧
      (run ⟨.standard, some "1", false⟩ d' r).report.map BatchReport.gist =
        (run ⟨.standard, none, false⟩ d' r).report.map BatchReport.gist := by
  intro d r d'
  have hd : load d "/p" = .ok none := by decide +kernel
  have hsame : digested .standard d' r = digested .standard d r := by decide +kernel
  have htable : ∀ a ∈ digested .standard d r, ∀ b ∈ digested .standard d r,
      Digest.Sha256.hash a = Digest.Sha256.hash b → a = b := by decide +kernel
  have hinj : Set.InjOn Digest.Sha256.hash {b | b ∈ digested .standard d r ++ digested .standard d' r} := by
    rw [hsame]
    intro a ha b hb
    exact htable a (by simpa using ha) b (by simpa using hb)
  have hreached : Reached .standard "/p" d' ([] ++ digested .standard d r) :=
    (Reached.start hd).run r rfl "1" false
  exact ⟨hd, (run_cached hreached rfl hinj "1" false).1⟩

end Lint

end MoquiLint
