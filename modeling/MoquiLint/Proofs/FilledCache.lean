import MoquiLint.Proofs.Reruns

/-!
# What a run leaves in its cache

A run that starts without stored results leaves those of all files that it could parse. A run with the same settings
and the same version of the tool then takes them from the cache.
-/
namespace MoquiLint

namespace ResultCache

theorem lookup_put_self (k : ResultCache) (path hash : String) (dialect : Dialect) (result : Findings) :
    (k.put path hash dialect result).lookup path hash dialect = some result := by
  simp [put, lookup]

theorem lookup_put_of_ne {k : ResultCache} {path path' : String} (h : path' ≠ path) (hash hash' : String)
    (dialect dialect' : Dialect) (result : Findings) :
    (k.put path hash dialect result).lookup path' hash' dialect' = k.lookup path' hash' dialect' := by
  simp [put, lookup, Keyed.lookup_insert_of_ne h]

theorem read?_of_load_eq_none {d : Disk} {project : String} (h : load d project = .ok none) :
    d.read? (file project) = .ok none := by
  cases hr : d.read? (file project) with
  | error f => simp [load, Store.load, hr, Store.onDisk, bind, Except.bind] at h
  | ok content =>
    rw [load_of_read? hr] at h
    cases content with
    | none => rfl
    | some bs => cases hd : (Store.decode bs).bind read <;> simp [hd] at h

end ResultCache

namespace Lint

def emptyCache (project version : String) (cfg : Config) : ResultCache where
  projectPath := project
  configHash := Config.hash cfg.dialect cfg.skipRules
  version := version

section
variable {p : Parts} {d : Disk} {skip : List String} {used : Option ResultCache} {k : ResultCache} {c : Candidate}
  {cs : List Candidate} {data : Bytes} {root : Markup.Node}

theorem openCache_of_load_none {project version : String} {cfg : Config} (h : ResultCache.load d project = .ok none) :
    (openCache d project version cfg).1 = emptyCache project version cfg := by
  unfold openCache
  simp only [h]
  rfl

theorem openCache_of_load_some {project version : String} {cfg : Config}
    (h : ResultCache.load d project = .ok (some k)) (hp : k.projectPath = project)
    (hl : k.configHash = Config.hash cfg.dialect cfg.skipRules) (hv : k.version = version) :
    (openCache d project version cfg).1 = k := by
  have hvalid : k.isInvalidated (Config.hash cfg.dialect cfg.skipRules) version = false := by
    simp only [ResultCache.isInvalidated, hl, hv, bne_self_eq_false, Bool.or_self]
  subst hp
  unfold openCache
  simp only [h, hvalid, Bool.false_eq_true, if_false]

/-- A file that is parsed is judged anew if its result is not in the cache. -/
theorem judge_anew (hr : d.read c.path = .ok data) (hp : p.parse c.path data = .ok root)
    (hl : (used.bind fun k => k.lookup c.path (contentHash data) c.dialect) = none) :
    (judge p d skip used c).hash = some (contentHash data) ∧ (judge p d skip used c).report.cached = false := by
  unfold judge
  simp only [hr, hl, hp]
  exact ⟨trivial, trivial⟩

/-! ### Recorded results -/

/-- Recording results keeps a cache in order and what it is valid for. -/
structure Continues (k k' : ResultCache) : Prop where
  project : k'.projectPath = k.projectPath
  label : k'.configHash = k.configHash
  version : k'.version = k.version
  sorted : k.IsSorted → k'.IsSorted

theorem Continues.refl (k : ResultCache) : Continues k k := ⟨rfl, rfl, rfl, id⟩

theorem Continues.trans {k k' k'' : ResultCache} (h : Continues k k') (h' : Continues k' k'') : Continues k k'' where
  project := h'.project.trans h.project
  label := h'.label.trans h.label
  version := h'.version.trans h.version
  sorted := h'.sorted ∘ h.sorted

theorem continues_record (k : ResultCache) (c : Candidate) (j : Judged) : Continues k (record k c j) := by
  unfold record
  split
  · split
    · exact .refl k
    · exact ⟨rfl, rfl, rfl, fun h => ResultCache.isSorted_put h _ _ _ _⟩
  · exact .refl k

theorem continues_recordAll (k : ResultCache) (cs : List Candidate) (js : List Judged) :
    Continues k (recordAll k cs js) := by
  induction cs generalizing k js with
  | nil => exact .refl k
  | cons c cs ih =>
    cases js with
    | nil => exact .refl k
    | cons j js =>
      rw [recordAll_cons]
      exact (continues_record k c j).trans (ih _ js)

theorem lookup_record_of_ne {path : String} (h : path ≠ c.path) (hash : String) (dialect : Dialect) :
    (record k c (judge p d skip used c)).lookup path hash dialect = k.lookup path hash dialect := by
  have hpath : path ≠ (judge p d skip used c).report.path := by rwa [path_judge]
  unfold record
  split
  · split
    · rfl
    · exact ResultCache.lookup_put_of_ne hpath _ _ _ _ _
  · rfl

theorem lookup_record {hash : String} (hh : (judge p d skip used c).hash = some hash)
    (hn : (judge p d skip used c).report.cached = false) :
    (record k c (judge p d skip used c)).lookup c.path hash c.dialect =
      some (judge p d skip used c).report.result := by
  simp [record, hh, hn, path_judge, ResultCache.lookup_put_self]

theorem lookup_recordAll_of_ne {path : String} (h : ∀ c ∈ cs, path ≠ c.path) (hash : String) (dialect : Dialect) :
    (recordAll k cs (cs.map (judge p d skip used))).lookup path hash dialect = k.lookup path hash dialect := by
  induction cs generalizing k with
  | nil => rfl
  | cons c cs ih =>
    have hrest : ∀ c' ∈ cs, path ≠ c'.path := fun c' hc' => h c' (List.mem_cons_of_mem c hc')
    rw [List.map_cons, recordAll_cons, ih hrest, lookup_record_of_ne (h c List.mem_cons_self)]

theorem lookup_recordAll (hn : (cs.map Candidate.path).Nodup) (hc : c ∈ cs) {hash : String}
    (hh : (judge p d skip used c).hash = some hash) (hu : (judge p d skip used c).report.cached = false) :
    (recordAll k cs (cs.map (judge p d skip used))).lookup c.path hash c.dialect =
      some (judge p d skip used c).report.result := by
  induction cs generalizing k with
  | nil => cases hc
  | cons first cs ih =>
    rw [List.map_cons, List.nodup_cons] at hn
    obtain ⟨hnot, hrest⟩ := hn
    rw [List.map_cons, recordAll_cons]
    rcases List.mem_cons.mp hc with rfl | hc
    · have hne : ∀ c' ∈ cs, c.path ≠ c'.path := fun c' hc' he => hnot (List.mem_map.mpr ⟨c', hc', he.symm⟩)
      rw [lookup_recordAll_of_ne hne, lookup_record hh hu]
    · exact ih hrest hc

end

/-! ### The next run -/

section
variable {s : Service} {d d' : Disk} {r : Request} {cfg : Config} {cs : List Candidate}

def Service.filled (s : Service) (d : Disk) (r : Request) (cfg : Config) (cs : List Candidate) (version : String) :
    ResultCache :=
  let start := emptyCache r.project version cfg
  recordAll start cs (cs.map (judge s.parts d cfg.skipped (some start)))

/-- If there is a stored cache after a run and none before, the run has filled it. -/
theorem load_run (hc : Collects s.parts d r cfg cs) (hcancel : s.canceled = false)
    (hbefore : ResultCache.load d r.project = .ok none)
    (hafter : ResultCache.load (run s d r).disk r.project ≠ .ok none) :
    ∃ version, s.cache = some version ∧
      ResultCache.load (run s d r).disk r.project = .ok (some (s.filled d r cfg cs version)) := by
  have hchanged : (run s d r).disk ≠ d := by
    intro h
    rw [h] at hafter
    exact hafter hbefore
  have hne : cs ≠ [] := by
    rintro rfl
    exact hchanged hc.run_nil.2
  obtain ⟨events, hrun⟩ := hc.run_eq hne hcancel
  have hdisk : (run s d r).disk = (lintAll s d r.project (r.dialectIn cfg) cfg cs).disk := by rw [hrun, Outcome.after]
  rw [lintAll_disk] at hdisk
  cases hs : s.cache with
  | none =>
    rw [hs] at hdisk
    exact absurd hdisk hchanged
  | some version =>
    refine ⟨version, rfl, ?_⟩
    simp only [hs, openCache_of_load_none hbefore] at hdisk
    have hframe : Continues (emptyCache r.project version cfg) (s.filled d r cfg cs version) :=
      continues_recordAll _ _ _
    have hproject : (s.filled d r cfg cs version).projectPath = r.project := hframe.project
    have hsorted : (s.filled d r cfg cs version).IsSorted := hframe.sorted Keyed.sorted_nil
    cases hsave : (s.filled d r cfg cs version).save d with
    | error f =>
      refine absurd (hdisk.trans ?_) hchanged
      rw [Service.filled] at hsave
      rw [closeCache, hsave]
    | ok d₁ =>
      have hd₁ : (run s d r).disk = d₁ := by
        rw [Service.filled] at hsave
        rw [hdisk, closeCache, hsave]
      have hloaded := ResultCache.load_of_save hsorted hsave
      rw [hproject] at hloaded
      rw [hd₁] at hafter ⊢
      exact hloaded.resolve_right hafter

theorem openCache_again (hc : Collects s.parts d r cfg cs) (hcancel : s.canceled = false)
    (hbefore : ResultCache.load d r.project = .ok none)
    (hafter : ResultCache.load (run s d r).disk r.project ≠ .ok none)
    (hload : ResultCache.load d' r.project = ResultCache.load (run s d r).disk r.project) :
    ∃ version, s.cache = some version ∧ (openCache d' r.project version cfg).1 = s.filled d r cfg cs version := by
  obtain ⟨version, hs, hleft⟩ := load_run hc hcancel hbefore hafter
  have hframe : Continues (emptyCache r.project version cfg) (s.filled d r cfg cs version) :=
    continues_recordAll _ _ _
  exact ⟨version, hs, openCache_of_load_some (hload.trans hleft) hframe.project hframe.label hframe.version⟩

theorem disk_again (hc : Collects s.parts d r cfg cs) (hcancel : s.canceled = false)
    (hbefore : ResultCache.load d r.project = .ok none)
    (hafter : ResultCache.load (run s d r).disk r.project ≠ .ok none)
    (hload : ResultCache.load d' r.project = ResultCache.load (run s d r).disk r.project)
    (hc' : Collects s.parts d' r cfg cs) (hne : cs ≠ []) :
    ∃ version, s.cache = some version ∧
      (run s d' r).disk = (closeCache d' (recordAll (s.filled d r cfg cs version) cs
        (cs.map (judge s.parts d' cfg.skipped (some (s.filled d r cfg cs version)))))).1 := by
  obtain ⟨version, hs, hopen⟩ := openCache_again hc hcancel hbefore hafter hload
  obtain ⟨events, hrun⟩ := hc'.run_eq hne hcancel
  refine ⟨version, hs, ?_⟩
  rw [hrun, Outcome.after, lintAll_disk]
  simp only [hs, hopen]

/-- What can be parsed is taken from the cache that the run before has filled. -/
theorem cached_again (hc : Collects s.parts d r cfg cs) (hcancel : s.canceled = false)
    (hbefore : ResultCache.load d r.project = .ok none)
    (hafter : ResultCache.load (run s d r).disk r.project ≠ .ok none)
    (hload : ResultCache.load d' r.project = ResultCache.load (run s d r).disk r.project)
    {c : Candidate} (hmem : c ∈ cs) {data : Bytes} {root : Markup.Node} (hr : d.read c.path = .ok data)
    (hr' : d'.read c.path = .ok data) (hp : s.parts.parse c.path data = .ok root) :
    (s.reportOn d r cfg c).cached = false ∧ (s.reportOn d' r cfg c).cached = true := by
  obtain ⟨version, hs, hopen⟩ := openCache_again hc hcancel hbefore hafter hload
  have hstart : s.lookedUp d r.project cfg = some (emptyCache r.project version cfg) := by
    rw [Service.lookedUp, hs, Option.map_some, openCache_of_load_none hbefore]
  have hagain : s.lookedUp d' r.project cfg = some (s.filled d r cfg cs version) := by
    rw [Service.lookedUp, hs, Option.map_some, hopen]
  have hmissed : ((some (emptyCache r.project version cfg)).bind fun k =>
      k.lookup c.path (contentHash data) c.dialect) = none := rfl
  obtain ⟨hhash, hanew⟩ :
      (judge s.parts d cfg.skipped (some (emptyCache r.project version cfg)) c).hash = some (contentHash data) ∧
        (judge s.parts d cfg.skipped (some (emptyCache r.project version cfg)) c).report.cached = false :=
    judge_anew hr hp hmissed
  have hnone : (([] : List Candidate).map Candidate.path).Nodup := List.nodup_nil
  have hnodup : (cs.map Candidate.path).Nodup := nodup_collect hnone hc.collected
  have hfound := lookup_recordAll (k := emptyCache r.project version cfg) hnodup hmem hhash hanew
  rw [Service.reportOn, Service.reportOn, hstart, hagain]
  refine ⟨hanew, ?_⟩
  unfold judge
  simp only [hr', Option.bind_some, Service.filled, hfound]

end

end Lint

end MoquiLint
