import MoquiLint.Proofs.Candidates
import MoquiLint.Proofs.TaskPool

/-!
# The order of a batch

A batch reports on the candidates of the given paths one after the other, each path once, whatever order the
tasks that judge them take their steps in.
-/
namespace MoquiLint

/-! ### Folders can be scanned -/

namespace Disk

section
variable {d : Disk} {jump jump' : List String → List String → Except Cause Spot}

/-- What is found behind the links is found, as itself or as a link, if the last one is not followed. -/
theorem exists_walk_unfollowed
    (hj : ∀ place names p e, jump place names = .ok ⟨p, some e⟩ →
      ∃ q f, jump' place names = .ok ⟨q, some f⟩)
    {place names p : List String} {e : Entry} (h : d.walk true jump place names = .ok ⟨p, some e⟩) :
    ∃ q f, d.walk false jump' place names = .ok ⟨q, some f⟩ := by
  fun_induction walk d true jump place names with
  | case1 place =>
    rw [walk]
    obtain ⟨-, he⟩ := Spot.mk.inj (Except.ok.inj h)
    exact ⟨_, e, by rw [he]⟩
  | case2 _ _ _ hn ih =>
    rw [walk, if_pos hn]
    exact ih h
  | case3 _ _ _ hn hu ih =>
    rw [walk, if_neg hn, if_pos hu]
    exact ih h
  | case4 | case5 | case6 | case11 => cases h
  | case7 place n names h₁ h₂ h₃ ms hq ih =>
    rw [walk_folder ⟨h₁, h₂, h₃⟩ hq]
    exact ih h
  | case8 place n names h₁ h₂ h₃ target hq hl => simp at hl
  | case9 place n names h₁ h₂ h₃ target hq hl =>
    rw [walk_link ⟨h₁, h₂, h₃⟩ hq]
    split
    · exact ⟨_, _, rfl⟩
    · exact hj _ _ _ _ h
  | case10 place n names h₁ h₂ h₃ f hnf hnl hq hl =>
    rw [walk_end ⟨h₁, h₂, h₃⟩ hnf hnl hq, if_pos hl]
    exact ⟨_, f, rfl⟩

end

theorem exists_follow_unfollowed {d : Disk} {links : Nat} {place names p : List String} {e : Entry}
    (h : d.follow true links place names = .ok ⟨p, some e⟩) :
    ∃ q f, d.follow false links place names = .ok ⟨q, some f⟩ := by
  induction links generalizing place names p e with
  | zero => exact exists_walk_unfollowed (fun _ _ _ _ hj => by cases hj) h
  | succ links ih => exact exists_walk_unfollowed (fun _ _ _ _ hj => ih hj) h

theorem entryAt_eq_ok {d : Disk} {last : Bool} {path : String} {e : Entry} :
    d.entryAt last path = .ok e ↔ ∃ p, d.locate last path = .ok ⟨p, some e⟩ := by
  unfold entryAt
  cases d.locate last path with
  | error c => simp [bind, Except.bind]
  | ok spot =>
    obtain ⟨p, f⟩ := spot
    cases f with
    | none => simp [bind, Except.bind, throw, throwThe, MonadExceptOf.throw]
    | some f => simp [bind, Except.bind, pure, Except.pure]

theorem fail_eq_ok {α : Type} {action path : String} {r : Except Cause α} {a : α} :
    fail action path r = .ok a ↔ r = .ok a := by
  cases r <;> simp [fail]

theorem exists_lstat {d : Disk} {path : String} {e : Entry} (h : d.stat path = .ok e) :
    ∃ f, d.lstat path = .ok f := by
  obtain ⟨p, hp⟩ := entryAt_eq_ok.mp (fail_eq_ok.mp h)
  unfold locate at hp
  split at hp
  · cases hp
  · rename_i h₁
    split at hp
    · cases hp
    · rename_i h₂
      obtain ⟨q, f, hq⟩ := exists_follow_unfollowed hp
      refine ⟨f, fail_eq_ok.mpr (entryAt_eq_ok.mpr ⟨q, ?_⟩)⟩
      rw [locate, if_neg h₁, if_neg h₂, hq]

theorem enter_of_isFolder {d : Disk} {path : String} (h : d.isFolder path = true) : d.enter path = .ok () := by
  unfold isFolder stat at h
  unfold enter
  cases he : d.entryAt true path with
  | error c => simp [he, fail] at h
  | ok e =>
    cases e with
    | folder ms => rfl
    | file | link | socket => simp [he, fail, Entry.isFolder] at h

theorem exists_stat_of_isFolder {d : Disk} {path : String} (h : d.isFolder path = true) :
    ∃ ms, d.stat path = .ok (.folder ms) := by
  unfold isFolder at h
  split at h
  · rename_i e he
    cases e with
    | folder ms => exact ⟨ms, he⟩
    | file | link | socket => cases h
  · cases h

end Disk

theorem Scan.exists_run {d : Disk} (root : String) (h : d.isFolder (d.absolute root) = true)
    (dialect : Dialect) (cfg : Config) : ∃ r, run d root dialect cfg = .ok r := by
  obtain ⟨ms, hms⟩ := Disk.exists_stat_of_isFolder h
  obtain ⟨e, he⟩ := Disk.exists_lstat hms
  rw [run_eq_survey he]
  unfold survey
  simp only [Disk.enter_of_isFolder h]
  cases e <;> exact ⟨_, rfl⟩

/-! ### Candidates -/

def Candidate.samePath (c k : Candidate) : Bool := c.path == k.path

namespace Lint

theorem loop_eq_addNew (new known : List Candidate) :
    List.eraseDupsBy.loop Candidate.samePath new known = addNew known.reverse new := by
  induction new generalizing known with
  | nil => rfl
  | cons c new ih =>
    have hany : (known.reverse.any fun k => k.path == c.path) = known.any c.samePath := by
      rw [List.any_reverse]
      exact congrArg known.any (funext fun k => BEq.comm)
    unfold addNew
    rw [List.eraseDupsBy.loop, List.foldl_cons, hany]
    split
    · rename_i h
      rw [ih, if_pos h, addNew]
    · rename_i h
      rw [ih, if_neg (by simp [h]), addNew, List.reverse_cons]

/-- Of candidates with the same path the first one is kept. -/
theorem addNew_nil (cs : List Candidate) : addNew [] cs = cs.eraseDupsBy Candidate.samePath :=
  (loop_eq_addNew cs []).symm

theorem nodup_addNew {known : List Candidate} (h : (known.map Candidate.path).Nodup) (new : List Candidate) :
    ((addNew known new).map Candidate.path).Nodup := by
  unfold addNew
  induction new generalizing known with
  | nil => exact h
  | cons c new ih =>
    rw [List.foldl_cons]
    refine ih ?_
    split
    · exact h
    · rename_i hn
      rw [List.map_append, List.map_singleton, List.nodup_append]
      refine ⟨h, List.nodup_singleton _, ?_⟩
      intro x hx y hy hxy
      obtain ⟨k, hk, rfl⟩ := List.mem_map.mp hx
      obtain rfl := List.mem_singleton.mp hy
      exact hn (List.any_eq_true.mpr ⟨k, hk, beq_iff_eq.mpr hxy⟩)

theorem nodup_collect {p : Parts} {d : Disk} {dialect : Dialect} {cfg : Config} {known cs : List Candidate}
    (h : (known.map Candidate.path).Nodup) {paths : List String}
    (hcs : (collect p d dialect cfg known paths).1 = .ok cs) : (cs.map Candidate.path).Nodup := by
  induction paths generalizing known with
  | nil =>
    obtain rfl := Except.ok.inj hcs
    exact h
  | cons path paths ih =>
    rw [collect_cons] at hcs
    split at hcs
    · cases hcs
    · exact ih (nodup_addNew h _) hcs

theorem addNew_append (known new more : List Candidate) :
    addNew known (new ++ more) = addNew (addNew known new) more := List.foldl_append

def candidatesAt (d : Disk) (dialect : Dialect) (cfg : Config) (path : String) : List Candidate :=
  if d.isFolder (d.absolute path) then
    match Scan.run d (d.absolute path) dialect cfg with
    | .ok r => r.files
    | .error _ => []
  else [⟨d.absolute path, dialect⟩]

section
variable {d : Disk} (dialect : Dialect) (cfg : Config) {path : String}
  (parse : String → Bytes → Except ParseFault Markup.Node)
  (detect : Disk → String → List String → Except Text (List Component))

theorem candidatesOf_eq {e : Entry} (h : d.stat (d.absolute path) = .ok e) :
    ∃ events, candidatesOf ⟨scanDisk, parse, detect⟩ d dialect cfg path =
      .ok (candidatesAt d dialect cfg path, events) := by
  have hfolder : d.isFolder (d.absolute path) = e.isFolder := by
    rw [Disk.isFolder, h]
  unfold candidatesOf candidatesAt
  simp only [h]
  cases e with
  | folder ms =>
    have ha := d.absolute_absolute path
    obtain ⟨r, hr⟩ := Scan.exists_run (d.absolute path) (ha.symm ▸ hfolder) dialect cfg
    have hscan : scanDisk d (d.absolute path) dialect cfg = .ok r := by
      unfold scanDisk
      rw [hr]
    have htrue : d.isFolder (d.absolute path) = true := hfolder
    exact ⟨r.events, by simp only [hscan, htrue, ↓reduceIte, hr]⟩
  | file | link | socket => exact ⟨[], by simp [hfolder, Entry.isFolder]⟩

theorem collect_eq {paths : List String} (h : ∀ path ∈ paths, ∃ e, d.stat (d.absolute path) = .ok e)
    (known : List Candidate) :
    (collect ⟨scanDisk, parse, detect⟩ d dialect cfg known paths).1 =
      .ok (addNew known (paths.flatMap (candidatesAt d dialect cfg))) := by
  induction paths generalizing known with
  | nil => rfl
  | cons path paths ih =>
    obtain ⟨e, he⟩ := h path List.mem_cons_self
    obtain ⟨events, hevents⟩ := candidatesOf_eq dialect cfg parse detect he
    rw [collect_cons, hevents, List.flatMap_cons, addNew_append]
    exact ih (fun p hp => h p (List.mem_cons_of_mem path hp)) _

end

theorem pairwise_candidatesAt (d : Disk) (dialect : Dialect) (cfg : Config) (path : String) :
    (candidatesAt d dialect cfg path).Pairwise fun c k => c.path ≤ k.path := by
  unfold candidatesAt
  split
  · rename_i hfolder
    obtain ⟨ms, hms⟩ := Disk.exists_stat_of_isFolder hfolder
    obtain ⟨e, he⟩ := Disk.exists_lstat hms
    split
    · rename_i r hr
      rw [Scan.run_eq_survey (by rw [d.absolute_absolute, he])] at hr
      rw [(Scan.found_of_survey hr).1]
      exact pairwise_le_mergeSort_key Candidate.path _
    · exact List.Pairwise.nil
  · exact List.pairwise_singleton _ _

/-! ### Reports -/

theorem prepare_cases (s : Service) (d : Disk) (r : Request) :
    (∃ o, prepare s d r = .over o) ∨
      ∃ cfg cs events, cs ≠ [] ∧ prepare s d r = .ready (r.dialectIn cfg) cfg cs events := by
  unfold prepare
  split
  · exact .inl ⟨_, rfl⟩
  · rename_i cfg _
    simp only
    split
    · exact .inl ⟨_, rfl⟩
    · exact .inl ⟨_, rfl⟩
    · rename_i cs events hne _
      exact .inr ⟨cfg, cs, events, hne, rfl⟩

theorem recordAll_placed (cache : ResultCache) (cs : List Candidate) (js : List Judged) :
    recordAll cache cs (js.map Judged.placed) = recordAll cache cs js := by
  have hrecord : ∀ k c (j : Judged), record k c j.placed = record k c j := fun _ _ _ => rfl
  simp only [recordAll, List.zip_map_right, List.foldl_map, Prod.map, id, hrecord]

/-- Outcomes that differ in the order of what happened at most. -/
structure Outcome.SameBut (o o' : Outcome) : Prop where
  report : o.report = o'.report
  disk : o.disk = o'.disk
  events : o.events.Perm o'.events

theorem Outcome.SameBut.refl (o : Outcome) : o.SameBut o := ⟨rfl, rfl, .refl _⟩

theorem Outcome.SameBut.after {o o' : Outcome} (h : o.SameBut o') (events : List Event) :
    (Outcome.after events o).SameBut (Outcome.after events o') :=
  ⟨h.report, h.disk, h.events.append_left events⟩

theorem conclude_placed (s : Service) (d : Disk) (project : String) (dialect : Dialect) (cfg : Config)
    (cs : List Candidate) (js : List Judged) {told told' : List Event} (h : told.Perm told') :
    (conclude s d project dialect cfg cs (js.map Judged.placed) told).SameBut
      (conclude s d project dialect cfg cs js told') := by
  have hreports : (js.map Judged.placed).map (·.report) = js.map (·.report) := by
    simp [Judged.placed]
  unfold conclude
  simp only [recordAll_placed, hreports]
  exact ⟨rfl, rfl, (((h.append_left _).append_right _).append_right _).append_right _⟩

theorem sameBut_lintBy {s : Service} {processors : Nat} {schedule : List Move} {d : Disk} {project : String}
    {dialect : Dialect} {cfg : Config} {cs : List Candidate} (hne : cs ≠ []) {o : Outcome}
    (h : lintBy s processors schedule d project dialect cfg cs = some o) :
    o.SameBut (if s.canceled then calledOff s d project cfg else lintAll s d project dialect cfg cs) := by
  unfold lintBy at h
  simp only at h
  split at h
  · cases h
  · rename_i p hp
    have hsound := (Pool.sound_fresh (s.workload processors d project cfg cs)).follow hp
    split at h
    · cases h
    · rename_i hdone
      have hd : p.isDone (s.workload processors d project cfg cs) = true := by simpa using hdone
      have hfailed : p.failed = true ↔ s.canceled = true := hsound.failed_iff hd hne
      split at h
      · rename_i hf
        obtain rfl := Option.some.inj h
        rw [if_pos (hfailed.mp hf)]
        exact .refl _
      · rename_i hf
        obtain rfl := Option.some.inj h
        have hc : s.canceled = false := Bool.eq_false_iff.mpr fun hs => hf (hfailed.mpr hs)
        rw [if_neg (by simp [hc]), hsound.judged_eq hd hc]
        exact conclude_placed s d project dialect cfg cs _ (hsound.events_perm hd hc)

theorem sameBut_runBy {s : Service} {processors : Nat} {schedule : List Move} {d : Disk} {r : Request}
    {o : Outcome} (h : runBy s processors schedule d r = some o) : o.SameBut (run s d r) := by
  unfold runBy at h
  unfold run
  obtain ⟨o', ho⟩ | ⟨cfg, cs, events, hne, hready⟩ := prepare_cases s d r
  · rw [ho] at h ⊢
    obtain rfl := Option.some.inj h
    exact .refl _
  · rw [hready] at h ⊢
    obtain ⟨o', ho', rfl⟩ := Option.map_eq_some_iff.mp h
    exact (sameBut_lintBy hne ho').after events

/-- A schedule that can be followed has a bounded number of steps and leaves a way to the end. -/
theorem exists_runBy {s : Service} {processors : Nat} (hp : 0 < processors) {d : Disk} {r : Request}
    {dialect : Dialect} {cfg : Config} {cs : List Candidate} {events : List Event}
    (h : prepare s d r = .ready dialect cfg cs events) {begun : List Move} {p : Pool}
    (hbegun : (Pool.fresh cs.length).follow (s.workload processors d r.project cfg cs) begun = some p) :
    begun.length ≤ 5 * cs.length ∧ ∃ rest o, runBy s processors (begun ++ rest) d r = some o := by
  have hlimit : 0 < (s.workload processors d r.project cfg cs).limit := by
    simp only [Service.workload, Config.sideBySide]
    split <;> omega
  have hfresh := Pool.sound_fresh (s.workload processors d r.project cfg cs)
  have hsound := hfresh.follow hbegun
  refine ⟨?_, ?_⟩
  · have hle := Pool.length_add_left_le hfresh hbegun
    rw [Pool.left_fresh] at hle
    exact Nat.le_of_add_right_le hle
  · obtain ⟨rest, q, hq, hdone⟩ := hsound.exists_follow hlimit
    have hall : (Pool.fresh cs.length).follow (s.workload processors d r.project cfg cs) (begun ++ rest) =
        some q := by
      rw [Pool.follow_append, hbegun, Option.bind_some, hq]
    refine ⟨rest, ?_⟩
    unfold runBy lintBy
    simp only [h, hall, hdone, Bool.not_true, Bool.false_eq_true, ↓reduceIte]
    split <;> exact ⟨_, rfl⟩

theorem run_eq_batch (parse : String → Bytes → Except ParseFault Markup.Node)
    (detect : Disk → String → List String → Except Text (List Component)) (cache : Option String) {d : Disk}
    {r : Request} {cfg : Config} (hcfg : Config.load d r.project = .ok cfg)
    (hpaths : ∀ path ∈ r.paths, ∃ e, d.stat (d.absolute path) = .ok e) :
    let s : Service := ⟨⟨scanDisk, parse, detect⟩, cache, false⟩
    ∃ b, (run s d r).report = .ok b ∧
      b.fileList = ((r.paths.flatMap (candidatesAt d (r.dialectIn cfg) cfg)).eraseDupsBy
        Candidate.samePath).map fun c => (judge s.parts d cfg.skipped (s.lookedUp d r.project cfg) c).report := by
  intro s
  have hcs := collect_eq (r.dialectIn cfg) cfg parse detect hpaths []
  rw [addNew_nil] at hcs
  generalize (r.paths.flatMap (candidatesAt d (r.dialectIn cfg) cfg)).eraseDupsBy Candidate.samePath = cs
    at hcs ⊢
  unfold run prepare
  rw [hcfg]
  simp only
  rcases hc : collect s.parts d (r.dialectIn cfg) cfg [] r.paths with ⟨f | _ | ⟨c, cs'⟩, events⟩
  · rw [hc] at hcs
    cases hcs
  · rw [hc] at hcs
    obtain rfl := Except.ok.inj hcs
    exact ⟨_, rfl, rfl⟩
  · rw [hc] at hcs
    obtain rfl := Except.ok.inj hcs
    obtain ⟨components, hl⟩ := lintAll_report s d r.project (r.dialectIn cfg) cfg (c :: cs')
    exact ⟨_, hl, by simp [BatchReport.fileList, BatchReport.ofFiles, Service.lookedUp]⟩

/-- Whatever order the tasks of a run take their steps in, the run ends and comes to the same outcome. Its
reports are those of the candidates of the given paths in their order, each path once and as it came up
first. -/
theorem run_scheduled (parse : String → Bytes → Except ParseFault Markup.Node)
    (detect : Disk → String → List String → Except Text (List Component)) (cache : Option String)
    {processors : Nat} (hp : 0 < processors) (d : Disk) (r : Request) :
    let s : Service := ⟨⟨scanDisk, parse, detect⟩, cache, false⟩
    (∀ schedule o, runBy s processors schedule d r = some o → o.SameBut (run s d r)) ∧
      (∀ dialect cfg cs events, prepare s d r = .ready dialect cfg cs events → ∀ begun p,
        (Pool.fresh cs.length).follow (s.workload processors d r.project cfg cs) begun = some p →
          begun.length ≤ 5 * cs.length ∧ ∃ rest o, runBy s processors (begun ++ rest) d r = some o) ∧
      ∀ cfg, Config.load d r.project = .ok cfg →
        (∀ path ∈ r.paths, ∃ e, d.stat (d.absolute path) = .ok e) →
        let found := candidatesAt d (r.dialectIn cfg) cfg
        let cs := (r.paths.flatMap found).eraseDupsBy Candidate.samePath
        (∀ path ∈ r.paths, (found path).Pairwise fun c k => c.path ≤ k.path) ∧
          ∃ b, (run s d r).report = .ok b ∧
            b.fileList = cs.map (fun c => (judge s.parts d cfg.skipped (s.lookedUp d r.project cfg) c).report) ∧
            b.fileList.map FileReport.path = cs.map Candidate.path ∧
            (b.fileList.map FileReport.path).Nodup := by
  intro s
  refine ⟨fun schedule o h => sameBut_runBy h, fun dialect cfg cs events h begun p => exists_runBy hp h, ?_⟩
  intro cfg hcfg hpaths found cs
  refine ⟨fun path _ => pairwise_candidatesAt d _ cfg path, ?_⟩
  obtain ⟨b, hb, hfiles⟩ := run_eq_batch parse detect cache hcfg hpaths
  have hpath : b.fileList.map FileReport.path = cs.map Candidate.path := by
    rw [hfiles, List.map_map]
    exact List.map_congr_left fun c _ => path_judge _ _ _ _ c
  have hnodup : (cs.map Candidate.path).Nodup := by
    rw [show cs = addNew [] (r.paths.flatMap found) from (addNew_nil _).symm]
    refine nodup_addNew ?_ _
    exact List.nodup_nil
  exact ⟨b, hb, hfiles, hpath, hpath ▸ hnodup⟩

/-- A file that has come up is not moved by a scan of its folder, nor by the task that ends first. -/
theorem run_scheduled_overlap :
    let d : Disk := { root := .folder [("p", .folder [("a.xml", .file (utf8 "<entities/>")),
      ("x", .folder [("b.xml", .file (utf8 "<services/>"))])])] }
    let r : Request := { project := "/p", paths := ["/p/x/b.xml", "/p/a.xml", "/p/x"], dialect := .auto }
    let schedule : List Move := [.start, .start, .advance 1, .advance 1, .advance 0, .advance 1, .advance 0,
      .advance 1, .advance 0, .advance 0]
    ∃ o b, runBy {} 2 schedule d r = some o ∧ o.report = .ok b ∧
      b.fileList.map FileReport.path = ["/p/x/b.xml", "/p/a.xml"] := by
  intro d r schedule
  obtain ⟨hsame, -, hordered⟩ := run_scheduled parseDocument
    (fun d project files => .ok (Component.detect d project files)) none (show 0 < 2 by decide) d r
  have hcfg : Config.load d r.project = .ok .standard := by decide +kernel
  have hpaths : ∀ path ∈ r.paths, ∃ e, d.stat (d.absolute path) = .ok e := by
    have hfound : ∀ path ∈ r.paths, (d.stat (d.absolute path)).toBool = true := by decide +kernel
    intro path hpath
    cases he : d.stat (d.absolute path) with
    | ok e => exact ⟨e, rfl⟩
    | error f => simpa [he, Except.toBool] using hfound path hpath
  have hends : (runBy {} 2 schedule d r).isSome = true := by decide +kernel
  obtain ⟨o, ho⟩ := Option.isSome_iff_exists.mp hends
  obtain ⟨-, b, hb, -, hpath, -⟩ := hordered .standard hcfg hpaths
  refine ⟨o, b, ho, (hsame schedule o ho).report.trans hb, hpath.trans ?_⟩
  decide +kernel

end Lint

end MoquiLint
