import MoquiLint.Command.Run
import MoquiLint.Proofs.BatchOrder
import MoquiLint.Proofs.ScannedReport

/-!
# Linting what has changed

Changed files are taken for definitions by their first bytes and the requested dialect alone. A run on the
project looks at them only where its scan gets to, and in the dialect that counts in the end.
-/
namespace MoquiLint

namespace Scan

theorem selects_iff {a : Access} {root : String} {dialect : Dialect} {cfg : Config} {p : Placed} {f : Candidate} :
    Selects a root dialect cfg p f ↔ f ∈ (foundAt a root dialect cfg p).files ∧ IsOpen a root cfg p.1 := by
  rw [mem_files_foundAt]
  constructor
  · intro hs
    exact ⟨⟨hs.notFolder, hs.path, hs.toTakes⟩, hs.isOpen⟩
  · rintro ⟨⟨hfolder, hpath, htakes⟩, hopen⟩
    exact ⟨htakes, hpath, hfolder, hopen⟩

/-- Whatever stands at the root, a scan selects what qualifies of it and of the listed entries below. -/
theorem mem_survey_iff {a : Access} {root : String} {dialect : Dialect} {cfg : Config} {e : Entry} {r : Result}
    (h : survey a root dialect cfg e = .ok r) {f : Candidate} :
    f ∈ r.files ↔
      ∃ p ∈ ([], e) :: e.entries [], IsListed a root p.1 ∧ Selects a root dialect cfg p f := by
  rw [(found_of_survey h).1, List.mem_mergeSort, visit_eq isReached_nil, ← foundAmong_cons isReached_nil, foundAmong,
    Found.files_total, List.flatMap_map, List.mem_flatMap]
  simp only [List.mem_filter, decide_eq_true_eq, isReached_iff, selects_iff]
  constructor
  · rintro ⟨p, ⟨hp, hlisted, hopen⟩, hf⟩
    exact ⟨p, hp, hlisted, hf, hopen⟩
  · rintro ⟨p, hp, hlisted, hf, hopen⟩
    exact ⟨p, ⟨hp, hlisted, hopen⟩, hf⟩

end Scan

namespace Sniff

variable {data : Bytes} {d shown : Dialect}

/-- A document that shows a dialect is taken by a request that leaves the choice open or asks for it. -/
theorem isSome_classify_iff (h : detect data = some shown) :
    (classify data d).isSome = true ↔ d.isOpen = true ∨ d = shown := by
  unfold classify
  rw [h]
  simp only [Bool.or_eq_true, beq_iff_eq]
  split
  · rename_i hd
    simp [hd]
  · rename_i hd
    simp [hd]

end Sniff

namespace Watch

inductive State.IsReached : State → Prop where
  | started {d : Disk} {root : String} {s : State} (h : start d root = .ok s) : State.IsReached s
  | noticed {s : State} (h : State.IsReached s) (d : Disk) (path : String) (o : Operation) :
      State.IsReached (s.notice d path o).1
  | flushed {s : State} (h : State.IsReached s) (d : Disk) : State.IsReached (s.flush d).1

namespace State

theorem pending_of_watch {s s' : State} {d : Disk} {root : String} (h : s.watch d root = .ok s') :
    s'.pending = s.pending := by
  unfold watch at h
  cases he : d.lstat root with
  | error f => simp [he, bind, Except.bind] at h
  | ok e =>
    simp only [he, bind, Except.bind, pure, Except.pure, Except.ok.injEq] at h
    rw [← h]

/-- A change adds no path to those to hand over but its own, if that is an XML file. -/
theorem mem_pending_notice {s : State} {d : Disk} {path : String} {o : Operation} {p : String}
    (h : p ∈ (s.notice d path o).1.pending) : p ∈ s.pending ∨ Path.isXml p = true := by
  unfold notice at h
  split at h
  · exact .inl h
  · split at h
    · rename_i hx
      rcases mem_insert.mp h with rfl | h
      · exact .inr hx
      · exact .inl h
    · split at h
      · split at h
        · rename_i s' hs
          exact .inl (pending_of_watch hs ▸ h)
        · exact .inl h
      · exact .inl h

theorem IsReached.isXml {s : State} (hs : s.IsReached) : ∀ p ∈ s.pending, Path.isXml p = true := by
  induction hs with
  | started h =>
    rw [pending_of_watch h]
    simp
  | noticed _ d path o ih =>
    intro p hp
    rcases mem_pending_notice hp with hp | hx
    · exact ih p hp
    · exact hx
  | @flushed s _ d ih =>
    unfold flush
    split
    · exact ih
    · simp

theorem IsReached.noticeAll {s : State} (hs : s.IsReached) (d : Disk) (happened : List (String × Operation)) :
    (s.noticeAll d happened).1.IsReached := by
  induction happened generalizing s with
  | nil => exact hs
  | cons c happened ih => exact ih (hs.noticed d c.1 c.2)

theorem mem_flush {s : State} (hs : s.IsReached) {d : Disk} {batch : List String}
    (h : (s.flush d).2 = some batch) {p : String} (hp : p ∈ batch) : Path.isXml p = true := by
  unfold flush at h
  split at h
  · cases h
  · obtain rfl := Option.some.inj h
    exact hs.isXml p (List.mem_of_mem_filter hp)

end State

end Watch

/-! ### What is handed over -/

namespace Command

/-- A file that is linted because it has changed: in the working tree, or while a watcher was looking. -/
inductive HandsOver (d : Disk) (project : String) (flag : Dialect) (file : String) : Prop where
  | changed {files : List String} (h : changedDefinitions d project [project] flag = .ok files)
      (hfile : file ∈ files)
  | relinted {s : Watch.State} (hs : s.IsReached) {batch : List String} (h : (s.flush d).2 = some batch)
      (hfile : file ∈ Scan.definitionsAmong d flag batch)

theorem mem_definitionsAmong {d : Disk} {flag : Dialect} {paths : List String} {file : String} :
    file ∈ Scan.definitionsAmong d flag paths ↔
      file ∈ paths ∧ ∃ data, d.read file = .ok data ∧ (Sniff.classify data flag).isSome = true := by
  rw [Scan.definitionsAmong, List.mem_filter, Scan.classifyFile]
  cases d.read file <;> simp

theorem HandsOver.taken {d : Disk} {project : String} {flag : Dialect} {file : String}
    (h : HandsOver d project flag file) :
    Path.isXml file = true ∧ ∃ data, d.read file = .ok data ∧ (Sniff.classify data flag).isSome = true := by
  cases h with
  | changed h hfile =>
    unfold changedDefinitions at h
    split at h
    · cases h
    · split at h
      · cases h
      · obtain rfl := Except.ok.inj h
        obtain ⟨hown, hdata⟩ := mem_definitionsAmong.mp hfile
        have hxml := (List.mem_filter.mp hown).2
        rw [Bool.and_eq_true] at hxml
        exact ⟨hxml.1, hdata⟩
  | relinted hs h hfile =>
    obtain ⟨hbatch, hdata⟩ := mem_definitionsAmong.mp hfile
    exact ⟨Watch.State.mem_flush hs h hbatch, hdata⟩

end Command

/-! ### What a run on the project reports on -/

namespace Lint

open Scan (place listed Selects)

theorem mem_path_addNew {known new : List Candidate} {path : String} :
    path ∈ (addNew known new).map Candidate.path ↔
      path ∈ known.map Candidate.path ∨ path ∈ new.map Candidate.path := by
  unfold addNew
  induction new generalizing known with
  | nil => simp
  | cons c new ih =>
    rw [List.foldl_cons, ih, List.map_cons, List.mem_cons]
    split
    · rename_i h
      obtain ⟨k, hk, hpath⟩ := List.any_eq_true.mp h
      have hmem : c.path ∈ known.map Candidate.path := by
        rw [← beq_iff_eq.mp hpath]
        exact List.mem_map_of_mem hk
      constructor
      · rintro (hp | hp)
        · exact .inl hp
        · exact .inr (.inr hp)
      · rintro (hp | rfl | hp)
        · exact .inl hp
        · exact .inl hmem
        · exact .inr hp
    · simp [or_assoc]

theorem not_selects_root {d : Disk} {given : String} (hfolder : d.isFolder (d.absolute given) = true)
    {dialect : Dialect} {cfg : Config} {e : Entry} {c : Candidate} :
    ¬ Selects ⟨d.read, d.enter⟩ (d.absolute given) dialect cfg ([], e) c := by
  intro hs
  obtain ⟨data, hread, -⟩ := hs.sniffed
  have hplace : place (d.absolute given) [] = d.absolute given :=
    Scan.place_nil (d.isAbsolute_absolute given) (d.clean_absolute given)
  rw [hplace] at hread
  rw [Disk.isFolder, Disk.stat_of_read hread] at hfolder
  cases hfolder

theorem mem_path_run_folder (cache : Option String) {d : Disk} {r : Request} {cfg : Config}
    (hcfg : Config.load d r.project = .ok cfg) {given : String} (hp : r.paths = [d.absolute given])
    (hfolder : d.isFolder (d.absolute given) = true) :
    ∃ e b, d.lstat (d.absolute given) = .ok e ∧
      (run ⟨.standard, cache, false⟩ d r).report = .ok b ∧
      ∀ file, file ∈ b.fileList.map FileReport.path ↔
        ∃ shown, ∃ p ∈ listed ⟨d.read, d.enter⟩ (d.absolute given) e,
          Selects ⟨d.read, d.enter⟩ (d.absolute given) (r.dialectIn cfg) cfg p ⟨file, shown⟩ := by
  obtain ⟨ms, hms⟩ := Disk.exists_stat_of_isFolder hfolder
  obtain ⟨e, he⟩ := Disk.exists_lstat hms
  have hpaths : ∀ path ∈ r.paths, ∃ e, d.stat (d.absolute path) = .ok e := by
    intro path hpath
    rw [hp, List.mem_singleton] at hpath
    rw [hpath, d.absolute_absolute]
    exact ⟨_, hms⟩
  obtain ⟨b, hb, hfiles⟩ := run_eq_batch parseDocument Parts.standard.detect cache hcfg hpaths
  obtain ⟨scanned, hscan⟩ := Scan.exists_run (d.absolute given) (by rwa [d.absolute_absolute])
    (r.dialectIn cfg) cfg
  have hat : r.paths.flatMap (candidatesAt d (r.dialectIn cfg) cfg) = scanned.files := by
    rw [hp, List.flatMap_singleton, candidatesAt, d.absolute_absolute, if_pos hfolder, hscan]
  have hsurvey : Scan.survey ⟨d.read, d.enter⟩ (d.absolute given) (r.dialectIn cfg) cfg e = .ok scanned := by
    rw [← hscan, Scan.run_eq_survey (by rwa [d.absolute_absolute]), d.absolute_absolute]
  refine ⟨e, b, he, hb, fun file => ?_⟩
  have hreported : b.fileList.map FileReport.path = (addNew [] scanned.files).map Candidate.path := by
    rw [hfiles, hat, ← addNew_nil, List.map_map]
    exact List.map_congr_left fun c _ => path_judge _ _ _ _ c
  have hnone : ¬ file ∈ ([] : List Candidate).map Candidate.path := List.not_mem_nil
  rw [hreported, mem_path_addNew, or_iff_right hnone, List.mem_map]
  simp only [Scan.mem_survey_iff hsurvey]
  constructor
  · rintro ⟨c, ⟨p, hmem, hlisted, hs⟩, rfl⟩
    refine ⟨c.dialect, p, ?_, hs⟩
    rcases List.mem_cons.mp hmem with rfl | hmem
    · exact absurd hs (not_selects_root hfolder)
    · exact List.mem_filter.mpr ⟨hmem, by simpa using hlisted⟩
  · rintro ⟨shown, p, hp, hs⟩
    obtain ⟨hmem, hlisted⟩ := List.mem_filter.mp hp
    exact ⟨⟨file, shown⟩, ⟨p, List.mem_cons_of_mem _ hmem, by simpa using hlisted, hs⟩, rfl⟩

end Lint

/-! ### What is missing -/

namespace Scan

/-- What a scan asks of a place whatever the file there holds: that it is no folder, that no folder above it
is pruned, and that neither a glob nor the ignore file leaves it out. -/
structure Keeps (a : Access) (root : String) (cfg : Config) (p : Placed) : Prop where
  notFolder : p.2.isFolder = false
  isOpen : IsOpen a root cfg p.1
  notExcluded : Glob.matchesAny (cfg.excludeGlobs.getD []) (relativePath p.1) = false
  notIgnored : ¬ IsIgnored a root cfg (relativePath p.1)

theorem exists_selects_iff {a : Access} {root : String} {dialect : Dialect} {cfg : Config} {p : Placed}
    {file : String} {data : Bytes} (hxml : Path.isXml file = true) (hread : a.read file = .ok data) :
    (∃ shown, Selects a root dialect cfg p ⟨file, shown⟩) ↔
      file = place root p.1 ∧ Keeps a root cfg p ∧ (Sniff.classify data dialect).isSome = true := by
  constructor
  · rintro ⟨shown, hs⟩
    obtain ⟨data', hread', hsniff⟩ := hs.sniffed
    obtain rfl : file = place root p.1 := hs.path
    obtain rfl := Except.ok.inj (hread.symm.trans hread')
    exact ⟨rfl, ⟨hs.notFolder, hs.isOpen, hs.notExcluded, hs.notIgnored⟩, by rw [hsniff]; rfl⟩
  · rintro ⟨rfl, hk, hsniff⟩
    obtain ⟨shown, hshown⟩ := Option.isSome_iff_exists.mp hsniff
    exact ⟨shown, ⟨hxml, hk.notExcluded, hk.notIgnored, data, hread, hshown⟩, rfl, hk.notFolder, hk.isOpen⟩

end Scan

namespace Command

open Scan (place listed Keeps)

/-- A file that was taken under the flag is taken in the dialect that counts unless none was asked for and
the configured one is the other. -/
theorem isSome_classify_dialectIn {r : Lint.Request} (cfg : Config) {data : Bytes}
    (h : (Sniff.classify data r.dialect).isSome = true) :
    (Sniff.classify data (r.dialectIn cfg)).isSome = true ↔
      (r.dialect = .unset → (r.dialectIn cfg).isOpen = true ∨ Sniff.detect data = some (r.dialectIn cfg)) := by
  by_cases hd : r.dialect = .unset
  · obtain ⟨shown, hshown⟩ := Option.isSome_iff_exists.mp h
    have hopen : r.dialect.isOpen = true := by rw [hd]; decide
    have hdetect := Sniff.detect_of_classify_open hopen hshown
    rw [Sniff.isSome_classify_iff hdetect, hdetect, Option.some_inj]
    simp only [hd, forall_const, eq_comm]
  · have hin : r.dialectIn cfg = r.dialect := if_neg hd
    simp [hin, hd, h]

/-- A changed file is among those that a run on the project reports on if the scan of the project gets to it
and leaves it in, and if the configured dialect is that of the file where none was asked for. -/
theorem handed_over_reported_iff (cache : Option String) {d : Disk} {given : String} {flag : Dialect}
    {cfg : Config} (hcfg : Config.load d (d.absolute given) = .ok cfg)
    (hfolder : d.isFolder (d.absolute given) = true) {file : String}
    (hfile : HandsOver d (d.absolute given) flag file) :
    let project := d.absolute given
    let r : Lint.Request := ⟨project, [project], flag⟩
    ∃ e b data, d.lstat project = .ok e ∧ d.read file = .ok data ∧
      (Lint.run ⟨.standard, cache, false⟩ d r).report = .ok b ∧
      (file ∈ b.fileList.map FileReport.path ↔
        (∃ p ∈ listed ⟨d.read, d.enter⟩ project e,
          file = place project p.1 ∧ Keeps ⟨d.read, d.enter⟩ project cfg p) ∧
        (flag = .unset → (r.dialectIn cfg).isOpen = true ∨ Sniff.detect data = some (r.dialectIn cfg))) := by
  intro project r
  obtain ⟨hxml, data, hread, htaken⟩ := hfile.taken
  obtain ⟨e, b, he, hb, hreported⟩ := Lint.mem_path_run_folder cache (r := r) hcfg rfl hfolder
  refine ⟨e, b, data, he, hread, hb, ?_⟩
  rw [hreported, ← isSome_classify_dialectIn (r := r) cfg htaken]
  constructor
  · rintro ⟨shown, p, hp, hs⟩
    obtain ⟨hpath, hkeeps, hsniff⟩ := (Scan.exists_selects_iff hxml hread).mp ⟨shown, hs⟩
    exact ⟨⟨p, hp, hpath, hkeeps⟩, hsniff⟩
  · rintro ⟨⟨p, hp, hpath, hkeeps⟩, hsniff⟩
    obtain ⟨shown, hs⟩ := (Scan.exists_selects_iff hxml hread).mpr ⟨hpath, hkeeps, hsniff⟩
    exact ⟨shown, p, hp, hs⟩

/-- With the dialect of the flag a file is taken up as a run on the project does, whatever is configured. -/
theorem handed_over_reported_flag :
    let d : Disk := { root := .folder [("p", .folder [(".moqlint.yaml", .file (utf8 "dialect: entity")),
      ("a.xml", .file (utf8 "<services/>"))])] }
    HandsOver d "/p" .service "/p/a.xml" ∧
      ∃ b, (Lint.run {} d ⟨"/p", ["/p"], .service⟩).report = .ok b ∧
        "/p/a.xml" ∈ b.fileList.map FileReport.path := by
  intro d
  have hstart : Watch.start d "/p" = .ok { watched := ["/p"] } := by decide +kernel
  have hs := (Watch.State.IsReached.started hstart).noticed d "/p/a.xml" { written := true }
  have hfile : HandsOver d "/p" .service "/p/a.xml" := .relinted hs rfl (by decide +kernel)
  have habs : d.absolute "/p" = "/p" := by decide +kernel
  have hcfg : Config.load d (d.absolute "/p") = .ok { dialect := Text.ofString "entity" } := by decide +kernel
  have hfolder : d.isFolder (d.absolute "/p") = true := by decide +kernel
  obtain ⟨e, b, data, he, -, hb, hiff⟩ := handed_over_reported_iff none hcfg hfolder (habs.symm ▸ hfile)
  rw [habs] at he hb hiff
  obtain rfl : .folder [(".moqlint.yaml", .file (utf8 "dialect: entity")), ("a.xml", .file (utf8 "<services/>"))] =
      e := Except.ok.inj he
  refine ⟨hfile, b, hb, hiff.mpr ⟨⟨(["a.xml"], .file (utf8 "<services/>")), ?_, by decide +kernel, ?_⟩, nofun⟩⟩
  · exact List.mem_filter.mpr ⟨by simp [Entry.entries, Entry.entriesOf], by decide +kernel⟩
  · exact ⟨rfl, by decide +kernel, by decide +kernel, by decide +kernel⟩

/-- A file of the other dialect is taken up although the project is configured for one dialect. -/
theorem relinted_dialect_fails :
    let d : Disk := { root := .folder [("p", .folder [(".moqlint.yaml", .file (utf8 "dialect: entity")),
      ("a.xml", .file (utf8 "<services/>"))])] }
    HandsOver d "/p" .unset "/p/a.xml" ∧
      (Lint.run {} d ⟨"/p", ["/p"], .unset⟩).report.map (fun b => b.fileList.map FileReport.path) = .ok [] := by
  intro d
  have hstart : Watch.start d "/p" = .ok { watched := ["/p"] } := by decide +kernel
  have hs := (Watch.State.IsReached.started hstart).noticed d "/p/a.xml" { written := true }
  exact ⟨.relinted hs rfl (by decide +kernel), by decide +kernel⟩

end Command

end MoquiLint
