import MoquiLint.Proofs.Incremental

/-!
# Globs and scanned directories

Globs of files to leave out are matched against paths relative to the directory that is scanned. A run on a
directory below the project scans that directory, so there a glob of the project can miss a file that it
leaves out of a run on the whole project.
-/
namespace MoquiLint

/-! ### Well-formed disks -/

namespace Entry

theorem IsTree.of_lookup {ms : List (String × Entry)} (h : (Entry.folder ms).IsTree) {n : String} {e : Entry}
    (hl : ms.lookup n = some e) : e.IsTree := by
  cases h with
  | folder _ _ members =>
    obtain ⟨before, after, hms, -⟩ := List.lookup_eq_some_iff.mp hl
    exact members (n, e) (by simp [hms])

theorem IsTree.of_at? {e f : Entry} (h : e.IsTree) {place : List String} (hf : e.at? place = some f) :
    f.IsTree := by
  induction place generalizing e with
  | nil =>
    obtain rfl := Option.some.inj hf
    exact h
  | cons n place ih =>
    cases e with
    | folder ms =>
      rw [at?_cons_folder, Option.bind_eq_some_iff] at hf
      obtain ⟨g, hg, hf⟩ := hf
      exact ih (h.of_lookup hg) hf
    | file | link | socket => cases hf

end Entry

theorem Disk.isTree_of_lstat {d : Disk} (h : d.root.IsTree) {path : String} {e : Entry}
    (he : d.lstat path = .ok e) : e.IsTree := by
  obtain ⟨p, hp⟩ := entryAt_eq_ok.mp (fail_eq_ok.mp he)
  have hat : d.root.at? p = some e := (entry_of_locate hp).symm
  exact h.of_at? hat

/-! ### Globs among the criteria of a scan -/

def Config.withoutGlobs (c : Config) : Config := { c with excludeGlobs := none }

namespace Scan

/-- A scan selects what it would select without globs and no glob matches. -/
theorem selects_iff_withoutGlobs {a : Access} {root : String} {dialect : Dialect} {cfg : Config} {p : Placed}
    {f : Candidate} : Selects a root dialect cfg p f ↔
      Selects a root dialect cfg.withoutGlobs p f ∧
        Glob.matchesAny (cfg.excludeGlobs.getD []) (relativePath p.1) = false := by
  constructor
  · intro h
    exact ⟨⟨⟨h.isXml, rfl, h.notIgnored, h.sniffed⟩, h.path, h.notFolder, h.isOpen⟩, h.notExcluded⟩
  · rintro ⟨h, hg⟩
    exact ⟨⟨h.isXml, hg, h.notIgnored, h.sniffed⟩, h.path, h.notFolder, h.isOpen⟩

end Scan

namespace Lint

open Scan (place listed relativePath Selects)

/-- A file below a scanned directory is reported if the scan would select it without globs and no glob matches
its path relative to that directory. -/
theorem mem_path_run_iff (cache : Option String) {d : Disk} (ht : d.root.IsTree) {r : Request} {cfg : Config}
    (hcfg : Config.load d r.project = .ok cfg) {given : String} (hp : r.paths = [d.absolute given])
    (hfolder : d.isFolder (d.absolute given) = true) :
    ∃ e b, d.lstat (d.absolute given) = .ok e ∧
      (run ⟨.standard, cache, false⟩ d r).report = .ok b ∧
      ∀ names, (∀ n ∈ names, Path.IsName n) →
        (place (d.absolute given) names ∈ b.fileList.map FileReport.path ↔
          (∃ shown, ∃ p ∈ listed ⟨d.read, d.enter⟩ (d.absolute given) e, p.1 = names ∧
            Selects ⟨d.read, d.enter⟩ (d.absolute given) (r.dialectIn cfg) cfg.withoutGlobs p
              ⟨place (d.absolute given) names, shown⟩) ∧
          Glob.matchesAny (cfg.excludeGlobs.getD []) (relativePath names) = false) := by
  obtain ⟨e, b, he, hb, hreported⟩ := mem_path_run_folder cache hcfg hp hfolder
  have habs := d.isAbsolute_absolute given
  have hclean := d.clean_absolute given
  refine ⟨e, b, he, hb, fun names hnames => ?_⟩
  rw [hreported]
  constructor
  · rintro ⟨shown, p, hp, hs⟩
    have hlisted := Scan.of_mem_listed habs hclean (Disk.isTree_of_lstat ht he) hp
    obtain rfl := Scan.place_injective habs hclean hnames hlisted.2.1 hs.path
    obtain ⟨hs, hg⟩ := Scan.selects_iff_withoutGlobs.mp hs
    exact ⟨⟨shown, p, hp, rfl, hs⟩, hg⟩
  · rintro ⟨⟨shown, p, hp, rfl, hs⟩, hg⟩
    exact ⟨shown, p, hp, Scan.selects_iff_withoutGlobs.mpr ⟨hs, hg⟩⟩

/-- A file that a glob of the project leaves out is not reported by a run on the project. A run on a directory
on the way to it reports the file nevertheless, if its scan would select it without globs and no glob matches
the path relative to that directory. -/
theorem excluded_reported_iff (cache : Option String) {d : Disk} (ht : d.root.IsTree) {given : String}
    {flag : Dialect} {cfg : Config} (hcfg : Config.load d (d.absolute given) = .ok cfg)
    (hproject : d.isFolder (d.absolute given) = true) {dirs names : List String}
    (hdirs : ∀ n ∈ dirs, Path.IsName n) (hnames : ∀ n ∈ names, Path.IsName n)
    (hfolder : d.isFolder (place (d.absolute given) dirs) = true)
    (hglob : Glob.matchesAny (cfg.excludeGlobs.getD []) (relativePath (dirs ++ names)) = true) :
    let project := d.absolute given
    let folder := place project dirs
    let file := place project (dirs ++ names)
    let r : Request := ⟨project, [folder], flag⟩
    ∃ e whole part, d.lstat folder = .ok e ∧
      (run ⟨.standard, cache, false⟩ d ⟨project, [project], flag⟩).report = .ok whole ∧
      (run ⟨.standard, cache, false⟩ d r).report = .ok part ∧
      file ∉ whole.fileList.map FileReport.path ∧
      (file ∈ part.fileList.map FileReport.path ↔
        (∃ shown, ∃ p ∈ listed ⟨d.read, d.enter⟩ folder e, p.1 = names ∧
          Selects ⟨d.read, d.enter⟩ folder (r.dialectIn cfg) cfg.withoutGlobs p ⟨file, shown⟩) ∧
        Glob.matchesAny (cfg.excludeGlobs.getD []) (relativePath names) = false) := by
  intro project folder file r
  have habs := d.isAbsolute_absolute given
  have hclean : Path.clean project = project := by
    obtain ⟨q, hq, hc⟩ := d.absolute_eq_clean given
    rw [show project = _ from hc, Path.clean_clean hq]
  have hfile : place folder names = file := Scan.place_place habs hclean hdirs hnames
  have hall : ∀ n ∈ dirs ++ names, Path.IsName n := by
    simpa [or_imp, forall_and] using And.intro hdirs hnames
  have hown : d.absolute folder = folder := absolute_place d given dirs
  obtain ⟨_, whole, _, hwhole, hin⟩ := @mem_path_run_iff cache d ht ⟨project, [project], flag⟩ cfg hcfg given rfl hproject
  have hpaths : r.paths = [d.absolute folder] := by rw [hown]
  have hopen : d.isFolder (d.absolute folder) = true := by
    rw [hown]
    exact hfolder
  obtain ⟨e, part, he, hpart, hbelow⟩ := @mem_path_run_iff cache d ht r cfg hcfg folder hpaths hopen
  rw [hown] at he hbelow
  -- one run finds the file at `dirs ++ names`, the other one at `names`
  refine ⟨e, whole, part, he, hwhole, hpart, ?_, ?_⟩
  · rw [hin (dirs ++ names) hall, hglob]
    simp
  · rw [← hfile]
    exact hbelow names hnames

/-- A glob that matches relative to both directories leaves the file out of both runs. -/
theorem excluded_reported_both :
    let d : Disk := { root := .folder [("p", .folder [
      (".moqlint.yaml", .file (utf8 "exclude_globs: ['sub/a.xml', '**/b.xml']")),
      ("sub", .folder [("a.xml", .file (utf8 "<services/>")), ("b.xml", .file (utf8 "<services/>"))])])] }
    ∃ whole part, (run {} d ⟨"/p", ["/p"], .auto⟩).report = .ok whole ∧
      (run {} d ⟨"/p", ["/p/sub"], .auto⟩).report = .ok part ∧
      "/p/sub/b.xml" ∉ whole.fileList.map FileReport.path ∧
      "/p/sub/b.xml" ∉ part.fileList.map FileReport.path := by
  intro d
  have ht : d.root.IsTree := by decide +kernel
  have habs : d.absolute "/p" = "/p" := by decide +kernel
  have hcfg : Config.load d (d.absolute "/p") = .ok { Config.standard with
      excludeGlobs := some [Text.ofString "sub/a.xml", Text.ofString "**/b.xml"] } := by decide +kernel
  have hdirs : ∀ n ∈ ["sub"], Path.IsName n := by decide +kernel
  have hnames : ∀ n ∈ ["b.xml"], Path.IsName n := by decide +kernel
  obtain ⟨_, whole, part, -, hwhole, hpart, hout, hiff⟩ := @excluded_reported_iff none d ht "/p" .auto _ hcfg
    (by decide +kernel) _ _ hdirs hnames (by decide +kernel) (by decide +kernel)
  have hsub : place (d.absolute "/p") ["sub"] = "/p/sub" := by decide +kernel
  have hfile : place (d.absolute "/p") (["sub"] ++ ["b.xml"]) = "/p/sub/b.xml" := by decide +kernel
  rw [hfile] at hout hiff
  rw [habs] at hwhole
  rw [hsub, habs] at hpart
  refine ⟨whole, part, hwhole, hpart, hout, fun hin => ?_⟩
  exact absurd (hiff.mp hin).2 (by decide +kernel)

/-- A run on a subdirectory reports a file that a glob of the project leaves out. -/
theorem excluded_below_fails :
    let d : Disk := { root := .folder [("p", .folder [
      (".moqlint.yaml", .file (utf8 "exclude_globs: ['sub/a.xml', '**/b.xml']")),
      ("sub", .folder [("a.xml", .file (utf8 "<services/>")), ("b.xml", .file (utf8 "<services/>"))])])] }
    (Config.load d "/p").toOption.map (fun cfg =>
        Glob.matchesAny (cfg.excludeGlobs.getD []) (relativePath ["sub", "a.xml"])) = some true ∧
      (run {} d ⟨"/p", ["/p"], .auto⟩).report.map (fun b => b.fileList.map FileReport.path) = .ok [] ∧
      (run {} d ⟨"/p", ["/p/sub"], .auto⟩).report.map (fun b => b.fileList.map FileReport.path) =
        .ok ["/p/sub/a.xml"] := by
  decide +kernel

end Lint

end MoquiLint
