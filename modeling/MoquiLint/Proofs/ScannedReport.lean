import MoquiLint.Proofs.Candidates

/-!
# Scanned or named

A scan takes the dialect of a file from its first bytes, a run on the file itself takes it from the root
element. The reports agree where the two dialects do, and nowhere else.
-/
namespace MoquiLint

namespace Sniff

theorem detect_cases {data : Bytes} {shown : Dialect} (h : detect data = some shown) :
    shown = .entity ∨ shown = .service := by
  unfold detect at h
  simp only at h
  split at h
  · exact .inl (Option.some.inj h).symm
  · split at h
    · exact .inr (Option.some.inj h).symm
    · cases h

theorem detect_of_classify_open {data : Bytes} {d shown : Dialect} (ho : d.isOpen = true)
    (h : classify data d = some shown) : detect data = some shown := by
  unfold classify at h
  split at h
  · rename_i k hk
    rw [ho, Bool.true_or, if_pos rfl] at h
    rw [hk, h]
  · rw [ho, if_pos rfl] at h
    cases h

end Sniff

theorem Rules.evaluate_auto {root : Markup.Node} {d : Dialect} (h : Dialect.forRoot? root.tag = some d) :
    evaluate (some root) .auto = evaluate (some root) d := by
  obtain ⟨kind, hk, rfl⟩ := Option.map_eq_some_iff.mp h
  have ho : Dialect.isOpen .auto = true := by decide
  have hd : Dialect.isOpen (.ofKind kind) = false := by cases kind <;> decide
  have hkind : Dialect.kind? (.ofKind kind) = some kind := by cases kind <;> decide
  simp [evaluate, ho, hd, hkind, hk]

theorem Disk.stat_of_read {d : Disk} {path : String} {data : Bytes} (h : d.read path = .ok data) :
    d.stat path = .ok (.file data) := by
  unfold read at h
  unfold stat
  split at h
  · rename_i content he
    obtain rfl := Except.ok.inj h
    rw [he, fail]
  · cases h
  · cases h
  · cases h

namespace Lint

open Scan (place)

theorem absolute_place (d : Disk) (path : String) (names : List String) :
    d.absolute (place (d.absolute path) names) = place (d.absolute path) names := by
  obtain ⟨q, hq, he⟩ := Path.join_eq_clean (d.isAbsolute_absolute path) names
  rw [place, he, d.absolute_clean hq]

/-- A file that shows a dialect is judged for it as for an open request if its root element has that
dialect, too, or if there is no root element. -/
theorem judge_auto_iff {d : Disk} {skip : List String} {path : String} {data : Bytes} {shown : Dialect}
    (hr : d.read path = .ok data) (hs : Sniff.detect data = some shown) :
    (judge .standard d skip none ⟨path, .auto⟩).report = (judge .standard d skip none ⟨path, shown⟩).report ↔
      ∀ root, Markup.parse path data = .ok root → Dialect.forRoot? root.tag = some shown := by
  have hne : shown ≠ .auto := by
    rcases Sniff.detect_cases hs with rfl | rfl <;> decide
  have hsettle : ∀ other, settle shown other = shown := fun other => if_neg hne
  have hauto : ∀ other, settle .auto other = other.getD .auto := fun other => if_pos rfl
  cases hp : Markup.parse path data with
  | error e => simp [judge, hr, Parts.standard, parseDocument, hp, hs, hsettle, hauto]
  | ok root =>
    simp only [judge, hr, Option.bind_none, Parts.standard, parseDocument, hp, hsettle, hauto,
      FileReport.mk.injEq, Except.ok.injEq, forall_eq', true_and, and_true]
    constructor
    · rintro ⟨hd, -⟩
      cases hroot : Dialect.forRoot? root.tag with
      | none => exact absurd (by simpa [hroot] using hd.symm) hne
      | some d => simpa [hroot] using hd
    · intro hroot
      rw [hroot, Rules.evaluate_auto hroot]
      exact ⟨rfl, rfl⟩

/-- What a run on a directory reports on a file is what a run on the file alone reports, unless the file is
parsed and the dialect that its first bytes show is not that of its root element. -/
theorem report_of_scanned {d : Disk} {project folder : String}
    (hfolder : d.isFolder (d.absolute folder) = true) {b : BatchReport}
    (hb : (run {} d ⟨project, [folder], .auto⟩).report = .ok b) {f : FileReport} (hf : f ∈ b.fileList) :
    ∃ b' f', (run {} d ⟨project, [f.path], .auto⟩).report = .ok b' ∧ b'.fileList = [f'] ∧
      (f' = f ↔ ∀ data root, d.read f.path = .ok data → Markup.parse f.path data = .ok root →
        Dialect.forRoot? root.tag = Sniff.detect data) := by
  obtain ⟨cfg, cs, hcfg, hcs, c, hc, hj⟩ := mem_fileList_run hb hf
  have hset : Dialect.auto ≠ .unset := by decide
  have hin : ∀ paths, (⟨project, paths, .auto⟩ : Request).dialectIn cfg = .auto := fun paths => if_neg hset
  rw [hin] at hcs
  rcases candidate_cases hcs hc with ⟨path, hp, hno, -⟩ | ⟨path, hp, names, data, hpath, hread, hs⟩
  · obtain rfl := List.mem_singleton.mp hp
    rw [hno] at hfolder
    cases hfolder
  · have hd := Sniff.detect_of_classify_open (by decide) hs
    have hfull : d.absolute c.path = c.path := by rw [hpath, absolute_place]
    have hfpath : f.path = c.path := by rw [hj, path_judge]
    have hstat : d.stat (d.absolute f.path) = .ok (.file data) := by
      rw [hfpath, hfull, Disk.stat_of_read hread]
    obtain ⟨b', hb', hf'⟩ := run_file (p := .standard) (r := ⟨project, [f.path], .auto⟩) hcfg rfl hstat rfl
    rw [hfpath, hfull, hin] at hf'
    refine ⟨b', _, hb', hf', ?_⟩
    rw [hj, judge_auto_iff hread hd, path_judge]
    constructor
    · intro h data' root hr hp
      obtain rfl := Except.ok.inj (hread.symm.trans hr)
      rw [h root hp, hd]
    · intro h root hp
      rw [h data root hread hp, hd]

theorem report_of_scanned_entities :
    let d : Disk := { root := .folder [("p", .folder [("a.xml", .file (utf8 "<entities/>"))])] }
    ∃ b f, (run {} d ⟨"/p", ["/p"], .auto⟩).report = .ok b ∧ b.fileList = [f] ∧
      ∃ b', (run {} d ⟨"/p", [f.path], .auto⟩).report = .ok b' ∧ b'.fileList = [f] := by
  intro d
  have hfolder : d.isFolder (d.absolute "/p") = true := by decide +kernel
  have hpaths : (run {} d ⟨"/p", ["/p"], .auto⟩).report.map (fun b => b.fileList.map FileReport.path) =
      .ok ["/p/a.xml"] := by decide +kernel
  have hroot : ∀ data ∈ (d.read "/p/a.xml").toOption, ∀ root ∈ (Markup.parse "/p/a.xml" data).toOption,
      Dialect.forRoot? root.tag = Sniff.detect data := by decide +kernel
  cases hb : (run {} d ⟨"/p", ["/p"], .auto⟩).report with
  | error e => simp [hb, Except.map] at hpaths
  | ok b =>
    obtain ⟨f, hf, hpath⟩ : ∃ f, b.fileList = [f] ∧ f.path = "/p/a.xml" := by
      simpa [hb, Except.map] using hpaths
    obtain ⟨b', f', hb', hf', hsame⟩ := report_of_scanned hfolder hb (hf ▸ List.mem_cons_self)
    refine ⟨b, f, rfl, hf, b', hb', ?_⟩
    rw [hf', hsame.mpr ?_]
    intro data root hr hp
    rw [hpath] at hr hp
    exact hroot data (by simp [hr, Except.toOption]) root (by simp [hp, Except.toOption])

/-- A comment that names the other root element makes a scan take a file for the other dialect. -/
theorem scanned_comment_fails :
    let content := utf8 ("<!-- <entities> --><services " ++
      "xsi:noNamespaceSchemaLocation='http://moqui.org/xsd/service-definition-3.xsd'/>")
    let d : Disk := { root := .folder [("p", .folder [("a.xml", .file content)])] }
    let reports (path : String) := (run {} d ⟨"/p", [path], .auto⟩).report.map fun b =>
      b.fileList.map fun f => (f.path, f.dialect, f.passed)
    reports "/p" = .ok [("/p/a.xml", .entity, false)] ∧
      reports "/p/a.xml" = .ok [("/p/a.xml", .service, true)] ∧
      Sniff.detect content = some .entity ∧
      ((Markup.parse "/p/a.xml" content).toOption.map fun root => Dialect.forRoot? root.tag) =
        some (some .service) := by
  decide +kernel

end Lint

end MoquiLint
