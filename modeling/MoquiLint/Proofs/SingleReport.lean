import MoquiLint.Proofs.BatchOrder
import MoquiLint.Proofs.ScannedReport
import MoquiLint.Server.Tool

/-!
# The report on a single path

A path that is asked for on its own is reported on if it is no folder. For a folder the report is that on the first of
the files a scan finds in it, and never one on the folder.
-/
namespace MoquiLint

namespace Lint

theorem head?_addNew {known : List Candidate} (h : known ≠ []) (new : List Candidate) :
    (addNew known new).head? = known.head? := by
  unfold addNew
  induction new generalizing known with
  | nil => rfl
  | cons c new ih =>
    rw [List.foldl_cons]
    split
    · exact ih h
    · rw [ih (by simp), List.head?_append_of_ne_nil _ h]

theorem head?_addNew_nil (new : List Candidate) : (addNew [] new).head? = new.head? := by
  cases new with
  | nil => rfl
  | cons c new =>
    have hone : addNew [] (c :: new) = addNew [c] new := rfl
    rw [hone, head?_addNew (List.cons_ne_nil c [])]
    rfl

theorem single_eq_ok {o : Outcome} {f : FileReport} (h : o.single = .ok f) :
    ∃ b rest, o.report = .ok b ∧ b.fileList = f :: rest := by
  unfold Outcome.single at h
  split at h
  · cases h
  · rename_i b hb
    split at h
    · cases h
    · rename_i g rest hfiles
      obtain rfl := Except.ok.inj h
      exact ⟨b, rest, hb, hfiles⟩

section
variable (parse : String → Bytes → Except ParseFault Markup.Node)
  (detect : Disk → String → List String → Except Text (List Component)) (cache : Option String) (canceled : Bool)
  {d : Disk} {project path : String} {dialect : Dialect} {f : FileReport}

/-- The report on a single path is that on the first candidate it stands for. -/
theorem exists_first_of_single
    (hf : (run ⟨⟨scanDisk, parse, detect⟩, cache, canceled⟩ d ⟨project, [path], dialect⟩).single = .ok f) :
    ∃ cfg c, Config.load d project = .ok cfg ∧
      (candidatesAt d (Request.dialectIn ⟨project, [path], dialect⟩ cfg) cfg path).head? = some c ∧
      f.path = c.path := by
  obtain ⟨b, rest, hb, hfiles⟩ := single_eq_ok hf
  obtain ⟨report, hempty, hrun⟩ | ⟨cfg, cs, hcfg, hcs, hrun⟩ :=
    run_cases ⟨scanDisk, parse, detect⟩ canceled d ⟨project, [path], dialect⟩
  · rw [(hrun cache).1] at hb
    rw [hempty b hb] at hfiles
    cases hfiles
  · obtain ⟨components, hreport⟩ := lintAll_report ⟨⟨scanDisk, parse, detect⟩, cache, canceled⟩ d project
      (Request.dialectIn ⟨project, [path], dialect⟩ cfg) cfg cs
    obtain rfl := Except.ok.inj (hb.symm.trans ((hrun cache).1.trans hreport))
    cases cs with
    | nil => cases hfiles
    | cons c cs =>
      obtain ⟨rfl, -⟩ := List.cons.inj hfiles
      have hall := hcs.symm.trans (collect_eq _ cfg parse detect (exists_stat_of_collect hcs) [])
      refine ⟨cfg, c, hcfg, ?_, path_judge _ _ _ _ c⟩
      rw [← List.flatMap_singleton (candidatesAt d _ cfg) path, ← head?_addNew_nil, ← Except.ok.inj hall, List.head?_cons]

theorem path_ne_of_mem_candidatesAt {cfg : Config} (hfolder : d.isFolder (d.absolute path) = true) {c : Candidate}
    (hc : c ∈ candidatesAt d dialect cfg path) : c.path ≠ d.absolute path := by
  intro he
  unfold candidatesAt at hc
  rw [if_pos hfolder] at hc
  split at hc
  · rename_i found hfound
    obtain ⟨-, data, -, hread, -⟩ := scanned_of_mem_run hfound hc
    have hstat := Disk.stat_of_read hread
    rw [he] at hstat
    simp [Disk.isFolder, hstat, Entry.isFolder] at hfolder
  · cases hc

/-- What is reported on a single path is that path unless it leads to a folder. -/
theorem path_of_single
    (hf : (run ⟨⟨scanDisk, parse, detect⟩, cache, canceled⟩ d ⟨project, [path], dialect⟩).single = .ok f) :
    f.path = d.absolute path ↔ d.isFolder (d.absolute path) = false := by
  obtain ⟨cfg, c, -, hfirst, hpath⟩ := exists_first_of_single parse detect cache canceled hf
  rw [hpath]
  cases hfolder : d.isFolder (d.absolute path) with
  | true => simpa using path_ne_of_mem_candidatesAt hfolder (List.mem_of_head? hfirst)
  | false =>
    rw [candidatesAt, if_neg (by simp [hfolder])] at hfirst
    obtain rfl := Option.some.inj hfirst
    simp

end

end Lint

namespace Server

open Lint

/-- An answer of the tool that is no failure is the report of a run on the path that was asked for. -/
theorem exists_single_of_call {d : Disk} {project : String} {args : Json}
    (h : (Tool.lintFile.call d project args).1.isError = false) :
    ∃ text dialect f, requiredText args "path" = .ok text ∧ dialectOf args = .ok dialect ∧
      (run {} d ⟨project, [resolve project (Text.toString text)], dialect⟩).single = .ok f ∧
      (Tool.lintFile.call d project args).1 = .value f.toJson := by
  unfold Tool.call at h ⊢
  cases htext : requiredText args "path" with
  | error e => simp [htext, ToolResult.failure] at h
  | ok text =>
    cases hdialect : dialectOf args with
    | error e => simp [htext, hdialect, ToolResult.failure] at h
    | ok dialect =>
      cases hsingle : (run {} d ⟨project, [resolve project (Text.toString text)], dialect⟩).single with
      | error e => simp [htext, hdialect, hsingle, lintFailure, ToolResult.failure] at h
      | ok f => exact ⟨text, dialect, f, rfl, rfl, hsingle, by simp [hsingle]⟩

/-- A report on a single path, also one that the tool answers with, is on that path if and only if the path does not
lead to a folder. For a folder it is on the first of the files that a scan finds in it. -/
theorem single_report_path (parse : String → Bytes → Except ParseFault Markup.Node)
    (detect : Disk → String → List String → Except Text (List Component)) (cache : Option String) (canceled : Bool)
    (d : Disk) :
    (∀ project path dialect f,
        (run ⟨⟨scanDisk, parse, detect⟩, cache, canceled⟩ d ⟨project, [path], dialect⟩).single = .ok f →
        (f.path = d.absolute path ↔ d.isFolder (d.absolute path) = false) ∧
          (d.isFolder (d.absolute path) = true → ∃ cfg found first others, Config.load d project = .ok cfg ∧
            Scan.run d (d.absolute path) (Request.dialectIn ⟨project, [path], dialect⟩ cfg) cfg = .ok found ∧
            found.files = first :: others ∧ f.path = first.path)) ∧
      ∀ project args, (Tool.lintFile.call d project args).1.isError = false →
        ∃ text, ∃ f : FileReport, requiredText args "path" = .ok text ∧ (Tool.lintFile.call d project args).1 = .value f.toJson ∧
          (f.path = d.absolute (resolve project (Text.toString text)) ↔
            d.isFolder (d.absolute (resolve project (Text.toString text))) = false) := by
  constructor
  · intro project path dialect f hf
    refine ⟨path_of_single parse detect cache canceled hf, fun hfolder => ?_⟩
    obtain ⟨cfg, c, hcfg, hfirst, hpath⟩ := exists_first_of_single parse detect cache canceled hf
    obtain ⟨found, hfound⟩ := Scan.exists_run (d.absolute path) ((d.absolute_absolute path).symm ▸ hfolder)
      (Request.dialectIn ⟨project, [path], dialect⟩ cfg) cfg
    rw [candidatesAt, if_pos hfolder, hfound] at hfirst
    obtain ⟨others, hfiles⟩ := List.head?_eq_some_iff.mp hfirst
    exact ⟨cfg, found, c, others, hcfg, hfound, hfiles, hpath⟩
  · intro project args h
    obtain ⟨text, dialect, f, htext, -, hf, hanswer⟩ := exists_single_of_call h
    exact ⟨text, f, htext, hanswer, path_of_single parseDocument Parts.standard.detect none false hf⟩

theorem single_report_path_file :
    let d : Disk := { root := .folder [("p", .folder [("x", .folder [("a.xml", .file (utf8 "<entities/>"))])])] }
    let args : Json := .obj [("path", .string "x/a.xml")]
    (Tool.lintFile.call d "/p" args).1.isError = false ∧
      (∃ f : FileReport, (Tool.lintFile.call d "/p" args).1 = .value f.toJson ∧ f.path = "/p/x/a.xml") ∧
      ∃ f, (run {} d ⟨"/p", ["/p/x/a.xml"], .auto⟩).single = .ok f ∧ f.path = "/p/x/a.xml" := by
  intro d args
  have hanswers : (Tool.lintFile.call d "/p" args).1.isError = false := by decide +kernel
  have hpath : requiredText args "path" = .ok (Text.ofString "x/a.xml") := by decide +kernel
  have hfull : d.absolute (resolve "/p" (Text.toString (Text.ofString "x/a.xml"))) = "/p/x/a.xml" := by decide +kernel
  have habsolute : d.absolute "/p/x/a.xml" = "/p/x/a.xml" := by decide +kernel
  have hplain : d.isFolder "/p/x/a.xml" = false := by decide +kernel
  obtain ⟨hsingle, htool⟩ := single_report_path parseDocument Parts.standard.detect none false d
  obtain ⟨text, f, htext, hanswer, hiff⟩ := htool "/p" args hanswers
  obtain rfl := Except.ok.inj (hpath.symm.trans htext)
  rw [hfull] at hiff
  refine ⟨hanswers, ⟨f, hanswer, hiff.mpr hplain⟩, ?_⟩
  have hreports : (run {} d ⟨"/p", ["/p/x/a.xml"], .auto⟩).single.toBool = true := by decide +kernel
  cases hg : (run {} d ⟨"/p", ["/p/x/a.xml"], .auto⟩).single with
  | error e => simp [hg, Except.toBool] at hreports
  | ok g =>
    have hiff' := (hsingle "/p" "/p/x/a.xml" .auto g hg).1
    rw [habsolute] at hiff'
    exact ⟨g, rfl, hiff'.mpr hplain⟩

/-- A folder is reported on as a file in it. -/
theorem single_report_path_fails :
    let d : Disk := { root := .folder [("p", .folder [("x", .folder [("a.xml", .file (utf8 "<entities/>"))])])] }
    let args : Json := .obj [("path", .string "x"), ("dialect", .string "entity")]
    d.absolute (resolve "/p" "x") = "/p/x" ∧
      ∃ f : FileReport, (run {} d ⟨"/p", ["/p/x"], .entity⟩).single = .ok f ∧
        (Tool.lintFile.call d "/p" args).1 = .value f.toJson ∧ f.path = "/p/x/a.xml" := by
  intro d args
  have hanswers : (Tool.lintFile.call d "/p" args).1.isError = false := by decide +kernel
  have hpath : requiredText args "path" = .ok (Text.ofString "x") := by decide +kernel
  have hdialect : dialectOf args = .ok .entity := by decide +kernel
  have hfull : resolve "/p" (Text.toString (Text.ofString "x")) = "/p/x" := by decide +kernel
  obtain ⟨text, dialect, f, htext, hdialect', hf, hanswer⟩ := exists_single_of_call hanswers
  obtain rfl := Except.ok.inj (hpath.symm.trans htext)
  obtain rfl := Except.ok.inj (hdialect.symm.trans hdialect')
  rw [hfull] at hf
  have hreported : (run {} d ⟨"/p", ["/p/x"], .entity⟩).single.map FileReport.path = .ok "/p/x/a.xml" := by
    decide +kernel
  rw [hf] at hreported
  exact ⟨by decide +kernel, f, hf, hanswer, Except.ok.inj hreported⟩

end Server

end MoquiLint
