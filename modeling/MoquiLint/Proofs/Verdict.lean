import Mathlib.Algebra.BigOperators.Group.List.Basic
import MoquiLint.Command.Run

/-!
# The verdict on a batch

Counts add up, so that those of a batch are the sum over its files, in whatever order and in whatever parts
they are counted. A batch passes if it has files and each of them was parsed and has no issue; the verdict of
a command, its failure and the recorded run say the same.
-/
namespace MoquiLint

namespace Totals

instance : Zero Totals := ⟨{}⟩

instance : Add Totals where
  add s t := {
    files := s.files + t.files
    failed := s.failed + t.failed
    parseErrors := s.parseErrors + t.parseErrors
    issues := s.issues + t.issues
    suggestions := s.suggestions + t.suggestions }

@[ext] theorem ext {s t : Totals} (files : s.files = t.files) (failed : s.failed = t.failed)
    (parseErrors : s.parseErrors = t.parseErrors) (issues : s.issues = t.issues)
    (suggestions : s.suggestions = t.suggestions) : s = t := by
  cases s
  cases t
  simp_all

theorem zero_def : (0 : Totals) = {} := rfl

theorem add_def (s t : Totals) : s + t = ⟨s.files + t.files, s.failed + t.failed, s.parseErrors + t.parseErrors,
    s.issues + t.issues, s.suggestions + t.suggestions⟩ := rfl

instance : AddCommMonoid Totals where
  add_assoc s t u := by ext <;> exact Int.add_assoc _ _ _
  zero_add t := by ext <;> exact Int.zero_add _
  add_zero t := by ext <;> exact Int.add_zero _
  add_comm s t := by ext <;> exact Int.add_comm _ _
  nsmul := nsmulRec

def ofFile (f : FileReport) : Totals := Totals.count 0 f

theorem count_eq_add (t : Totals) (f : FileReport) : t.count f = t + ofFile f := by
  simp only [ofFile, count, zero_def, add_def, Int.zero_add]

theorem foldl_count (fs : List FileReport) (t : Totals) :
    fs.foldl count t = t + (fs.map ofFile).sum := by
  induction fs generalizing t with
  | nil => simp
  | cons f fs ih => rw [List.foldl_cons, ih, count_eq_add, List.map_cons, List.sum_cons, add_assoc]

/-- Counts of files that include those that failed, and those among the failed that were not parsed. -/
structure Nested (t : Totals) : Prop where
  parseErrors_nonneg : 0 ≤ t.parseErrors
  parseErrors_le : t.parseErrors ≤ t.failed
  failed_le : t.failed ≤ t.files

theorem nested_zero : Nested 0 := ⟨Int.le_refl 0, Int.le_refl 0, Int.le_refl 0⟩

theorem Nested.add {s t : Totals} (hs : Nested s) (ht : Nested t) : Nested (s + t) where
  parseErrors_nonneg := Int.add_nonneg hs.parseErrors_nonneg ht.parseErrors_nonneg
  parseErrors_le := Int.add_le_add hs.parseErrors_le ht.parseErrors_le
  failed_le := Int.add_le_add hs.failed_le ht.failed_le

/-- A file that was not parsed has failed. -/
theorem nested_ofFile (f : FileReport) : Nested (ofFile f) := by
  cases hf : f.parseError.isEmpty <;> cases hr : f.result.passed <;>
    exact ⟨by simp [ofFile, count, zero_def, hf], by simp [ofFile, count, zero_def, FileReport.passed, hf, hr],
      by simp [ofFile, count, zero_def, FileReport.passed, hf, hr]⟩

theorem nested_sum {ts : List Totals} (h : ∀ t ∈ ts, Nested t) : Nested ts.sum := by
  induction ts with
  | nil => exact nested_zero
  | cons t ts ih =>
    rw [List.sum_cons]
    exact (h t List.mem_cons_self).add (ih fun u hu => h u (List.mem_cons_of_mem t hu))

theorem files_sum_ofFile (fs : List FileReport) : (fs.map ofFile).sum.files = fs.length := by
  induction fs with
  | nil => rfl
  | cons f fs ih =>
    rw [List.map_cons, List.sum_cons, add_def, ih, List.length_cons, Int.natCast_succ, Int.add_comm]
    rfl

end Totals

theorem FileReport.passed_iff (f : FileReport) :
    f.passed = true ↔ f.parseError = [] ∧ f.result.issueList = [] := by
  rw [passed, Bool.and_eq_true, List.isEmpty_iff, Findings.passed_iff]

def FileReport.bare (f : FileReport) : FileReport := { f with result := { f.result with suggestions := none } }

namespace BatchReport

theorem totals_ofFiles (files : Option (List FileReport)) :
    (ofFiles files).totals = ((files.getD []).map Totals.ofFile).sum :=
  (Totals.foldl_count _ 0).trans (zero_add _)

theorem files_totals (files : Option (List FileReport)) :
    (ofFiles files).totals.files = (files.getD []).length := by
  rw [totals_ofFiles, Totals.files_sum_ofFile]

theorem passed_ofFiles_append {xs ys : List FileReport} (hx : xs ≠ []) (hy : ys ≠ []) :
    (ofFiles (some (xs ++ ys))).passed = ((ofFiles (some xs)).passed && (ofFiles (some ys)).passed) := by
  rw [Bool.eq_iff_iff, Bool.and_eq_true, passed_ofFiles_iff, passed_ofFiles_iff, passed_ofFiles_iff]
  simp [hx, hy, or_imp, forall_and]

theorem passed_ofFiles_perm {xs ys : List FileReport} (h : xs.Perm ys) :
    (ofFiles (some xs)).passed = (ofFiles (some ys)).passed := by
  rw [Bool.eq_iff_iff, passed_ofFiles_iff, passed_ofFiles_iff]
  simp [h.mem_iff, ← List.length_pos_iff, h.length_eq]

theorem verdict_eq_noDefinitions_iff (b : BatchReport) :
    b.verdict = some .noDefinitions ↔ b.totals.files = 0 := by
  unfold verdict
  split
  · simp_all
  · split <;> simp_all

/-- A batch that was reduced from its file reports, whatever has been added to it since. -/
structure IsReduced (b : BatchReport) : Prop where
  passed : b.passed = (ofFiles b.files).passed
  totals : b.totals = (ofFiles b.files).totals

theorem isReduced_ofFiles (files : Option (List FileReport)) : (ofFiles files).IsReduced := ⟨rfl, rfl⟩

namespace IsReduced

variable {b b' : BatchReport}

theorem passed_iff (h : b.IsReduced) :
    b.passed = true ↔ b.fileList ≠ [] ∧ ∀ f ∈ b.fileList, f.parseError = [] ∧ f.result.issueList = [] := by
  rw [h.passed]
  cases hf : b.files with
  | none => simp [ofFiles, fileList, hf]
  | some fs => simp only [passed_ofFiles_iff, fileList, hf, Option.getD_some, FileReport.passed_iff]

theorem nested (h : b.IsReduced) : b.totals.Nested := by
  rw [h.totals, totals_ofFiles]
  refine Totals.nested_sum fun t ht => ?_
  obtain ⟨f, -, rfl⟩ := List.mem_map.mp ht
  exact Totals.nested_ofFile f

theorem files_eq_zero_iff (h : b.IsReduced) : b.totals.files = 0 ↔ b.fileList = [] := by
  rw [h.totals, files_totals, Int.natCast_eq_zero, List.length_eq_zero_iff, fileList]

theorem verdict_eq_none_iff (h : b.IsReduced) : b.verdict = none ↔ b.passed = true := by
  have hfiles : b.passed = true → b.totals.files ≠ 0 := fun hp h0 =>
    (h.passed_iff.mp hp).1 (h.files_eq_zero_iff.mp h0)
  unfold verdict
  split
  · rename_i h0
    simp only [reduceCtorEq, false_iff]
    exact fun hp => hfiles hp h0
  · split <;> simp_all

/-- Whether a batch passes can be told from its reports without their suggestions. -/
theorem passed_eq_bare (h : b.IsReduced) :
    b.passed = (!(b.fileList.map FileReport.bare).isEmpty &&
      (b.fileList.map FileReport.bare).all FileReport.passed) := by
  rw [h.passed, List.isEmpty_map, List.all_map]
  rfl

theorem passed_eq_of_bare (h : b.IsReduced) (h' : b'.IsReduced)
    (hsame : b.fileList.map FileReport.bare = b'.fileList.map FileReport.bare) : b.passed = b'.passed := by
  rw [h.passed_eq_bare, hsame, ← h'.passed_eq_bare]

theorem verdict_eq_of_bare (h : b.IsReduced) (h' : b'.IsReduced)
    (hsame : b.fileList.map FileReport.bare = b'.fileList.map FileReport.bare) : b.verdict = b'.verdict := by
  have hempty : b.fileList = [] ↔ b'.fileList = [] := by
    rw [← List.map_eq_nil_iff (f := FileReport.bare), hsame, List.map_eq_nil_iff]
  have hfiles : b.totals.files = 0 ↔ b'.totals.files = 0 := by
    rw [h.files_eq_zero_iff, hempty, h'.files_eq_zero_iff]
  unfold verdict
  simp only [hfiles, h.passed_eq_of_bare h' hsame]

end IsReduced

end BatchReport

namespace Lint

theorem isReduced_of_over {s : Service} {d : Disk} {r : Request} {o : Outcome} (ho : prepare s d r = .over o)
    {b : BatchReport} (h : o.report = .ok b) : b.IsReduced := by
  unfold prepare at ho
  split at ho
  · obtain rfl := Prepared.over.inj ho
    cases h
  · simp only at ho
    split at ho
    · obtain rfl := Prepared.over.inj ho
      cases h
    · obtain rfl := Prepared.over.inj ho
      obtain rfl := Except.ok.inj h
      exact ⟨rfl, rfl⟩
    · cases ho

/-- What a run reports is reduced from the files it reports on. -/
theorem isReduced_of_run {s : Service} {d : Disk} {r : Request} {b : BatchReport}
    (h : (run s d r).report = .ok b) : b.IsReduced := by
  unfold run at h
  split at h
  · rename_i o ho
    exact isReduced_of_over ho h
  · split at h
    · cases h
    · obtain rfl := Except.ok.inj h
      exact ⟨rfl, rfl⟩

end Lint

namespace Command

section
variable {env : Environment} {project : String} {dialect : Dialect} {s : Settings} {paths : List String}
  {b : BatchReport}

/-- The outcome of the run behind a command. -/
def lintOutcome (env : Environment) (project : String) (dialect : Dialect) (s : Settings)
    (paths : List String) : Lint.Outcome :=
  Lint.run (service env (s.isOn "cache")) env.disk ⟨project, paths, dialect⟩

theorem failure_lintPaths (hb : (lintOutcome env project dialect s paths).report = .ok b) :
    (lintPaths env project dialect s paths).failure = b.verdict.map ofVerdict := by
  unfold lintOutcome at hb
  unfold lintPaths
  simp only [hb]
  rfl

/-- A run that is recorded is kept with its verdict, unless the history cannot be written. -/
theorem recorded_lintPaths (hb : (lintOutcome env project dialect s paths).report = .ok b)
    (hs : s.isOn "record" = true) :
    ∃ commit, History.save (lintOutcome env project dialect s paths).disk project
        (RunEntry.ofBatch { b with commitHash := commit } env.clock) History.maxRuns =
          .ok (lintPaths env project dialect s paths).disk ∨
      (lintPaths env project dialect s paths).disk = (lintOutcome env project dialect s paths).disk ∧
        ∃ f, .notRecorded f ∈ (lintPaths env project dialect s paths).events := by
  unfold lintOutcome at hb ⊢
  unfold lintPaths record
  simp only [hb, hs, ↓reduceIte]
  refine ⟨((Git.commitHash (lintOutcome env project dialect s paths).disk project).toOption).getD "", ?_⟩
  unfold lintOutcome
  split
  · rename_i h
    exact .inl h
  · exact .inr ⟨rfl, _, List.mem_append_right _ List.mem_cons_self⟩

end

end Command

open BatchReport in
/-- The counts and the verdict of a batch are a reduction of its file reports, and a command fails and
records a run as this verdict says. -/
theorem verdict_reduction :
    (∀ xs ys, (ofFiles (some (xs ++ ys))).totals = (ofFiles (some xs)).totals + (ofFiles (some ys)).totals) ∧
    (∀ xs ys, xs ≠ [] → ys ≠ [] →
      (ofFiles (some (xs ++ ys))).passed = ((ofFiles (some xs)).passed && (ofFiles (some ys)).passed)) ∧
    (∀ xs ys, xs.Perm ys → (ofFiles (some xs)).totals = (ofFiles (some ys)).totals ∧
      (ofFiles (some xs)).passed = (ofFiles (some ys)).passed) ∧
    (∀ files, (ofFiles files).IsReduced) ∧
    (∀ s d r b, (Lint.run s d r).report = .ok b → b.IsReduced) ∧
    (∀ b : BatchReport, b.IsReduced →
      (b.totals.parseErrors ≤ b.totals.failed ∧ b.totals.failed ≤ b.totals.files) ∧
      (b.passed = true ↔
        b.fileList ≠ [] ∧ ∀ f ∈ b.fileList, f.parseError = [] ∧ f.result.issueList = []) ∧
      (b.verdict = none ↔ b.passed = true) ∧
      (b.verdict = some .noDefinitions ↔ b.totals.files = 0) ∧
      (∀ clock, (RunEntry.ofBatch b clock).passed = true ↔ b.verdict = none) ∧
      ∀ b' : BatchReport, b'.IsReduced →
        b'.fileList.map FileReport.bare = b.fileList.map FileReport.bare →
          b'.passed = b.passed ∧ b'.verdict = b.verdict) ∧
    ∀ env project dialect s paths b,
      (Command.lintOutcome env project dialect s paths).report = .ok b →
        (Command.lintPaths env project dialect s paths).failure = b.verdict.map Command.ofVerdict ∧
        (s.isOn "record" = true → ∃ commit,
          let entry := RunEntry.ofBatch { b with commitHash := commit } env.clock
          let left := Command.lintPaths env project dialect s paths
          History.save (Command.lintOutcome env project dialect s paths).disk project entry History.maxRuns =
              .ok left.disk ∨
            left.disk = (Command.lintOutcome env project dialect s paths).disk ∧
              ∃ f, .notRecorded f ∈ left.events) := by
  refine ⟨fun xs ys => ?_, fun xs ys => passed_ofFiles_append, fun xs ys h => ⟨?_, passed_ofFiles_perm h⟩,
    isReduced_ofFiles, fun s d r b => Lint.isReduced_of_run, fun b h => ?_, ?_⟩
  · simp only [totals_ofFiles, Option.getD_some, List.map_append, List.sum_append]
  · simp only [totals_ofFiles, Option.getD_some]
    exact (h.map _).sum_eq
  · exact ⟨⟨h.nested.parseErrors_le, h.nested.failed_le⟩, h.passed_iff, h.verdict_eq_none_iff,
      verdict_eq_noDefinitions_iff b, fun clock => h.verdict_eq_none_iff.symm,
      fun b' h' hsame => ⟨h'.passed_eq_of_bare h hsame, h'.verdict_eq_of_bare h hsame⟩⟩
  · intro env project dialect s paths b hb
    exact ⟨Command.failure_lintPaths hb, Command.recorded_lintPaths hb⟩

open BatchReport in
theorem verdict_reduction_mixed :
    let advice : Finding := ⟨.suggestion, "pk-name", "shop.Order", "a key should end in Id"⟩
    let fault : Finding := ⟨.issue, "pk-required", "shop.Order", "a key is required"⟩
    let clean : FileReport := { path := "/p/a.xml", dialect := .entity, result := ⟨none, some [advice]⟩ }
    let broken : FileReport :=
      { path := "/p/b.xml", dialect := .auto, parseError := Text.ofString "EOF", result := ⟨some [fault], none⟩ }
    let env : Command.Environment :=
      { disk := { root := .folder [("p", .folder [("a.xml", .file (utf8 "<entities"))])] }, clock := "now" }
    let record : Command.Settings := [("record", .truth true)]
    let o := Command.lintOutcome env "/p" .entity record ["/p/a.xml"]
    let left := Command.lintPaths env "/p" .entity record ["/p/a.xml"]
    (ofFiles (some [clean, broken])).passed = false ∧
      (ofFiles (some [broken, clean])).totals =
        (ofFiles (some [clean])).totals + (ofFiles (some [broken])).totals ∧
      (ofFiles (some [clean])).verdict = none ∧
      left.failure = some .lintFailed ∧
      ∃ entry : RunEntry, entry.passed = false ∧
        (History.save o.disk "/p" entry History.maxRuns = .ok left.disk ∨ left.disk = o.disk) := by
  intro advice fault clean broken env record o left
  obtain ⟨happend, hpassed, hperm, hreduced, hrun, hverdict, hcommand⟩ := verdict_reduction
  refine ⟨?_, ?_, ?_, ?_⟩
  · exact (hpassed [clean] [broken] (by simp) (by simp)).trans (by decide)
  · exact (hperm [broken, clean] [clean, broken] (.swap clean broken [])).1.trans (happend [clean] [broken])
  · obtain ⟨-, -, -, -, -, hbare⟩ := hverdict _ (hreduced (some [clean.bare]))
    exact (hbare _ (hreduced (some [clean])) rfl).2.trans (by decide)
  · have hreport : o.report.map BatchReport.verdict = .ok (some .failed) := by decide +kernel
    cases hb : o.report with
    | error e => simp [hb, Except.map] at hreport
    | ok b =>
      have hb' : b.verdict = some .failed := by simpa [hb, Except.map] using hreport
      obtain ⟨-, -, -, -, hentry, -⟩ := hverdict b (hrun _ _ _ _ hb)
      obtain ⟨hfailure, hrecorded⟩ := hcommand env "/p" .entity record ["/p/a.xml"] b hb
      obtain ⟨commit, hkept⟩ := hrecorded (by decide)
      refine ⟨hfailure.trans (by rw [hb']; rfl), _, ?_, hkept.imp_right And.left⟩
      have hnot : ¬ b.passed = true := fun hp => by simp [(hentry "").mp hp] at hb'
      exact Bool.eq_false_iff.mpr hnot

end MoquiLint
