import MoquiLint.Dialect
import MoquiLint.Finding

/-! Reports on files and on batches of files, and the verdict a batch leads to. -/
namespace MoquiLint

structure FileReport where
  path : String
  dialect : Dialect
  result : Findings := {}
  /-- Why the file could not be read or parsed; empty if it could. -/
  parseError : Text := []
  cached : Bool := false
  deriving DecidableEq, Repr, Inhabited

def FileReport.passed (r : FileReport) : Bool := r.parseError.isEmpty && r.result.passed

structure Totals where
  files : Int := 0
  failed : Int := 0
  parseErrors : Int := 0
  issues : Int := 0
  suggestions : Int := 0
  deriving DecidableEq, Repr, Inhabited

def Totals.count (t : Totals) (f : FileReport) : Totals where
  files := t.files + 1
  failed := t.failed + if f.passed then 0 else 1
  parseErrors := t.parseErrors + if f.parseError.isEmpty then 0 else 1
  issues := t.issues + f.result.issueList.length
  suggestions := t.suggestions + f.result.suggestionList.length

structure ComponentSummary where
  name : String
  path : String
  kinds : List String := []
  passed : Bool
  totals : Totals
  deriving DecidableEq, Repr, Inhabited

/-- Many file reports, reduced. The list of files is absent when none was looked for. -/
structure BatchReport where
  files : Option (List FileReport) := none
  dialect : Dialect := .unset
  passed : Bool := false
  totals : Totals := {}
  components : List ComponentSummary := []
  commitHash : String := ""
  deriving DecidableEq, Repr, Inhabited

namespace BatchReport

def fileList (b : BatchReport) : List FileReport := b.files.getD []

/-- Reduces file reports in their order: the batch passes if it has a file and every file passes. -/
def ofFiles (files : Option (List FileReport)) : BatchReport :=
  let fs := files.getD []
  { files := files
    passed := !fs.isEmpty && fs.all FileReport.passed
    totals := fs.foldl Totals.count {} }

theorem passed_ofFiles_iff (fs : List FileReport) :
    (ofFiles (some fs)).passed = true ↔ fs ≠ [] ∧ ∀ f ∈ fs, f.passed = true := by
  cases fs <;> simp [ofFiles]

end BatchReport

inductive Verdict where
  | noDefinitions
  | failed
  deriving DecidableEq, Repr

def Verdict.message : Verdict → String
  | .noDefinitions => "no definition files found"
  | .failed => "lint failed"

def BatchReport.verdict (b : BatchReport) : Option Verdict :=
  if b.totals.files = 0 then some .noDefinitions
  else if b.passed then none
  else some .failed

structure RunEntry where
  timestamp : String := ""
  commitHash : String := ""
  dialect : Dialect := .unset
  files : Int := 0
  issues : Int := 0
  suggestions : Int := 0
  passed : Bool := false
  deriving DecidableEq, Repr, Inhabited

def RunEntry.ofBatch (b : BatchReport) (timestamp : String) : RunEntry where
  timestamp := timestamp
  commitHash := b.commitHash
  dialect := b.dialect
  files := b.totals.files
  issues := b.totals.issues
  suggestions := b.totals.suggestions
  passed := b.passed

end MoquiLint
