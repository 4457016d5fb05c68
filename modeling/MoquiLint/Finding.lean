import MoquiLint.Text.Symbol

/-! Findings about a document and the two lists they are filed in. -/
namespace MoquiLint

/-- How grave a finding is. Only issues fail a document; any other name files as a suggestion. -/
structure Severity where
  name : String
  deriving DecidableEq, Repr, Inhabited

namespace Severity

def issue : Severity := ⟨"issue"⟩
def suggestion : Severity := ⟨"suggestion"⟩

end Severity

structure Finding where
  severity : Severity
  rule : String
  subject : String := ""
  message : String
  deriving DecidableEq, Repr, Inhabited

def Finding.text (f : Finding) : String :=
  if f.subject == "" then f.message else f.subject ++ ": " ++ f.message

/-- The findings of one document in the order of discovery. A list that nothing was ever filed in is
absent, which its written form shows. -/
structure Findings where
  issues : Option (List Finding) := none
  suggestions : Option (List Finding) := none
  deriving DecidableEq, Repr, Inhabited

namespace Findings

def issueList (r : Findings) : List Finding := r.issues.getD []

def suggestionList (r : Findings) : List Finding := r.suggestions.getD []

def add (r : Findings) (f : Finding) : Findings :=
  if f.severity = .issue then { r with issues := some (r.issueList ++ [f]) }
  else { r with suggestions := some (r.suggestionList ++ [f]) }

def passed (r : Findings) : Bool := r.issueList.isEmpty

theorem passed_iff (r : Findings) : r.passed = true ↔ r.issueList = [] := List.isEmpty_iff

def isEmpty (r : Findings) : Bool := r.issueList.isEmpty && r.suggestionList.isEmpty

def present (fs : List Finding) : Option (List Finding) := if fs.isEmpty then none else some fs

@[simp] theorem getD_present (fs : List Finding) : (present fs).getD [] = fs := by
  cases fs <;> simp [present]

def without (r : Findings) (skip : List String) : Findings :=
  if skip.isEmpty then r
  else
    let keep (f : Finding) := !skip.contains f.rule
    ⟨present (r.issueList.filter keep), present (r.suggestionList.filter keep)⟩

theorem issueList_without (r : Findings) (skip : List String) :
    (r.without skip).issueList = r.issueList.filter fun f => !skip.contains f.rule := by
  cases skip with
  | nil => exact (List.filter_eq_self.mpr fun f _ => rfl).symm
  | cons s skip => simp [without, issueList]

theorem suggestionList_without (r : Findings) (skip : List String) :
    (r.without skip).suggestionList = r.suggestionList.filter fun f => !skip.contains f.rule := by
  cases skip with
  | nil => exact (List.filter_eq_self.mpr fun f _ => rfl).symm
  | cons s skip => simp [without, suggestionList]

end Findings

end MoquiLint
