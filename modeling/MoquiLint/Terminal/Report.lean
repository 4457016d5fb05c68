import MoquiLint.Terminal.Box
import MoquiLint.Report.Basic
import MoquiLint.Rules.Rule
import MoquiLint.Word

/-! Reports, rule listings and histories as they are shown on a terminal. -/
namespace MoquiLint.Terminal

def noIssues (d : Dialect) : String :=
  if d = .entity then "No issues found - entity follows Moqui patterns"
  else if d = .service then "No issues found - service follows Moqui patterns"
  else "No issues found"

def finding (on : Colored) (f : Finding) : Text :=
  lit "    • " ++ lit f.text ++ lit "  " ++ faint.render on (lit f.rule) ++ lit "\n"

def findingList (on : Colored) (st : Style) (heading : String) (fs : List Finding) : Text :=
  if fs.isEmpty then []
  else
    lit "\n  " ++ st.render on (lit (heading ++ " (" ++ toString fs.length ++ ")")) ++ lit "\n" ++
      fs.flatMap (finding on)

def marked (on : Colored) (st : Style) (mark : String) (about : Text) : Text :=
  lit "  " ++ st.render on (lit mark) ++ lit " " ++ about ++ lit "\n"

def fileReport (on : Colored) (r : FileReport) : Text :=
  lit "\n  " ++ dim.render on (lit "Validating") ++ lit " " ++ title.render on (lit r.path) ++
  (if r.cached then lit "  " ++ muted.render on (lit "(cached)") else []) ++ lit "\n" ++
  if !r.parseError.isEmpty then marked on fail "✗" (fail.render on r.parseError)
  else
    marked on pass "✓" (dim.render on (lit "XML is well-formed")) ++
    findingList on issueTag "Issues" r.result.issueList ++
    findingList on suggestionTag "Suggestions" r.result.suggestionList ++
    if r.result.isEmpty then marked on pass "✓" (pass.render on (lit (noIssues r.dialect))) else []

def counts (t : Totals) : String :=
  toString t.files ++ " files · " ++ toString t.failed ++ " failed · " ++ toString t.issues ++
  " issues · " ++ toString t.suggestions ++ " suggestions" ++
  if t.parseErrors > 0 then " · " ++ toString t.parseErrors ++ " parse errors" else ""

def componentLine (on : Colored) (c : ComponentSummary) : Text :=
  lit "  " ++ (if c.passed then pass.render on (lit "✓") else fail.render on (lit "✗")) ++ lit " " ++
  padRight (lit c.name) 28 ++ lit " " ++
  dim.render on (lit (toString c.totals.files ++ " files · " ++ toString c.totals.issues ++
    " issues · " ++ toString c.totals.suggestions ++ " suggestions")) ++ lit "\n"

def shortHash (hash : Text) : Text := cut 7 hash

def day (timestamp : Text) : Text := cut 10 timestamp

def summary (on : Colored) (b : BatchReport) : Text :=
  lit "\n  " ++ rule ++ lit "\n\n" ++
  Box.render on [
    some (header, "moqlint"), some (dim, counts b.totals), none,
    some (if b.passed then ({ pass with bold := true }, "PASSED")
      else ({ fail with bold := true }, "FAILED"))] ++
  lit "\n" ++
  (if b.totals.files = 0 then
    lit "  " ++ fail.render on (lit "No definition files found.") ++ lit "\n" else []) ++
  (if b.components.length > 1 then
    lit "\n  " ++ title.render on (lit "Components") ++ lit "\n" ++ b.components.flatMap (componentLine on)
    else []) ++
  if b.commitHash == "" then []
  else
    lit "  " ++ dim.render on (lit "commit ") ++ faint.render on (shortHash (lit b.commitHash)) ++ lit "\n"

def batch (on : Colored) (b : BatchReport) : Text :=
  b.fileList.flatMap (fileReport on) ++ summary on b

def severityTag (on : Colored) (s : Severity) : Text :=
  if s = .issue then issueTag.render on (lit "issue     ")
  else if s = .suggestion then suggestionTag.render on (lit "suggestion")
  else infoTag.render on (padRight (lit s.name) 10)

def dialectHeading (on : Colored) (d : Dialect) : Text :=
  lit "\n  " ++ title.render on (lit (if d = .auto then "all dialects" else d.name)) ++ lit "\n  " ++
  rule ++ lit "\n"

def ruleLine (on : Colored) (r : Rules.Info) : Text :=
  lit "  " ++ severityTag on r.severity ++ lit " " ++ padRight (lit r.id) 32 ++ lit "  " ++
  dim.render on (lit r.description) ++ lit " " ++ faint.render on (lit ("[" ++ r.target ++ "]")) ++
  lit "\n"

/-- The rules, with a heading wherever the dialect changes. -/
def ruleList (on : Colored) (current : Dialect) : List Rules.Info → Text
  | [] => []
  | r :: rs =>
    (if r.dialect = current then [] else dialectHeading on r.dialect) ++ ruleLine on r ++
      ruleList on r.dialect rs

def rules (on : Colored) (infos : List Rules.Info) : Text := ruleList on ⟨"-"⟩ infos

def wordDiff (a b : Int) : Int := (a - b).bmod Word.size

def trend (on : Colored) (before now : Int) : Text :=
  let diff := wordDiff now before
  if diff < 0 then lit "  " ++ pass.render on (lit "↓" ++ num (wordDiff 0 diff))
  else if diff > 0 then lit "  " ++ fail.render on (lit "↑" ++ num diff)
  else []

def runLine (on : Colored) (before : Option RunEntry) (e : RunEntry) : Text :=
  let hash := if e.commitHash == "" then lit "·······" else shortHash (lit e.commitHash)
  lit "  " ++ dim.render on (day (lit e.timestamp)) ++ lit "  " ++ faint.render on hash ++ lit "  " ++
  (if e.passed then pass.render on (lit "pass") else fail.render on (lit "fail")) ++
  lit ("  " ++ toString e.files ++ " files, " ++ toString e.issues ++ " issues, " ++
    toString e.suggestions ++ " suggestions") ++
  (match before with
    | some b => trend on b.issues e.issues
    | none => []) ++ lit "\n"

def runLines (on : Colored) (before : Option RunEntry) : List RunEntry → Text
  | [] => []
  | e :: es => runLine on before e ++ runLines on (some e) es

def history (on : Colored) (entries : List RunEntry) : Text :=
  if entries.isEmpty then lit "  " ++ dim.render on (lit "No run history found.") ++ lit "\n"
  else
    lit "\n  " ++ title.render on (lit "Run History") ++ lit "\n  " ++
    faint.render on (lit (String.ofList (List.replicate 50 '─'))) ++ lit "\n\n" ++
    runLines on none entries

end MoquiLint.Terminal
