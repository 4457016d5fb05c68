import MoquiLint.Json.Record
import MoquiLint.Report.Component
import MoquiLint.Report.Cache
import MoquiLint.Rules.Rule

/-! The JSON form of reports, histories and caches. Fields that are empty are left out where a reader
can tell; absent lists are `null`. -/
namespace MoquiLint

open Json (Member inTurn readRecord readString readText readInt readBool readList)

def Json.memberUnless (omitted : Bool) (name : String) (j : Json) : List (String × Json) :=
  if omitted then [] else [(name, j)]

namespace Finding

def toJson (f : Finding) : Json := .obj (
  [("severity", .string f.severity.name), ("rule", .string f.rule)] ++
  Json.memberUnless (f.subject == "") "subject" (.string f.subject) ++
  [("message", .string f.message)])

def fields : List (Member Finding) := [
  .one "severity" fun j f => (readString j f.severity.name).map fun v => { f with severity := ⟨v⟩ },
  .one "rule" fun j f => (readString j f.rule).map fun v => { f with rule := v },
  .one "subject" fun j f => (readString j f.subject).map fun v => { f with subject := v },
  .one "message" fun j f => (readString j f.message).map fun v => { f with message := v }]

def read (js : List Json) (old : Finding) : Option Finding := readRecord fields js old

end Finding

namespace Findings

def toJson (r : Findings) : Json := .obj [
  ("issues", .list Finding.toJson r.issues),
  ("suggestions", .list Finding.toJson r.suggestions)]

def fields : List (Member Findings) := [
  ⟨"issues", fun js r => (readList Finding.read default js r.issues).map
    fun v => { r with issues := v }⟩,
  ⟨"suggestions", fun js r => (readList Finding.read default js r.suggestions).map
    fun v => { r with suggestions := v }⟩]

def read (js : List Json) (old : Findings) : Option Findings := readRecord fields js old

end Findings

namespace FileReport

def toJson (r : FileReport) : Json := .obj (
  [("path", .string r.path), ("dialect", .string r.dialect.name), ("result", r.result.toJson)] ++
  Json.memberUnless r.parseError.isEmpty "parse_error" (.str r.parseError) ++
  Json.memberUnless (!r.cached) "cached" (.bool r.cached))

def fields : List (Member FileReport) := [
  .one "path" fun j r => (readString j r.path).map fun v => { r with path := v },
  .one "dialect" fun j r => (readString j r.dialect.name).map fun v => { r with dialect := ⟨v⟩ },
  ⟨"result", fun js r => (Findings.read js r.result).map fun v => { r with result := v }⟩,
  .one "parse_error" fun j r => (readText j r.parseError).map fun v => { r with parseError := v },
  .one "cached" fun j r => (readBool j r.cached).map fun v => { r with cached := v }]

def read (js : List Json) (old : FileReport) : Option FileReport := readRecord fields js old

end FileReport

namespace Totals

def toJson (t : Totals) : Json := .obj [
  ("files", .int t.files), ("failed", .int t.failed), ("parse_errors", .int t.parseErrors),
  ("issues", .int t.issues), ("suggestions", .int t.suggestions)]

def fields : List (Member Totals) := [
  .one "files" fun j t => (readInt j t.files).map fun v => { t with files := v },
  .one "failed" fun j t => (readInt j t.failed).map fun v => { t with failed := v },
  .one "parse_errors" fun j t => (readInt j t.parseErrors).map fun v => { t with parseErrors := v },
  .one "issues" fun j t => (readInt j t.issues).map fun v => { t with issues := v },
  .one "suggestions" fun j t => (readInt j t.suggestions).map fun v => { t with suggestions := v }]

def read (js : List Json) (old : Totals) : Option Totals := readRecord fields js old

end Totals

namespace ComponentSummary

def toJson (c : ComponentSummary) : Json := .obj (
  [("name", .string c.name), ("path", .string c.path)] ++
  Json.memberUnless c.kinds.isEmpty "kinds" (.strings c.kinds) ++
  [("passed", .bool c.passed), ("totals", c.totals.toJson)])

def fields : List (Member ComponentSummary) := [
  .one "name" fun j c => (readString j c.name).map fun v => { c with name := v },
  .one "path" fun j c => (readString j c.path).map fun v => { c with path := v },
  ⟨"kinds", fun js c => (readList (inTurn readString) "" js (some c.kinds)).map
    fun v => { c with kinds := v.getD [] }⟩,
  .one "passed" fun j c => (readBool j c.passed).map fun v => { c with passed := v },
  ⟨"totals", fun js c => (Totals.read js c.totals).map fun v => { c with totals := v }⟩]

def read (js : List Json) (old : ComponentSummary) : Option ComponentSummary := readRecord fields js old

end ComponentSummary

namespace Component

def toJson (c : Component) : Json := .obj (
  [("name", .string c.name), ("path", .string c.path)] ++
  Json.memberUnless c.kinds.isEmpty "kinds" (.strings c.kinds) ++
  [("files", .strings c.files)])

def fields : List (Member Component) := [
  .one "name" fun j c => (readString j c.name).map fun v => { c with name := v },
  .one "path" fun j c => (readString j c.path).map fun v => { c with path := v },
  ⟨"kinds", fun js c => (readList (inTurn readString) "" js (some c.kinds)).map
    fun v => { c with kinds := v.getD [] }⟩,
  ⟨"files", fun js c => (readList (inTurn readString) "" js (some c.files)).map
    fun v => { c with files := v.getD [] }⟩]

def read (js : List Json) (old : Component) : Option Component := readRecord fields js old

end Component

namespace BatchReport

def toJson (b : BatchReport) : Json := .obj (
  [("files", .list FileReport.toJson b.files)] ++
  Json.memberUnless (b.dialect = .unset) "dialect" (.string b.dialect.name) ++
  [("passed", .bool b.passed), ("totals", b.totals.toJson)] ++
  Json.memberUnless b.components.isEmpty "components" (.arr (b.components.map ComponentSummary.toJson)) ++
  Json.memberUnless (b.commitHash == "") "commit_hash" (.string b.commitHash))

def fields : List (Member BatchReport) := [
  ⟨"files", fun js b => (readList FileReport.read default js b.files).map
    fun v => { b with files := v }⟩,
  .one "dialect" fun j b => (readString j b.dialect.name).map fun v => { b with dialect := ⟨v⟩ },
  .one "passed" fun j b => (readBool j b.passed).map fun v => { b with passed := v },
  ⟨"totals", fun js b => (Totals.read js b.totals).map fun v => { b with totals := v }⟩,
  ⟨"components", fun js b => (readList ComponentSummary.read default js (some b.components)).map
    fun v => { b with components := v.getD [] }⟩,
  .one "commit_hash" fun j b => (readString j b.commitHash).map fun v => { b with commitHash := v }]

def read (js : List Json) (old : BatchReport) : Option BatchReport := readRecord fields js old

end BatchReport

namespace RunEntry

def toJson (e : RunEntry) : Json := .obj (
  [("timestamp", .string e.timestamp)] ++
  Json.memberUnless (e.commitHash == "") "commit_hash" (.string e.commitHash) ++
  Json.memberUnless (e.dialect = .unset) "dialect" (.string e.dialect.name) ++
  [("files", .int e.files), ("issues", .int e.issues), ("suggestions", .int e.suggestions),
   ("passed", .bool e.passed)])

def fields : List (Member RunEntry) := [
  .one "timestamp" fun j e => (readString j e.timestamp).map fun v => { e with timestamp := v },
  .one "commit_hash" fun j e => (readString j e.commitHash).map fun v => { e with commitHash := v },
  .one "dialect" fun j e => (readString j e.dialect.name).map fun v => { e with dialect := ⟨v⟩ },
  .one "files" fun j e => (readInt j e.files).map fun v => { e with files := v },
  .one "issues" fun j e => (readInt j e.issues).map fun v => { e with issues := v },
  .one "suggestions" fun j e => (readInt j e.suggestions).map fun v => { e with suggestions := v },
  .one "passed" fun j e => (readBool j e.passed).map fun v => { e with passed := v }]

def read (js : List Json) (old : RunEntry) : Option RunEntry := readRecord fields js old

def readAll (j : Json) : Option (Option (List RunEntry)) := readList read default [j] none

end RunEntry

namespace ResultCache

def entryJson (e : CachedEntry) : Json := .obj [
  ("content_hash", .string e.contentHash), ("dialect", .string e.dialect.name),
  ("result", e.result.toJson)]

def toJson (c : ResultCache) : Json := .obj [
  ("project_path", .string c.projectPath), ("config_hash", .string c.configHash),
  ("version", .string c.version),
  ("entries", match c.entries with
    | none => .null
    | some es => .obj (es.map fun e => (e.1, entryJson e.2)))]

def entryFields : List (Member CachedEntry) := [
  .one "content_hash" fun j e => (readString j e.contentHash).map fun v => { e with contentHash := v },
  .one "dialect" fun j e => (readString j e.dialect.name).map fun v => { e with dialect := ⟨v⟩ },
  ⟨"result", fun js e => (Findings.read js e.result).map fun v => { e with result := v }⟩]

def readEntries (j : Json) (old : Option (List (String × CachedEntry))) :
    Option (Option (List (String × CachedEntry))) :=
  match j with
  | .null => some none
  | .obj ms => (ms.foldlM
      (fun es m => (readRecord entryFields [m.2] default).map fun e => Keyed.insert m.1 e es)
      (old.getD [])).map some
  | _ => none

def fields : List (Member ResultCache) := [
  .one "project_path" fun j c => (readString j c.projectPath).map fun v => { c with projectPath := v },
  .one "config_hash" fun j c => (readString j c.configHash).map fun v => { c with configHash := v },
  .one "version" fun j c => (readString j c.version).map fun v => { c with version := v },
  .one "entries" fun j c => (readEntries j c.entries).map fun v => { c with entries := v }]

def read (j : Json) : Option ResultCache := readRecord fields [j] {}

end ResultCache

namespace Rules.Info

def toJson (i : Rules.Info) : Json := .obj [
  ("id", .string i.id), ("dialect", .string i.dialect.name), ("severity", .string i.severity.name),
  ("kind", .string i.target), ("description", .string i.description)]

def fields : List (Member Rules.Info) := [
  .one "id" fun j i => (readString j i.id).map fun v => { i with id := v },
  .one "dialect" fun j i => (readString j i.dialect.name).map fun v => { i with dialect := ⟨v⟩ },
  .one "severity" fun j i => (readString j i.severity.name).map fun v => { i with severity := ⟨v⟩ },
  .one "kind" fun j i => (readString j i.target).map fun v => { i with target := v },
  .one "description" fun j i => (readString j i.description).map fun v => { i with description := v }]

def read (js : List Json) (old : Rules.Info) : Option Rules.Info := readRecord fields js old

end Rules.Info

end MoquiLint
