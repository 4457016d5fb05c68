import MoquiLint.Json.Printer
import MoquiLint.Report.Codec
import MoquiLint.Store.Fault

/-! The result cache of a project, kept as a JSON file. -/
namespace MoquiLint.ResultCache

def folder (project : String) : String := Path.join [project, ".moqlint", "cache"]

def file (project : String) : String := Path.join [folder project, "results.json"]

def load (d : Disk) (project : String) : Except Store.Fault (Option ResultCache) :=
  Store.load read d (file project)

def written (c : ResultCache) : Bytes := utf8 (Json.indented c.toJson)

def save (d : Disk) (c : ResultCache) : Except Disk.Fault Disk := do
  let d ← d.makeFolders (folder c.projectPath)
  d.write (file c.projectPath) (written c)

def clear (d : Disk) (project : String) : Except Disk.Fault Disk :=
  match d.remove (file project) with
  | .ok d => .ok d
  | .error f => if f.cause = .missing then .ok d else .error f

end MoquiLint.ResultCache
