import MoquiLint.Json.Printer
import MoquiLint.Report.Codec
import MoquiLint.Report.History
import MoquiLint.Store.Fault

/-! The run history of a project: a JSON list of runs, oldest first. -/
namespace MoquiLint.History

def file : String := ".moqlint/history/runs.json"

/-- The recorded runs of a project, oldest first. -/
def load (d : Disk) (project : String) : Except Store.Fault (Option (List RunEntry)) := do
  return (← Store.load RunEntry.readAll d (Path.join [project, file])).join

def written (entries : Option (List RunEntry)) : Bytes :=
  utf8 (Json.indented (.list RunEntry.toJson entries))

/-- Records a run and drops the oldest ones beyond the limit. The file is replaced as a whole, so a
history that cannot be read stays as it is. -/
def save (d : Disk) (project : String) (entry : RunEntry) (limit : Int) : Except Store.Fault Disk := do
  let entries ← load d project
  let entries := keepLatest (some (entries.getD [] ++ [entry])) limit
  let path := Path.join [project, file]
  Store.onDisk do
    let d ← d.makeFolders (Path.parent path)
    d.replace path (.file (written entries))

end MoquiLint.History
