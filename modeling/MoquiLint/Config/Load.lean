import MoquiLint.Config.File
import MoquiLint.Disk.Access

/-! Loading a project's configuration. -/
namespace MoquiLint.Config

inductive LoadFault where
  | disk (fault : Disk.Fault)
  | file (fault : FileFault)
  deriving DecidableEq, Repr

def LoadFault.message : LoadFault → Text
  | .disk f => Text.ofString f.message
  | .file f => f.message

/-- The configuration of a project; without a file it is the standard one. -/
def load (d : Disk) (project : String) : Except LoadFault Config :=
  match d.read? (Path.join [project, fileName]) with
  | .error f => .error (.disk f)
  | .ok none => .ok standard
  | .ok (some content) =>
    match ofFile content with
    | .ok c => .ok c
    | .error f => .error (.file f)

end MoquiLint.Config
