import MoquiLint.Disk.Access
import MoquiLint.Json.Reader

/-! Reading and writing JSON files in a project. -/
namespace MoquiLint.Store

inductive Fault where
  | disk (fault : Disk.Fault)
  | malformed
  deriving DecidableEq, Repr

def Fault.message : Fault → String
  | .disk f => f.message
  | .malformed => "<json error>"

def onDisk {α : Type} : Except Disk.Fault α → Except Fault α
  | .ok a => .ok a
  | .error f => .error (.disk f)

def decode (content : Bytes) : Option Json := Json.ofChars? (Text.codes (Text.decode content))

def load {α : Type} (read : Json → Option α) (d : Disk) (path : String) : Except Fault (Option α) := do
  match ← onDisk (d.read? path) with
  | none => return none
  | some content =>
    match (decode content).bind read with
    | some a => return some a
    | none => throw .malformed

end MoquiLint.Store
