import MoquiLint.Component.Owner
import MoquiLint.Config.Load
import MoquiLint.Markup.Document
import MoquiLint.Scan

/-! The parts a lint run is put together from. Each of them may be exchanged, for instance for one that
always fails. -/
namespace MoquiLint.Lint

/-- Why a document has no tree: at full length, and as a report shows it. -/
structure ParseFault where
  full : Text
  detail : Text
  deriving DecidableEq, Repr

structure Parts where
  scan : Disk → String → Dialect → Config → Except Text Scan.Result
  parse : String → Bytes → Except ParseFault Markup.Node
  detect : Disk → String → List String → Except Text (List Component)

def scanDisk (d : Disk) (root : String) (dialect : Dialect) (cfg : Config) : Except Text Scan.Result :=
  match Scan.run d root dialect cfg with
  | .ok r => .ok r
  | .error f => .error (Text.ofString f.message)

def parseDocument (path : String) (data : Bytes) : Except ParseFault Markup.Node :=
  match Markup.parse path data with
  | .ok n => .ok n
  | .error e => .error ⟨e.text, e.detail⟩

def Parts.standard : Parts where
  scan := scanDisk
  parse := parseDocument
  detect d root files := .ok (Component.detect d root files)

end MoquiLint.Lint
