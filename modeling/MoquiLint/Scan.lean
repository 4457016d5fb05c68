import MoquiLint.Config
import MoquiLint.Disk.Access
import MoquiLint.Event
import MoquiLint.Ignore
import MoquiLint.Sniff

/-! Finding the definition files under a directory. A scan walks the tree without following links,
leaves out whole directories and single files by name, and classifies the rest by their first bytes. -/
namespace MoquiLint

/-- A file to lint, and the dialect it was taken for. -/
structure Candidate where
  path : String
  dialect : Dialect
  deriving DecidableEq, Repr, Inhabited

namespace Scan

def skippedNames : List String := [".git", ".moqlint", "node_modules", "build", "vendor"]

structure Criteria where
  dialect : Dialect
  globs : List Text := []
  /-- Names or relative paths of directories not to enter. -/
  folders : List Text := []
  ignore : List Ignore.Pattern := []

/-- A text without one slash at its end. -/
def dropSlash (t : Text) : Text := if t.getLast? = some (.char '/') then t.dropLast else t

/-- What a scan asks of a disk, path by path: the content of a file, and whether a folder can be looked
into. -/
structure Access where
  read : String → Except Disk.Fault Bytes
  enter : String → Except Disk.Fault Unit

def ignoreFile (a : Access) (root : String) : List Ignore.Pattern :=
  match a.read (Path.join [root, ".gitignore"]) with
  | .ok content => Ignore.patterns content
  | .error _ => []

def criteria (a : Access) (root : String) (dialect : Dialect) (cfg : Config) : Criteria where
  dialect := dialect
  globs := cfg.excludeGlobs.getD []
  folders := (cfg.excludePaths.getD []).map dropSlash
  ignore := if cfg.usesGitignore then ignoreFile a root else []

def Criteria.prunes (c : Criteria) (name rel : String) : Bool :=
  skippedNames.contains name || c.folders.contains (Text.ofString name) ||
    c.folders.contains (Text.ofString rel) || Ignore.ignores c.ignore (rel ++ "/")

def Criteria.leavesOut (c : Criteria) (rel : String) : Bool :=
  Glob.matchesAny c.globs rel || Ignore.ignores c.ignore rel

structure Found where
  files : List Candidate := []
  /-- How many XML files and unreadable paths were passed over. -/
  skipped : Nat := 0
  events : List Event := []
  deriving DecidableEq, Repr, Inhabited

def Found.append (a b : Found) : Found := ⟨a.files ++ b.files, a.skipped + b.skipped, a.events ++ b.events⟩

inductive Unreadable where
  /-- The root itself: the scan fails. -/
  | fail
  /-- A directory: its entries are passed over. -/
  | passOver
  /-- Anything else: the walk goes on behind it. -/
  | goOn
  deriving DecidableEq, Repr

def unreadable (root path : String) (isFolder : Bool) : Unreadable :=
  if path == root then .fail else if isFolder then .passOver else .goOn

def Unreadable.skipped : Unreadable → Nat
  | .fail => 0
  | _ => 1

/-- The path from the root to the given names, `.` for the root itself. -/
def relativePath (names : List String) : String := Path.spell false names

def place (root : String) (names : List String) : String := Path.join (root :: names)

def Criteria.look (c : Criteria) (a : Access) (root : String) (names : List String) : Found :=
  let path := place root names
  let rel := relativePath names
  if !Path.isXml path then {}
  else if c.leavesOut rel then { skipped := 1 }
  else
    match a.read path with
    | .error f => { skipped := 1, events := [.unreadableFile path f] }
    | .ok content =>
      match Sniff.classify content c.dialect with
      | none => { skipped := 1, events := [.notDefinition path] }
      | some d => { files := [⟨path, d⟩] }

/-- What ends a walk at a folder the given names below the root: that it is pruned, or that it cannot be
looked into. What lies below it is passed over then. -/
def Criteria.stop? (c : Criteria) (a : Access) (root : String) (names : List String) : Option Found :=
  let path := place root names
  if !names.isEmpty && c.prunes (names.getLastD "") (relativePath names) then some {}
  else
    match a.enter path with
    | .error f =>
      some { skipped := (unreadable root path true).skipped
             events := [.unreadablePath path (Text.ofString f.message)] }
    | .ok () => none

mutual

/-- Walks an entry that lies the given names below the root, with what there is to find at a file and what
ends the walk at a folder. -/
def visit (look : List String → Found) (stop? : List String → Option Found) (names : List String) :
    Entry → Found
  | .folder ms =>
    match stop? names with
    | some found => found
    | none => visitAll look stop? names ms
  | _ => look names

def visitAll (look : List String → Found) (stop? : List String → Option Found) (names : List String) :
    List (String × Entry) → Found
  | [] => {}
  | (n, e) :: ms => (visit look stop? (names ++ [n]) e).append (visitAll look stop? names ms)

end

structure Result where
  root : String
  files : List Candidate := []
  skipped : Nat := 0
  events : List Event := []
  deriving DecidableEq, Repr, Inhabited

/-- Scans what stands at a root. Only a root that cannot be looked into fails the scan. -/
def survey (a : Access) (root : String) (dialect : Dialect) (cfg : Config) (e : Entry) :
    Except Disk.Fault Result :=
  match e, a.enter root with
  | .folder _, .error f => .error f
  | _, _ =>
    let c := criteria a root dialect cfg
    let found := visit (c.look a root) (c.stop? a root) [] e
    let files := found.files.mergeSort fun a b => Str.le a.path b.path
    .ok ⟨root, files, found.skipped, found.events ++ [.scanned root files.length found.skipped]⟩

def run (d : Disk) (root : String) (dialect : Dialect) (cfg : Config) : Except Disk.Fault Result := do
  let root := d.absolute root
  survey ⟨d.read, d.enter⟩ root dialect cfg (← d.lstat root)

def classifyFile (d : Disk) (path : String) (dialect : Dialect) : Option Dialect :=
  match d.read path with
  | .ok content => Sniff.classify content dialect
  | .error _ => none

def definitionsAmong (d : Disk) (dialect : Dialect) (paths : List String) : List String :=
  paths.filter fun p => (classifyFile d p dialect).isSome

end Scan

end MoquiLint
