import MoquiLint.Disk.Basic

/-! Operations on a file tree: looking at a path, reading, writing, making folders and removing. Each one
says on which path it failed and why. -/
namespace MoquiLint.Disk

def fail {α : Type} (action path : String) : Except Cause α → Except Fault α
  | .ok a => .ok a
  | .error c => .error ⟨action, path, c⟩

/-- What a path leads to, links followed. -/
def stat (d : Disk) (path : String) : Except Fault Entry := fail "stat" path (d.entryAt true path)

/-- What a path leads to; a link at its end is looked at itself. -/
def lstat (d : Disk) (path : String) : Except Fault Entry := fail "lstat" path (d.entryAt false path)

def isFolder (d : Disk) (path : String) : Bool :=
  match d.stat path with
  | .ok e => e.isFolder
  | .error _ => false

def isPlain (d : Disk) (path : String) : Bool :=
  match d.stat path with
  | .ok e => !e.isFolder
  | .error _ => false

def read (d : Disk) (path : String) : Except Fault Bytes :=
  match d.entryAt true path with
  | .ok (.file content) => .ok content
  | .ok (.folder _) => .error ⟨"read", path, .isFolder⟩
  | .ok _ => .error ⟨"open", path, .noDevice⟩
  | .error c => .error ⟨"open", path, c⟩

def enter (d : Disk) (path : String) : Except Fault Unit :=
  match d.entryAt true path with
  | .ok (.folder _) => .ok ()
  | .ok _ => .error ⟨"open", path, .notFolder⟩
  | .error c => .error ⟨"open", path, c⟩

/-- The content of a file, none if there is no file. -/
def read? (d : Disk) (path : String) : Except Fault (Option Bytes) :=
  match d.read path with
  | .ok content => .ok (some content)
  | .error f => if f.cause = .missing then .ok none else .error f

def put (d : Disk) (place : List String) (e : Entry) : Disk := { d with root := d.root.set (some e) place }

def erase (d : Disk) (place : List String) : Disk := { d with root := d.root.set none place }

/-- Writes a file, in place of what it held before. A link is followed, also to a free name. -/
def write (d : Disk) (path : String) (content : Bytes) : Except Fault Disk :=
  fail "open" path do
    let spot ← d.locate true path
    match spot.entry with
    | none | some (.file _) => return d.put spot.place (.file content)
    | some (.folder _) => throw .isFolder
    | some _ => throw .noDevice

/-- Puts an entry under a free name. -/
def create (d : Disk) (action path : String) (e : Entry) : Except Fault Disk :=
  fail action path do
    let spot ← d.locate false path
    match spot.entry with
    | none => return d.put spot.place e
    | some _ => throw .taken

/-- Puts a file where the path leads, in place of whatever stands there. -/
def replace (d : Disk) (path : String) (e : Entry) : Except Fault Disk :=
  fail "rename" path do
    let spot ← d.locate false path
    return d.put spot.place e

/-- The paths on the way to a path, outermost first, the path itself at the end. -/
def ways (path : String) : List String :=
  let names := Path.segments path
  (List.range names.length).map fun i => Path.spell (Path.isAbsolute path) (names.take (i + 1))

def makeFolder (d : Disk) (path : String) : Except Fault Disk :=
  match d.stat path with
  | .ok e => if e.isFolder then .ok d else .error ⟨"mkdir", path, .notFolder⟩
  | .error _ => d.create "mkdir" path (.folder [])

def makeFolders (d : Disk) (path : String) : Except Fault Disk := (ways path).foldlM makeFolder d

/-- Removes a file, a link or an empty folder. -/
def remove (d : Disk) (path : String) : Except Fault Disk :=
  fail "remove" path do
    let spot ← d.locate false path
    match spot.entry with
    | none => throw .missing
    | some (.folder (_ :: _)) => throw .notEmpty
    | some _ => return d.erase spot.place

/-- Removes whatever a path leads to, with all that lies below. Nothing there is fine. -/
def removeAll (d : Disk) (path : String) : Disk :=
  match d.locate false path with
  | .ok spot => d.erase spot.place
  | .error _ => d

def realPath (d : Disk) (path : String) : Option String :=
  match d.locate true path with
  | .ok ⟨place, some _⟩ => some (Path.spell true place)
  | _ => none

mutual

/-- The relative paths of everything below an entry that is no folder, in the order of names. Folders
that are to be skipped are not entered. -/
def leaves (skip : String → Bool) (path : List String) : Entry → List (List String)
  | .folder ms => leavesOf skip path ms
  | _ => [path]

def leavesOf (skip : String → Bool) (path : List String) : List (String × Entry) → List (List String)
  | [] => []
  | (n, e) :: ms =>
    (if e.isFolder && skip n then [] else leaves skip (path ++ [n]) e) ++ leavesOf skip path ms

end

end MoquiLint.Disk
