import MoquiLint.Disk.Access
import MoquiLint.Disk.Change
import MoquiLint.Event

/-! Watching a directory tree for changed XML files. The directories that are watched are known at every
moment; changes in them are collected and handed over in batches. -/
namespace MoquiLint.Watch

def skippedNames : List String := ["node_modules", "build", "vendor"]

/-- Whether a directory below the root is left out: one of the names above, or a hidden one. -/
def skips (name : String) : Bool := skippedNames.contains name || Str.startsWith name "."

mutual

def folders (path : String) : Entry → List String
  | .folder ms => path :: foldersOf path ms
  | _ => []

def foldersOf (path : String) : List (String × Entry) → List String
  | [] => []
  | (n, e) :: ms => (if skips n then [] else folders (Path.join [path, n]) e) ++ foldersOf path ms

end

structure Operation where
  created : Bool := false
  written : Bool := false
  removed : Bool := false
  renamed : Bool := false
  modeChanged : Bool := false
  deriving DecidableEq, Repr, Inhabited

namespace Operation

def create : Operation := { created := true }

def ofBits (n : Nat) : Operation :=
  ⟨n.testBit 0, n.testBit 1, n.testBit 2, n.testBit 3, n.testBit 4⟩

def name (o : Operation) : String :=
  let names := (if o.created then ["CREATE"] else []) ++ (if o.removed then ["REMOVE"] else []) ++
    (if o.written then ["WRITE"] else []) ++ (if o.renamed then ["RENAME"] else []) ++
    (if o.modeChanged then ["CHMOD"] else [])
  if names.isEmpty then "[no events]" else Str.join "|" names

end Operation

/-- A watcher: the directories it watches and the changed files it has not handed over yet, both sorted
and each path once. -/
structure State where
  watched : List String := []
  pending : List String := []
  deriving DecidableEq, Repr, Inhabited

def insert (path : String) : List String → List String
  | [] => [path]
  | p :: ps =>
    if path = p then p :: ps else if path < p then path :: p :: ps else p :: insert path ps

theorem mem_insert {path p : String} {ps : List String} :
    p ∈ insert path ps ↔ p = path ∨ p ∈ ps := by
  induction ps with
  | nil => simp [insert]
  | cons q ps ih =>
    simp only [insert]
    split
    · rename_i h
      subst h
      simp
    · split
      · simp
      · simp only [List.mem_cons, ih]
        exact or_left_comm

namespace State

def watch (s : State) (d : Disk) (root : String) : Except Disk.Fault State := do
  let e ← d.lstat root
  return { s with watched := (folders root e).foldl (fun ps p => insert p ps) s.watched }

/-- Takes notice of a change. Created or written XML files are collected; a created directory is watched
from then on, whatever its name. -/
def notice (s : State) (d : Disk) (path : String) (o : Operation) : State × List Event :=
  if !o.created && !o.written then (s, [])
  else if Path.isXml path then
    ({ s with pending := insert path s.pending }, [.changed path o.name])
  else if o.created && d.isFolder path then
    match s.watch d path with
    | .ok s => (s, [])
    | .error f => (s, [.notWatched path (Text.ofString f.message)])
  else (s, [])

def noticeAll (s : State) (d : Disk) : List (String × Operation) → State × List Event
  | [] => (s, [])
  | (path, o) :: rest =>
    let (s, first) := s.notice d path o
    let (s, later) := s.noticeAll d rest
    (s, first ++ later)

/-- Hands over the collected files that still exist; none if nothing was collected. -/
def flush (s : State) (d : Disk) : State × Option (List String) :=
  if s.pending.isEmpty then (s, none)
  else ({ s with pending := [] }, some (s.pending.filter d.isPlain))

/-- The name under which the watcher sees a path, if it lies in a watched directory. -/
def sees? (s : State) (d : Disk) (path : String) : Option String :=
  match d.realPath (Path.parent path) with
  | none => none
  | some folder =>
    (s.watched.find? fun w => d.realPath w == some folder).map fun w => Path.join [w, Path.base path]

/-- What the watcher is told of changes: the creations and writings in watched directories, in order. -/
def witnessed (s : State) (old new : Disk) (changes : List Change) : List (String × Operation) :=
  changes.filterMap fun c => c.entry.bind fun _ =>
    (s.sees? new (Path.spell true c.place)).map fun seen =>
      (seen, if (old.root.at? c.place).isSome then { written := true } else .create)

end State

def start (d : Disk) (root : String) : Except Disk.Fault State := ({} : State).watch d (d.absolute root)

end MoquiLint.Watch
