import MoquiLint.Scan
import MoquiLint.Watch

/-! Watching a directory while things happen in it. At any time folders are made, and files are written and
removed. The watcher is told of what is made or written in a folder that it watches at that moment. It takes notice
of one change after the other, and at every tick it hands over what it has collected. -/
namespace MoquiLint.Watch

/-- The root of a watched tree: its path, and the place where it stands. -/
structure Site where
  path : String
  base : List String
  deriving DecidableEq, Repr

def isFileName (n : String) : Bool :=
  n != "" && n != "." && n != ".." && !n.toList.contains '/' && !n.toList.contains '\x00' &&
    n.utf8ByteSize ≤ Disk.maxName

/-- What happens next: something under a name in a folder below the root, or the watcher takes a step. -/
inductive Act where
  | makeFolder (dirs : List String) (name : String)
  | write (dirs : List String) (name : String) (content : Bytes)
  | remove (dirs : List String) (name : String)
  | notice
  | tick
  deriving DecidableEq, Repr

structure Run where
  disk : Disk
  watcher : State
  told : List (String × Operation) := []
  handed : List String := []
  deriving Inhabited

namespace Run

def start (d : Disk) (root : String) : Except Disk.Fault Run :=
  (Watch.start d root).map fun s => { disk := d, watcher := s }

def under? (t : Site) (r : Run) (dirs : List String) (name : String) : Option (Option Entry) :=
  if (dirs ++ [name]).all isFileName then
    match r.disk.root.at? (t.base ++ dirs) with
    | some (.folder ms) => some (ms.lookup name)
    | _ => none
  else none

/-- Puts an entry under a name. The watcher is told of it if it watches the folder. -/
def put (t : Site) (r : Run) (dirs : List String) (name : String) (e : Entry) (o : Operation) : Run :=
  { r with
    disk := r.disk.put (t.base ++ dirs ++ [name]) e
    told :=
      if r.watcher.watched.contains (Scan.place t.path dirs) then
        r.told ++ [(Scan.place t.path (dirs ++ [name]), o)]
      else r.told }

def step? (t : Site) (r : Run) : Act → Option Run
  | .makeFolder dirs name =>
    match r.under? t dirs name with
    | some none => some (r.put t dirs name (.folder []) .create)
    | _ => none
  | .write dirs name content =>
    match r.under? t dirs name with
    | some none => some (r.put t dirs name (.file content) .create)
    | some (some (.file _)) => some (r.put t dirs name (.file content) { written := true })
    | _ => none
  | .remove dirs name =>
    match r.under? t dirs name with
    | some (some (.file _)) => some { r with disk := r.disk.erase (t.base ++ dirs ++ [name]) }
    | _ => none
  | .notice =>
    match r.told with
    | [] => none
    | (path, o) :: told => some { r with watcher := (r.watcher.notice r.disk path o).1, told := told }
  | .tick =>
    let (watcher, batch) := r.watcher.flush r.disk
    some { r with watcher := watcher, handed := r.handed ++ batch.getD [] }

def follow (t : Site) (r : Run) : List Act → Option Run
  | [] => some r
  | a :: acts => (r.step? t a).bind fun r' => r'.follow t acts

end Run

end MoquiLint.Watch
