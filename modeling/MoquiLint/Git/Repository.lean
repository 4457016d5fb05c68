import MoquiLint.Git.Exclude
import MoquiLint.Git.Index
import MoquiLint.Git.Settings

/-! Version stores of projects: finding the store a path belongs to, the commit it stands at, and the
files that differ from it. -/
namespace MoquiLint.Git

inductive Fault where
  | noRepository
  | noPrefix
  | referenceNotFound
  | malformedReferences
  | tooManyReferences
  | bare
  | linkedModules
  | object (fault : Object.Fault)
  | index (fault : Index.Fault)
  | settings (fault : Settings.Fault)
  | disk (fault : Disk.Fault)
  deriving DecidableEq, Repr

def Fault.message : Fault → String
  | .noRepository => "repository does not exist"
  | .noPrefix => ".git file has no gitdir:  prefix"
  | .referenceNotFound => "reference not found"
  | .malformedReferences => "malformed packed-ref"
  | .tooManyReferences => "max. recursion level reached"
  | .bare => "worktree not available in a bare repository"
  | .linkedModules => ".gitmodules is a symlink"
  | .object f => f.message
  | .index f => f.message
  | .settings f => f.message
  | .disk f => f.message

structure Repository where
  dot : String
  top : String
  deriving DecidableEq, Repr

def dotName : String := ".git"

def pointed (top : String) (content : Bytes) : Except Fault Repository :=
  let line := Text.toString (Text.decode content)
  if !Str.startsWith line "gitdir: " then .error .noPrefix
  else
    let target := String.ofList ((line.toList.drop 8).takeWhile (· != '\n'))
    .ok ⟨Path.resolve top (Str.trimSpace target), top⟩

def search (d : Disk) : Nat → String → Except Fault Repository
  | 0, _ => .error .noRepository
  | fuel + 1, path => do
    let folder ← match d.stat path with
      | .ok e => pure (if e.isFolder then path else Path.parent path)
      | .error f => if f.cause = .missing then pure path else throw (.disk f)
    let dot := Path.join [folder, dotName]
    match d.stat dot with
    | .ok (.folder _) => return ⟨dot, folder⟩
    | .ok _ =>
      match d.read dot with
      | .ok content => pointed folder content
      | .error f => throw (.disk f)
    | .error f =>
      if f.cause ≠ .missing then throw (.disk f)
      if Path.parent path == path then throw .noRepository
      search d fuel (Path.parent path)

inductive Target where
  | commit (id : Id)
  | reference (name : String)
  deriving DecidableEq, Repr

def Target.ofLine (line : String) : Target :=
  if Str.startsWith line "ref: " then .reference (String.ofList (line.toList.drop 5))
  else .commit (Id.ofText line)

namespace Repository

/-- Looks for a reference among lines of a commit and a name each. Comments and lines on tags are passed
over; a line after the one looked for does not matter. -/
def packedIn (name : String) : List String → Except Fault (Option Target)
  | [] => .ok none
  | l :: ls =>
    if l == "" || Str.startsWith l "#" || Str.startsWith l "^" then packedIn name ls
    else
      match Str.split ' ' l with
      | [id, n] => if n == name then .ok (some (Target.ofLine id)) else packedIn name ls
      | _ => .error .malformedReferences

def packed (r : Repository) (d : Disk) (name : String) : Except Fault (Option Target) :=
  match d.read? (Path.join [r.dot, "packed-refs"]) with
  | .error f => .error (.disk f)
  | .ok none => .ok none
  | .ok (some content) =>
    packedIn name ((Str.split '\n' (Text.toString (Text.decode content))).map fun l =>
      if Str.endsWith l "\r" then String.ofList l.toList.dropLast else l)

/-- The file of a reference; a name that leads out of the store has none. -/
def ownFile (r : Repository) (d : Disk) (name : String) : Bytes :=
  if Str.startsWith (Path.clean name) "../" then []
  else ((d.read (Path.join [r.dot, name])).toOption).getD []

/-- What a reference stands for: its own file comes before the file they are kept together in. -/
def reference (r : Repository) (d : Disk) (name : String) : Except Fault Target :=
  match r.ownFile d name with
  | b :: bs => .ok (Target.ofLine (Str.trimSpace (Text.toString (Text.decode (b :: bs)))))
  | [] => do
    match ← r.packed d name with
    | some t => return t
    | none => throw .referenceNotFound

def maxReferences : Nat := 1025

def follow (r : Repository) (d : Disk) : Nat → Target → Except Fault Id
  | _, .commit id => .ok id
  | 0, .reference _ => .error .tooManyReferences
  | fuel + 1, .reference name => do follow r d fuel (← r.reference d name)

def head (r : Repository) (d : Disk) : Except Fault Id := do
  follow r d maxReferences (← r.reference d "HEAD")

def index (r : Repository) (d : Disk) : Except Fault Index :=
  match d.read? (Index.file r.dot) with
  | .error f => .error (.disk f)
  | .ok none => .ok []
  | .ok (some content) =>
    (Index.ofBytes content).mapError .index

def headLines (body : Bytes) : List String :=
  ((Str.split '\n' (Text.toString (Text.decode body))).map Str.trimSpace).takeWhile (· != "")

/-- The tree of a commit: the last one its head names. -/
def treeOf (body : Bytes) : Id :=
  ((headLines body).reverse.findSome? fun l =>
    if Str.startsWith l "tree " then some (Id.ofText (String.ofList (l.toList.drop 5))) else none).getD Id.zero

def treeAt (r : Repository) (d : Disk) (id : Id) : Except Fault Id := do
  return treeOf (← (Object.load d r.dot .commit id).mapError .object).body

def maxDepth : Nat := 1000

/-- The files of a commit; the commit of no name has none. -/
def committed (r : Repository) (d : Disk) (id : Id) : Except Fault (List Node) := do
  if id = Id.zero then return []
  let ms ← (membersOf d r.dot (← r.treeAt d id)).mapError .object
  return Node.ofMembers d r.dot maxDepth ms

def settings (d : Disk) (path : String) : Except Fault (List Settings.Line) :=
  match d.read? path with
  | .error f => .error (.disk f)
  | .ok none => .ok []
  | .ok (some content) => (Settings.read content).mapError .settings

def modulesFile : String := ".gitmodules"

structure Module where
  name : String
  path : String
  deriving DecidableEq, Repr

/-- The modules that a file of settings names. A path that leads upwards does not count. -/
def modulesOf (lines : List Settings.Line) : List Module :=
  (Settings.partsOf "submodule" lines).filterMap fun part =>
    let path := Settings.valueOf "submodule" part "path" lines
    let url := Settings.valueOf "submodule" part "url" lines
    let upwards := (Seq.splitOn (fun c => c == '/' || c == '\\') path.toList).contains ['.', '.']
    if path != "" && url != "" && upwards then none else some ⟨part, path⟩

/-- The commits that the modules of a working tree stand at, by path. A module that was set up tells it
by itself; for all others it is what the index says. -/
def modules (r : Repository) (d : Disk) (ix : Index) : Except Fault (List (String × Id)) := do
  let path := Path.join [r.top, modulesFile]
  match d.lstat path with
  | .ok (.link _) => throw .linkedModules
  | .error f => if f.cause = .missing then return []
  | _ => pure ()
  let named := modulesOf (← settings d path)
  let known := modulesOf (← settings d (Path.join [r.dot, "config"]))
  named.mapM fun m => do
    let expected := ((ix.find? m.path).map fun e => e.tracked.id).getD Id.zero
    if !known.any fun k => k.name == m.name then return (m.path, expected)
    let own : Repository := ⟨Path.join [r.dot, "modules", m.name], Path.join [r.top, m.path]⟩
    match own.head d with
    | .ok id => return (m.path, if id = Id.zero then expected else id)
    | .error .referenceNotFound => return (m.path, expected)
    | .error f => throw f

end Repository

/-- The store a path belongs to. It counts only if it tells where the working tree stands. -/
def openAt (d : Disk) (path : String) : Except Fault Repository := do
  let path := d.absolute path
  let r ← search d ((Path.segments path).length + 1) path
  match d.stat r.dot with
  | .ok _ => pure ()
  | .error f => throw (if f.cause = .missing then .noRepository else .disk f)
  match r.reference d "HEAD" with
  | .ok _ => return r
  | .error .referenceNotFound => throw .noRepository
  | .error f => throw f

/-- What a link says, as seen from the top of a working tree: an absolute path starts there. -/
def linkText (top target : String) : String :=
  if Path.isAbsolute target then "/" ++ (Path.relative? top target).getD "" else target

/-- The object a file of the working tree is kept as, and its mode. Folders and sockets are not kept. -/
def kept? (top : String) : Entry → Option (Object × Nat)
  | .file content => some (⟨.blob, content⟩, plainMode)
  | .link target => some (⟨.blob, utf8 (linkText top target)⟩, linkMode)
  | _ => none

def isSocket : Entry → Bool
  | .socket => true
  | _ => false

mutual

/-- What a directory of the working tree holds. A module counts as a file. -/
def worktree (top : String) (modules : List (String × Id)) (path : List String) : Entry → List Node
  | .folder ms => worktreeAll top modules path ms
  | _ => []

def worktreeAll (top : String) (modules : List (String × Id)) (path : List String) :
    List (String × Entry) → List Node
  | [] => []
  | (n, e) :: ms =>
    let rest := worktreeAll top modules path ms
    if n == dotName || isSocket e then rest
    else
      match modules.lookup (Str.join "/" (path ++ [n])), kept? top e with
      | some id, _ => .file n ⟨moduleMode, id⟩ false :: rest
      | none, some (o, mode) => .file n ⟨mode, o.id⟩ false :: rest
      | none, none => .folder n false (worktree top modules (path ++ [n]) e) :: rest

end

inductive Mark where
  | unmodified | untracked | modified | added | deleted
  deriving DecidableEq, Repr

/-- What became of a file: in the index against the commit, and in the working tree against the index. -/
structure Marks where
  staging : Mark := .untracked
  worktree : Mark := .untracked
  deriving DecidableEq, Repr

abbrev Status := List (String × Marks)

namespace Status

/-- What became of a file; one that is not listed is not tracked. -/
def marksOf (s : Status) (path : String) : Marks := (s.lookup path).getD {}

def stage (s : Status) (c : Change) : Status :=
  let path := Str.join "/" c.path
  let mark := match c.action with
    | .delete => .deleted
    | .insert => .added
    | .modify => .modified
  Keyed.insert path ⟨mark, .unmodified⟩ s

def touch (s : Status) (c : Change) : Status :=
  let path := Str.join "/" c.path
  let old := s.marksOf path
  let staging := if old.staging = .untracked then .unmodified else old.staging
  Keyed.insert path
    (match c.action with
    | .delete => ⟨staging, .deleted⟩
    | .insert => ⟨.untracked, .untracked⟩
    | .modify => ⟨staging, .modified⟩)
    s

end Status

def Repository.status (r : Repository) (d : Disk) : Except Fault Status := do
  let id ← match r.head d with
    | .ok id => pure id
    | .error .referenceNotFound => pure Id.zero
    | .error f => throw f
  let committed ← r.committed d id
  let ix ← r.index d
  let modules ← r.modules d ix
  match d.stat r.top with
  | .error f => throw (.disk f)
  | .ok e =>
    let ps := Exclude.collect d r.top [] e
    let staged := Change.between committed ix.view
    let touched := (Change.between ix.view (worktree r.top modules [] e)).filter fun c =>
      !(c.action == .insert && Exclude.ignores ps c.path false)
    return touched.foldl Status.touch (staged.foldl Status.stage [])

/-- The relative paths of the files that differ from what was committed. Files that are gone are left
out. -/
def Repository.changed (r : Repository) (d : Disk) : Except Fault (List String) := do
  return ((← r.status d).filter fun (_, m) =>
    m.staging ≠ .deleted && m.worktree ≠ .deleted && m ≠ ⟨.unmodified, .unmodified⟩).map (·.1)

inductive Problem where
  | opening (fault : Fault)
  | head (fault : Fault)
  | status (fault : Fault)
  deriving DecidableEq, Repr

def Problem.message : Problem → String
  | .opening f => "opening git repo: " ++ f.message
  | .head f => "getting HEAD: " ++ f.message
  | .status f => "reading status: " ++ f.message

def isRepository (d : Disk) (project : String) : Bool := (openAt d project).isOk

def commitHash (d : Disk) (project : String) : Except Problem Id :=
  match openAt d project with
  | .error f => .error (.opening f)
  | .ok r =>
    match r.head d with
    | .error f => .error (.head f)
    | .ok id => .ok id

/-- The absolute paths of a project's files that differ from what was committed, sorted. -/
def changedFiles (d : Disk) (project : String) : Except Problem (List String) :=
  match openAt d project with
  | .error f => .error (.opening f)
  | .ok r =>
    match r.changed d with
    | .error f => .error (.status f)
    | .ok paths => .ok ((paths.map fun p => Path.join [r.top, p]).mergeSort Str.le)

end MoquiLint.Git
