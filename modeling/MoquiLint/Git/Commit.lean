import MoquiLint.Git.Repository

/-! Making a version store, adding files to its index and committing the index. -/
namespace MoquiLint.Git

inductive Refusal where
  | exists
  | nothingToCommit
  | entryNotFound
  | outside
  | store (fault : Fault)
  | disk (fault : Disk.Fault)
  deriving DecidableEq, Repr

def Refusal.message : Refusal → String
  | .exists => "repository already exists"
  | .nothingToCommit => "cannot create empty commit: clean working tree"
  | .entryNotFound => "entry not found"
  | .outside => "chroot boundary crossed"
  | .store f => f.message
  | .disk f => f.message

def init (d : Disk) (top : String) : Except Refusal Disk := do
  let r : Repository := ⟨Path.join [top, dotName], top⟩
  let d ← (["objects/info", "objects/pack", "refs/heads", "refs/tags"].foldlM
    (fun (d : Disk) p => d.makeFolders (Path.join [r.dot, p])) d).mapError .disk
  match r.reference d "HEAD" with
  | .ok _ => throw .exists
  | .error .referenceNotFound => pure ()
  | .error f => throw (.store f)
  let d ← (d.write (Path.join [r.dot, "HEAD"]) (utf8 "ref: refs/heads/master\n")).mapError .disk
  (d.write (Path.join [r.dot, "config"]) (utf8 "[core]\n\tbare = false\n")).mapError .disk

namespace Repository

/-- Brings the index up to date on one file. A file that is gone leaves it; one that is known to be as in
the index stays as it is. -/
def addFile (r : Repository) (s : Status) (path : String) (d : Disk) (ix : Index) :
    Except Refusal (Disk × Index) := do
  if (s.marksOf path).worktree = .unmodified then return (d, ix)
  if Str.startsWith path "../" then throw .outside
  match d.lstat (Path.join [r.top, path]) with
  | .error f =>
    if f.cause ≠ .missing then throw (.disk f)
    if (ix.find? path).isNone then throw .entryNotFound
    return (d, ix.erase path)
  | .ok e =>
    match kept? r.top e with
    | some (o, mode) =>
      let d ← (o.save d r.dot).mapError .disk
      return (d, ix.insert path ⟨mode, o.id⟩)
    | none =>
      let _ ← (d.read (Path.join [r.top, path])).mapError .disk
      return (d, ix)

def add (r : Repository) (d : Disk) (path : String) : Except Refusal Disk := do
  let ix ← (r.index d).mapError .store
  let s ← (r.status d).mapError .store
  let path := Path.clean path
  let paths := match d.lstat (Path.join [r.top, path]) with
    | .ok (.folder _) =>
      (List.map Prod.fst s).filter fun p => path == "." || Str.startsWith p (path ++ "/")
    | _ => [path]
  let (d, ix) ← paths.foldlM (fun (d, ix) p => r.addFile s p d ix) (d, ix)
  (d.write (Index.file r.dot) ix.bytes).mapError .disk

/-- The name a member of a tree is sorted by: directories as if a slash followed. -/
def sortKey (m : String × Tracked) : String := if m.2.mode = treeMode then m.1 ++ "/" else m.1

def treeBytes (ms : List (String × Tracked)) : Bytes :=
  (ms.mergeSort fun a b => Str.le (sortKey a) (sortKey b)).flatMap fun m =>
    utf8 (octal m.2.mode ++ " " ++ m.1) ++ 0 :: Id.bytes m.2.id

/-- Keeps the tree of some files, given by the names on the way to them. A file and a directory of one
name are both kept. The fuel is at least the length of the longest way. -/
def saveTree (r : Repository) :
    Nat → Disk → List (List String × Tracked) → Except Disk.Fault (Disk × Id)
  | 0, d, _ => .ok (d, Id.zero)
  | fuel + 1, d, files => do
    let own := files.filterMap fun f => match f.1 with
      | [n] => some (n, f.2)
      | _ => none
    let below := files.filterMap fun f => match f.1 with
      | n :: m :: path => some (n, m :: path, f.2)
      | _ => none
    let (d, folders) ← (below.map (·.1)).eraseDups.foldlM
      (fun (d, ms) n => do
        let (d, id) ← saveTree r fuel d ((below.filter fun f => f.1 == n).map (·.2))
        return (d, ms ++ [(n, (⟨treeMode, id⟩ : Tracked))]))
      (d, ([] : List (String × Tracked)))
    let o : Object := ⟨.tree, treeBytes (own ++ folders)⟩
    return (← o.save d r.dot, o.id)

/-- Commits the index in the name of a person at a time, unless nothing differs from the last commit. -/
def commit (r : Repository) (d : Disk) (person message : String) : Except Refusal Disk := do
  let parent ← match r.head d with
    | .ok id => pure (some id)
    | .error .referenceNotFound => pure none
    | .error f => throw (.store f)
  let ix ← (r.index d).mapError .store
  if parent.isNone && ix.isEmpty then throw .nothingToCommit
  let files := ix.map fun e => (Path.split e.path, e.tracked)
  let (d, tree) ←
    (r.saveTree ((files.map fun f => f.1.length).foldl max 0 + 1) d files).mapError .disk
  let last ← match parent with
    | some id => (r.treeAt d id).mapError .store
    | none => pure Id.zero
  if tree = last then throw .nothingToCommit
  let line := (parent.map fun id => "parent " ++ id ++ "\n").getD ""
  let o : Object := ⟨.commit, utf8 ("tree " ++ tree ++ "\n" ++ line ++ "author " ++ person ++
    "\ncommitter " ++ person ++ "\n\n" ++ message)⟩
  let name := match r.reference d "HEAD" with
    | .ok (.reference name) => name
    | _ => "HEAD"
  let path := Path.join [r.dot, name]
  Except.mapError .disk do
    let d ← o.save d r.dot
    let d ← d.makeFolders (Path.parent path)
    d.write path (utf8 (o.id ++ "\n"))

end Repository

end MoquiLint.Git
