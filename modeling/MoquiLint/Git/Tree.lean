import MoquiLint.Git.Pack

/-! Files and directories as a commit, the index or the working tree sees them, and what differs between
two such views. -/
namespace MoquiLint.Git

def octalValue? (ds : Bytes) : Option Nat :=
  if !ds.isEmpty && ds.all fun b => 48 ≤ b && b ≤ 55 then
    let n := ds.foldl (fun n b => 8 * n + (b.toNat - 48)) 0
    if n < 0x100000000 then some n else none
  else none

/-- The members of a tree: mode, name and object of each. What has no blank any more is not looked at. -/
def members : Nat → Bytes → Except Object.Fault (List (String × Tracked))
  | 0, _ => .ok []
  | fuel + 1, bs =>
    match cutUntil 32 bs with
    | .error _ => .ok []
    | .ok (digits, rest) => do
      match octalValue? digits with
      | none => throw (.mode (Text.decode digits))
      | some mode =>
        let name := rest.takeWhile (· != 0)
        let (id, rest) ← (cut 20 (rest.drop (name.length + 1))).mapError .short
        return (Text.toString (Text.decode name), ⟨mode, Id.ofBytes id⟩) :: (← members fuel rest)

def membersOf (d : Disk) (dot : String) (id : Id) : Except Object.Fault (List (String × Tracked)) := do
  let o ← Object.load d dot .tree id
  members o.body.length o.body

/-- A file or a directory. Those that are hidden are left out of the working tree on purpose. -/
inductive Node where
  | file (name : String) (tracked : Tracked) (hidden : Bool)
  | folder (name : String) (hidden : Bool) (members : List Node)
  deriving Repr

namespace Node

def name : Node → String
  | .file n _ _ => n
  | .folder n _ _ => n

def hidden : Node → Bool
  | .file _ _ h => h
  | .folder _ h _ => h

mutual

def size : Node → Nat
  | .file _ _ _ => 1
  | .folder _ _ ms => 1 + sizes ms

def sizes : List Node → Nat
  | [] => 0
  | n :: ns => n.size + sizes ns

end

mutual

def files (path : List String) : Node → List (List String)
  | .file _ _ _ => [path]
  | .folder _ _ ms => filesOf path ms

def filesOf (path : List String) : List Node → List (List String)
  | [] => []
  | n :: ns => files (path ++ [n.name]) n ++ filesOf path ns

end

/-- What the members of a tree stand for. A directory that cannot be read ends the list. The fuel bounds
the depth. -/
def ofMembers (d : Disk) (dot : String) : Nat → List (String × Tracked) → List Node
  | 0, _ => []
  | _ + 1, [] => []
  | fuel + 1, (n, t) :: ms =>
    if t.mode = treeMode then
      match membersOf d dot t.id with
      | .error _ => []
      | .ok inner => .folder n false (ofMembers d dot fuel inner) :: ofMembers d dot (fuel + 1) ms
    else
      let mode := if t.mode = sharedMode then plainMode else t.mode
      .file n ⟨mode, t.id⟩ false :: ofMembers d dot (fuel + 1) ms
termination_by fuel ms => (fuel, ms.length)

/-- Puts a file at a path, with the directories on the way. What is there already stays. -/
def place (t : Tracked) (hidden : Bool) : List String → List Node → List Node
  | [], ns => ns
  | [n], [] => [.file n t hidden]
  | n :: path, [] => [.folder n hidden (place t hidden path [])]
  | n :: path, node :: ns =>
    if node.name != n then node :: place t hidden (n :: path) ns
    else
      match node with
      | .folder m h ms => .folder m h (place t hidden path ms) :: ns
      | .file m u h => .file m u h :: ns
termination_by path ns => (path.length, ns.length)

end Node

inductive Action where
  | delete | insert | modify
  deriving DecidableEq, Repr

structure Change where
  path : List String
  action : Action
  deriving DecidableEq, Repr

namespace Change

/-- The members of a directory with their paths, in the order of names. Of two of one name the last comes
first. -/
def below (path : List String) (ns : List Node) : List (List String × Node) :=
  (ns.reverse.mergeSort fun a b => Str.le a.name b.name).map fun n => (path ++ [n.name], n)

def all (action : Action) (item : List String × Node) : List Change :=
  (item.2.files item.1).map fun p => ⟨p, action⟩

/-- Whether two files are the same. What has neither mode nor content is never the same. -/
def same (t u : Tracked) : Bool := t == u && t != ⟨0, Id.zero⟩

/-- Walks through two views side by side in the order of paths. A hidden file or directory is passed over
together with what has the same name on the other side at that moment. The fuel is more than the number
of all files and directories. -/
def walk : Nat → List (List String × Node) → List (List String × Node) → List Change
  | 0, _, _ => []
  | _ + 1, [], [] => []
  | fuel + 1, a :: old, [] => (if a.2.hidden then [] else all .delete a) ++ walk fuel old []
  | fuel + 1, [], b :: new => (if b.2.hidden then [] else all .insert b) ++ walk fuel [] new
  | fuel + 1, a :: old, b :: new =>
    if a.2.hidden then if a.2.name == b.2.name then walk fuel old new else walk fuel old (b :: new)
    else if b.2.hidden then if a.2.name == b.2.name then walk fuel old new else walk fuel (a :: old) new
    else if a.1 == b.1 then
      match a.2, b.2 with
      | .file _ t _, .file _ u _ =>
        if same t u then walk fuel old new else ⟨a.1, .modify⟩ :: walk fuel old new
      | .folder _ _ [], .folder _ _ _ => all .insert b ++ walk fuel old new
      | .folder _ _ _, .folder _ _ [] => all .delete a ++ walk fuel old new
      | .folder _ _ xs, .folder _ _ ys => walk fuel (below a.1 xs ++ old) (below b.1 ys ++ new)
      | _, _ => all .delete a ++ all .insert b ++ walk fuel old new
    else if a.1 < b.1 then all .delete a ++ walk fuel old (b :: new)
    else all .insert b ++ walk fuel (a :: old) new

def between (old new : List Node) : List Change :=
  walk (Node.sizes old + Node.sizes new + 1) (below [] old) (below [] new)

end Change

end MoquiLint.Git
