import MoquiLint.Keyed
import MoquiLint.Path

/-! File trees. A folder holds its entries by name, sorted, each name at most once. -/
namespace MoquiLint

inductive Entry where
  | file (content : Bytes)
  | folder (members : List (String × Entry))
  /-- A symbolic link, read from the directory it lies in. -/
  | link (target : String)
  /-- A node that can be looked at but not opened. -/
  | socket
  deriving Inhabited

namespace Entry

def isFolder : Entry → Bool
  | .folder _ => true
  | _ => false

def member? (e : Entry) (name : String) : Option Entry :=
  match e with
  | .folder ms => ms.lookup name
  | _ => none

/-- The entry at a place below this one; links on the way are not followed. -/
def at? (e : Entry) : List String → Option Entry
  | [] => some e
  | n :: ns => (e.member? n).bind fun f => f.at? ns

/-- The tree with an entry put at a place, or taken away from it. Nothing changes unless the place lies
in a folder. -/
def set (e : Entry) (new : Option Entry) : List String → Entry
  | [] => new.getD e
  | [n] =>
    match e, new with
    | .folder ms, some f => .folder (Keyed.insert n f ms)
    | .folder ms, none => .folder (ms.filter fun m => m.1 != n)
    | e, _ => e
  | n :: ns =>
    match e with
    | .folder ms =>
      match ms.lookup n with
      | some f => .folder (Keyed.insert n (f.set new ns) ms)
      | none => .folder ms
    | e => e

end Entry

/-- A file tree and the directory that relative paths start from. Places are given by the names on the
way from the root. -/
structure Disk where
  root : Entry := .folder []
  here : List String := []
  deriving Inhabited

namespace Disk

def hereName (d : Disk) : String := Path.spell true d.here

def absolute (d : Disk) (p : String) : String := Path.resolve d.hereName p

inductive Cause where
  | missing | notFolder | isFolder | tooManyLinks | nameTooLong | invalid | noDevice | notEmpty | taken
  deriving DecidableEq, Repr

def Cause.message : Cause → String
  | .missing => "no such file or directory"
  | .notFolder => "not a directory"
  | .isFolder => "is a directory"
  | .tooManyLinks => "too many levels of symbolic links"
  | .nameTooLong => "file name too long"
  | .invalid => "invalid argument"
  | .noDevice => "no such device or address"
  | .notEmpty => "directory not empty"
  | .taken => "file exists"

structure Fault where
  action : String
  path : String
  cause : Cause
  deriving DecidableEq, Repr

def Fault.message (f : Fault) : String := f.action ++ " " ++ f.path ++ ": " ++ f.cause.message

def maxLinks : Nat := 40

def maxName : Nat := 255

/-- Where a path leads: to an entry, or to a free name in an existing folder. -/
structure Spot where
  place : List String
  entry : Option Entry

/-- Follows names from a folder. A link counts as the path it holds, from where `jump` goes on; the last
name of all is taken as it is unless links are to be followed there too. Places are kept innermost name
first. -/
def walk (d : Disk) (last : Bool) (jump : List String → List String → Except Cause Spot)
    (place : List String) : List String → Except Cause Spot
  | [] => .ok ⟨place.reverse, d.root.at? place.reverse⟩
  | n :: ns =>
    if n == "" || n == "." then walk d last jump place ns
    else if n == ".." then walk d last jump place.tail ns
    else if maxName < n.utf8ByteSize then .error .nameTooLong
    else
      match d.root.at? (n :: place).reverse with
      | none => if ns.isEmpty then .ok ⟨(n :: place).reverse, none⟩ else .error .missing
      | some (.folder _) => walk d last jump (n :: place) ns
      | some (.link target) =>
        if ns.isEmpty && !last then .ok ⟨(n :: place).reverse, some (.link target)⟩
        else jump (if Path.isAbsolute target then [] else place) (Path.split target ++ ns)
      | some e => if ns.isEmpty then .ok ⟨(n :: place).reverse, some e⟩ else .error .notFolder

def follow (d : Disk) (last : Bool) : Nat → List String → List String → Except Cause Spot
  | 0 => walk d last fun _ _ => .error .tooManyLinks
  | links + 1 => walk d last (follow d last links)

def locate (d : Disk) (last : Bool) (path : String) : Except Cause Spot :=
  if path == "" then .error .missing
  else if path.toList.contains '\x00' then .error .invalid
  else follow d last maxLinks (if Path.isAbsolute path then [] else d.here.reverse) (Path.split path)

def entryAt (d : Disk) (last : Bool) (path : String) : Except Cause Entry := do
  match (← d.locate last path).entry with
  | some e => return e
  | none => throw .missing

end Disk

end MoquiLint
