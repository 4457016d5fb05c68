import MoquiLint.Disk.Access
import MoquiLint.Markup.Token
import MoquiLint.Report.Component

/-! Which component owns a file. A file belongs to the nearest directory above it that holds a component
descriptor. Without one, the directory after the last `component` in its path names the component;
anything else belongs to a component named after the root. -/
namespace MoquiLint.Component

open Markup (Token tokenize localPart)

def descriptorFile : String := "component.xml"

def componentsFolder : String := "component"

/-- Whether the tokens close the open elements, innermost first, one after the other. -/
def closes : List String → List (Token × Nat) → Bool
  | [], _ => true
  | _ :: _, [] => false
  | top :: rest, (t, _) :: ts =>
    match t with
    | .start name _ => closes (name :: top :: rest) ts
    | .close name => name == top && closes rest ts
    | _ => closes (top :: rest) ts

/-- The name a descriptor's first element declares, empty if it declares none. None if that element is
missing or not closed; what follows it does not matter. -/
def declaredName? : List (Token × Nat) → Option String
  | [] => none
  | (t, _) :: ts =>
    match t with
    | .start tag attrs =>
      if closes [tag] ts then
        some (((attrs.reverse.find? fun a => localPart a.name == "name").map (·.value)).getD "")
      else none
    | .close _ => none
    | _ => declaredName? ts

/-- The name of a component with a descriptor: the declared one, else that of its directory. -/
def nameOf (folder : String) (descriptor : Bytes) : String :=
  match declaredName? (tokenize false descriptor).1 with
  | some name => if name == "" then Path.base folder else name
  | none => Path.base folder

def nameAt? (d : Disk) (folder : String) : Option String :=
  match d.read (Path.join [folder, descriptorFile]) with
  | .ok content => some (nameOf folder content)
  | .error _ => none

def upTo (root : String) : Nat → String → List String
  | 0, folder => [folder]
  | fuel + 1, folder =>
    if folder == root || Path.parent folder == folder then [folder]
    else folder :: upTo root fuel (Path.parent folder)

def lastIndex? (names : List String) (target : String) : Option Nat :=
  (names.reverse.idxOf? target).map fun i => names.length - 1 - i

def byPlace? (file : String) : Option (String × String) :=
  let names := Path.split file
  match lastIndex? names.dropLast componentsFolder with
  | none => none
  | some i =>
    if i + 2 < names.length then some (names.getD (i + 1) "", Str.join "/" (names.take (i + 2)))
    else none

/-- The directories a file may belong to by a descriptor: those above it from the root on, innermost first. -/
def foldersAbove (root file : String) : List String :=
  let folder := Path.parent file
  if Path.isWithin root folder then upTo root (Path.segments folder).length folder else []

/-- What is known of directories: the name of the component in each, empty if it holds no descriptor. -/
abbrev Known := List (String × String)

/-- The name of the component in a directory, if it holds a descriptor. Each directory is looked into once. -/
def lookUp (d : Disk) (known : Known) (folder : String) : Option String × Known :=
  match known.lookup folder with
  | some name => (if name == "" then none else some name, known)
  | none =>
    let name := (nameAt? d folder).getD ""
    (if name == "" then none else some name, (folder, name) :: known)

def nearest (d : Disk) : Known → List String → Option (String × String) × Known
  | known, [] => (none, known)
  | known, folder :: folders =>
    match lookUp d known folder with
    | (some name, known) => (some (name, folder), known)
    | (none, known) => nearest d known folders

def ownerFrom (d : Disk) (root : String) (known : Known) (file : String) : (String × String) × Known :=
  match nearest d known (foldersAbove root file) with
  | (some found, known) => (found, known)
  | (none, known) => ((byPlace? file).getD (Path.base root, root), known)

def owner (d : Disk) (root file : String) : String × String := (ownerFrom d root [] file).1

def assign (d : Disk) (root : String) : Known → List String → List (String × String × String) × Known
  | known, [] => ([], known)
  | known, file :: files =>
    let (found, known) := ownerFrom d root known file
    let (rest, known) := assign d root known files
    ((file, found) :: rest, known)

/-- The kind of a file: the first directory below its component, empty for files right in it. -/
def kindOf (folder file : String) : String :=
  match Path.relative? folder file with
  | none => ""
  | some rel =>
    match Path.split rel with
    | kind :: _ :: _ => if kind == ".." then "" else kind
    | _ => ""

def sortedSet (xs : List String) : List String := (xs.mergeSort Str.le).eraseDups

/-- The component of a name, with all of the given files whose owner has that name. Its directory is
that of its first file. -/
def gather (root : String) (owned : List (String × String × String)) (name : String) : Component :=
  let own := owned.filter fun o => o.2.1 == name
  let folder := (own.head?.map (·.2.2)).getD root
  { name := name
    path := (Path.relative? root folder).getD folder
    kinds := sortedSet ((own.map fun o => kindOf o.2.2 o.1).filter (· != ""))
    files := (own.map (·.1)).mergeSort Str.le }

def detect (d : Disk) (root : String) (files : List String) : List Component :=
  let root := d.absolute root
  let owned := (assign d root [] files).1
  (sortedSet (owned.map (·.2.1))).map (gather root owned)

end MoquiLint.Component
