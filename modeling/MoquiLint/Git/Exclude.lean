import MoquiLint.Disk.Access

/-! Which untracked files a working tree ignores. Patterns come from the ignore files of all directories
and count below the directory they were found in; the last one that applies decides. -/
namespace MoquiLint.Git

/-! Patterns for single names: `*` for any characters, `?` for one, a class in brackets for one of some,
and a backslash that takes the next character as it is. -/
namespace Wildcard

def readEnd : List Char → Option (Char × List Char)
  | [] | '-' :: _ | ']' :: _ | ['\\'] => none
  | '\\' :: c :: rest => some (c, rest)
  | c :: rest => some (c, rest)

def readClass (c : Char) (held : Bool) : Nat → List Char → Option (Bool × List Char)
  | 0, _ => none
  | fuel + 1, cs =>
    match readEnd cs with
    | none => none
    | some (lo, rest) =>
      let range := match rest with
        | '-' :: rest => readEnd rest
        | rest => some (lo, rest)
      match range with
      | none => none
      | some (hi, rest) =>
        let held := held || (lo ≤ c && c ≤ hi)
        match rest with
        | ']' :: rest => some (held, rest)
        | rest => readClass c held fuel rest

/-- Whether a name matches; a malformed pattern matches nothing. The fuel is at least the length of
pattern and name together. -/
def run : Nat → List Char → List Char → Bool
  | 0, _, _ => false
  | _ + 1, [], name => name.isEmpty
  | fuel + 1, '*' :: p, name =>
    run fuel p name ||
      match name with
      | [] => false
      | _ :: rest => run fuel ('*' :: p) rest
  | fuel + 1, '?' :: p, name =>
    match name with
    | [] => false
    | _ :: rest => run fuel p rest
  | fuel + 1, '[' :: p, name =>
    match name with
    | [] => false
    | c :: rest =>
      let (negated, p) := match p with
        | '^' :: p => (true, p)
        | p => (false, p)
      match readClass c false p.length p with
      | none => false
      | some (held, p) => held != negated && run fuel p rest
  | _ + 1, ['\\'], _ => false
  | fuel + 1, '\\' :: x :: p, name =>
    match name with
    | [] => false
    | c :: rest => c == x && run fuel p rest
  | fuel + 1, x :: p, name =>
    match name with
    | [] => false
    | c :: rest => c == x && run fuel p rest

def accepts (pattern name : String) : Bool :=
  run (pattern.length + name.length + 1) pattern.toList name.toList

end Wildcard

namespace Exclude

structure Pattern where
  domain : List String
  parts : List String
  includes : Bool
  foldersOnly : Bool
  deriving DecidableEq, Repr

def pattern (domain : List String) (line : String) : Pattern :=
  let (includes, p) := match line.toList with
    | '!' :: p => (true, p)
    | p => (false, p)
  let p := if [' ', '\\'].isPrefixOf p.reverse then p else Seq.dropRightWhile (· == ' ') p
  let foldersOnly := p.getLast? == some '/'
  let p := if foldersOnly then p.dropLast else p
  ⟨domain, Str.split '/' (String.ofList p), includes, foldersOnly⟩

def matchesName (p : String) (foldersOnly isFolder : Bool) : List String → Bool
  | [] => false
  | n :: ns =>
    if Wildcard.accepts p n then !(foldersOnly && !isFolder && ns.isEmpty)
    else matchesName p foldersOnly isFolder ns

def skipTo (p : String) : List String → Option (List String)
  | [] => none
  | n :: ns => if Wildcard.accepts p n then some ns else skipTo p ns

/-- Matches the parts of a pattern against a path from the left: what is left of the path and whether
the last part that was matched fits. `roam` tells that names may be skipped before the next part. -/
def matchParts (roam matched : Bool) : List String → List String → Option (Bool × List String)
  | [], path => some (matched, path)
  | p :: ps, path =>
    if p == "" then matchParts false matched ps path
    else if p == "**" then if ps.isEmpty then some (matched, path) else matchParts true matched ps path
    else if Str.contains p "**" then none
    else
      match path with
      | [] => none
      | n :: ns =>
        if roam then
          match skipTo p (n :: ns) with
          | some rest => matchParts false true ps rest
          | none => matchParts false false ps []
        else if Wildcard.accepts p n then matchParts false true ps ns
        else none

def Pattern.applies (p : Pattern) (path : List String) (isFolder : Bool) : Bool :=
  if path.length ≤ p.domain.length || !p.domain.isPrefixOf path then false
  else
    let path := path.drop p.domain.length
    match p.parts with
    | [name] => matchesName name p.foldersOnly isFolder path
    | parts =>
      match matchParts false false parts path with
      | none => false
      | some (matched, rest) => matched && !(p.foldersOnly && !isFolder && rest.isEmpty)

/-- Whether the patterns ignore a path: the last one that applies decides. -/
def ignores (ps : List Pattern) (path : List String) (isFolder : Bool) : Bool :=
  match ps.reverse.find? fun p => p.applies path isFolder with
  | some p => !p.includes
  | none => false

def patternsOf (domain : List String) (content : Bytes) : List Pattern :=
  let lines := (Str.split '\n' (Text.toString (Text.decode content))).map fun l =>
    if Str.endsWith l "\r" then String.ofList l.toList.dropLast else l
  (lines.filter fun l => !Str.startsWith l "#" && Str.trimSpace l != "").map (pattern domain)

def patternsAt (d : Disk) (top : String) (domain : List String) (file : String) : List Pattern :=
  match d.read (Path.join (top :: domain ++ [file])) with
  | .ok content => patternsOf domain content
  | .error _ => []

mutual

def collect (d : Disk) (top : String) (domain : List String) : Entry → List Pattern
  | .folder ms =>
    collectAll d top domain ms
      (patternsAt d top domain ".git/info/exclude" ++ patternsAt d top domain ".gitignore")
  | _ => []

def collectAll (d : Disk) (top : String) (domain : List String) :
    List (String × Entry) → List Pattern → List Pattern
  | [], ps => ps
  | (n, e) :: ms, ps =>
    if e.isFolder && n != ".git" && !ignores ps (domain ++ [n]) true then
      collectAll d top domain ms (ps ++ collect d top (domain ++ [n]) e)
    else collectAll d top domain ms ps

end

end Exclude

end MoquiLint.Git
