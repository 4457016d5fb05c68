import MoquiLint.Text.Edit

/-! Slash-separated paths: clean spellings, joining, parts of a path and the relative path from one to
another. Everything here is about spellings; no file is looked at. -/
namespace MoquiLint.Path

def isAbsolute (p : String) : Bool := Str.startsWith p "/"

def split (p : String) : List String := Str.split '/' p

/-- Puts a name on a stack of names, innermost first. Blank names and `.` are dropped and `..` takes a
name back. With nothing to take back it stays, unless the path starts at the root. -/
def push (absolute : Bool) (stack : List String) (name : String) : List String :=
  if name == "" || name == "." then stack
  else if name == ".." then
    match stack with
    | [] => if absolute then [] else [".."]
    | top :: rest => if top == ".." then ".." :: top :: rest else rest
  else name :: stack

def segments (p : String) : List String :=
  ((split p).foldl (push (isAbsolute p)) []).reverse

def spell (absolute : Bool) (names : List String) : String :=
  if absolute then "/" ++ Str.join "/" names
  else if names.isEmpty then "."
  else Str.join "/" names

/-- The shortest spelling of the path that means the same if no link is involved. -/
def clean (p : String) : String := spell (isAbsolute p) (segments p)

/-- The clean path through all the given ones; empty ones do not count. -/
def join (ps : List String) : String :=
  match ps.filter (· != "") with
  | [] => ""
  | qs => clean (Str.join "/" qs)

def resolve (folder p : String) : String := if isAbsolute p then clean p else join [folder, p]

def afterSlash (p : String) : String := String.ofList (p.toList.reverse.takeWhile (· != '/')).reverse

def throughSlash (p : String) : String := String.ofList (p.toList.reverse.dropWhile (· != '/')).reverse

def parent (p : String) : String := clean (throughSlash p)

def base (p : String) : String :=
  if p == "" then "."
  else
    let name := afterSlash (String.ofList (Seq.dropRightWhile (· == '/') p.toList))
    if name == "" then "/" else name

def extension (p : String) : String :=
  let name := (afterSlash p).toList.reverse
  if name.contains '.' then String.ofList ('.' :: (name.takeWhile (· != '.')).reverse) else ""

def isXml (p : String) : Bool := Str.equalFold (extension p) ".xml"

def dropCommon : List String → List String → List String × List String
  | a :: as, b :: bs => if a == b then dropCommon as bs else (a :: as, b :: bs)
  | as, bs => (as, bs)

/-- How to get from one path to the other by going up first. None if one is absolute and the other is
not, or if the way up cannot be known. -/
def relative? (origin target : String) : Option String :=
  if clean origin == clean target then some "."
  else if isAbsolute origin != isAbsolute target then none
  else
    let (up, down) := dropCommon (segments origin) (segments target)
    match up with
    | ".." :: _ => none
    | [] => some (Str.join "/" down)
    | up =>
      let down := if clean target == "." then ["."] else down
      some (Str.join "/" (up.map (fun _ => "..") ++ down))

/-- Whether the path is one of the roots or lies below one, judged by the spelling alone. -/
def isUnder (p : String) (roots : List String) : Bool :=
  roots.any fun r => p == r || Str.startsWith p (r ++ "/")

/-- Whether the path is the root or lies below it, judged by the relative path. -/
def isWithin (root p : String) : Bool :=
  match relative? root p with
  | none => false
  | some rel => rel != ".." && !Str.startsWith rel "../"

end MoquiLint.Path
