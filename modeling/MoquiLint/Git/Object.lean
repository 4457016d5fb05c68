import MoquiLint.Digest.Sha1
import MoquiLint.Disk.Access
import MoquiLint.Git.Deflate
import MoquiLint.Text.Quoted

/-! Objects of a version store: file contents, trees, commits and tags, each named by the digest of its
bytes and kept in a file of that name. -/
namespace MoquiLint.Git

abbrev Id := String

namespace Id

def zero : Id := String.ofList (List.replicate 40 '0')

def digit? (c : Char) : Option Nat :=
  let n := c.toNat
  if 48 ≤ n && n ≤ 57 then some (n - 48)
  else if 97 ≤ n && n ≤ 102 then some (n - 87)
  else if 65 ≤ n && n ≤ 70 then some (n - 55)
  else none

/-- The bytes that pairs of hexadecimal digits stand for, up to the first pair that is none. -/
def bytesOf : List Char → Bytes
  | a :: b :: rest =>
    match digit? a, digit? b with
    | some x, some y => UInt8.ofNat (16 * x + y) :: bytesOf rest
    | _, _ => []
  | _ => []

/-- The name of twenty bytes; too few are filled up with zeros. -/
def ofBytes (bs : Bytes) : Id := Digest.hexString ((bs ++ List.replicate 20 0).take 20)

def ofText (s : String) : Id := ofBytes (bytesOf s.toList)

def bytes (id : Id) : Bytes := bytesOf id.toList

end Id

inductive Kind where
  | blob | tree | commit | tag
  deriving DecidableEq, Repr

def Kind.word : Kind → String
  | .blob => "blob"
  | .tree => "tree"
  | .commit => "commit"
  | .tag => "tag"

def Kind.ofWord? (w : String) : Option Kind :=
  ([.blob, .tree, .commit, .tag] : List Kind).find? fun k => k.word == w

def number (bs : Bytes) : Nat := bs.foldl (fun n b => 256 * n + b.toNat) 0

/-- Where bytes end too early: before a field, or inside it. -/
inductive Short where
  | before | inside
  deriving DecidableEq, Repr

def Short.message : Short → String
  | .before => "EOF"
  | .inside => "unexpected EOF"

def cut (n : Nat) (bs : Bytes) : Except Short (Bytes × Bytes) :=
  let front := bs.take n
  if front.length = n then .ok (front, bs.drop n)
  else .error (if front.isEmpty then .before else .inside)

def cutUntil (b : UInt8) (bs : Bytes) : Except Short (Bytes × Bytes) :=
  let front := bs.takeWhile (· != b)
  match bs.drop front.length with
  | [] => .error .before
  | _ :: rest => .ok (front, rest)

structure Object where
  kind : Kind
  body : Bytes
  deriving DecidableEq, Repr

namespace Object

inductive Fault where
  | missing
  /-- The compressed form has no header. -/
  | sealed (fault : Deflate.Fault)
  /-- The compressed form breaks off or makes no sense. -/
  | damaged (fault : Deflate.Fault)
  | header
  | kind
  | disk (fault : Disk.Fault)
  /-- The compressed form of an object in a pack has no header. -/
  | packed (fault : Deflate.Fault)
  | noPack
  | pack
  | packVersion
  | packSum (named found : String)
  | short (s : Short)
  | delta
  | mode (text : Text)
  deriving DecidableEq, Repr

def Fault.message : Fault → String
  | .missing => "object not found"
  | .sealed f => "zlib reading error: " ++ f.message
  | .damaged f => f.message
  | .header => "objfile: invalid header"
  | .kind => "invalid object type"
  | .disk f => f.message
  | .packed f => "zlib reset error: " ++ f.message
  | .noPack => "packfile not found"
  | .pack => "malformed IDX file"
  | .packVersion => "unsupported version"
  | .packSum named found =>
    "malformed IDX file: checksum mismatch: \"" ++ named ++ "\" instead of \"" ++ found ++ "\""
  | .short s => s.message
  | .delta => "invalid delta"
  | .mode text => "strconv.ParseUint: parsing " ++ text.quote ++ ": invalid syntax"

def bytes (o : Object) : Bytes := utf8 (o.kind.word ++ " " ++ toString o.body.length) ++ 0 :: o.body

def id (o : Object) : Id := Digest.Sha1.hash o.bytes

def isWhole (s : String) : Bool :=
  let digits := match s.toList with
    | '+' :: cs | '-' :: cs => cs
    | cs => cs
  !digits.isEmpty && digits.all fun c => '0' ≤ c && c ≤ '9'

/-- The object that bytes are those of. The size must be a number and is not looked at. -/
def ofBytes (bs : Bytes) : Except Fault Object := do
  let (word, rest) ← (cutUntil 32 bs).mapError fun _ => .header
  match Kind.ofWord? (Text.toString (Text.decode word)) with
  | none => throw .kind
  | some k =>
    let (size, body) ← (cutUntil 0 rest).mapError fun _ => .header
    if isWhole (Text.toString (Text.decode size)) then return ⟨k, body⟩ else throw .header

def file (dot : String) (id : Id) : String :=
  Path.join [dot, "objects", String.ofList (id.toList.take 2), String.ofList (id.toList.drop 2)]

def save (d : Disk) (dot : String) (o : Object) : Except Disk.Fault Disk := do
  let path := file dot o.id
  let d ← d.makeFolders (Path.parent path)
  d.write path (Deflate.wrap o.bytes)

def unwrap (content : Bytes) : Except Fault Object := do
  let rest ← (Deflate.afterHeader content).mapError .sealed
  ofBytes (← (Deflate.inflate rest).mapError .damaged)

end Object

structure Tracked where
  mode : Nat
  id : Id
  deriving DecidableEq, Repr

def plainMode : Nat := 0o100644

/-- The mode of a plain file that its group may write. -/
def sharedMode : Nat := 0o100664

def linkMode : Nat := 0o120000

def treeMode : Nat := 0o040000

/-- The mode of a directory that is a store of its own. -/
def moduleMode : Nat := 0o160000

def octal (n : Nat) : String := String.ofList (Nat.toDigits 8 n)

end MoquiLint.Git
