import MoquiLint.Git.Tree

/-! The list of files that will go into the next commit, kept in one binary file. -/
namespace MoquiLint.Git

open Digest (bigEndian)

namespace Index

structure Entry where
  path : String
  tracked : Tracked
  /-- Whether the file is left out of the working tree on purpose. -/
  hidden : Bool := false
  deriving DecidableEq, Repr

inductive Fault where
  | signature
  | version
  | checksum
  | extension
  | count (text : Text)
  | mode (text : Text)
  | short (s : Short)
  deriving DecidableEq, Repr

def Fault.message : Fault → String
  | .signature => "malformed index signature file"
  | .version => "unsupported version"
  | .checksum => "invalid checksum"
  | .extension => "unknown extension"
  | .count t => "strconv.Atoi: parsing " ++ t.quote ++ ": invalid syntax"
  | .mode t => "strconv.ParseInt: parsing " ++ t.quote ++ ": invalid syntax"
  | .short s => s.message

end Index

abbrev Index := List Index.Entry

namespace Index

def find? (ix : Index) (path : String) : Option Entry := List.find? (fun e => e.path == path) ix

def erase (path : String) : Index → Index
  | [] => []
  | e :: ix => if e.path == path then ix else e :: erase path ix

def insert (path : String) (t : Tracked) : Index → Index
  | [] => [⟨path, t, false⟩]
  | e :: ix => if e.path == path then { e with tracked := t } :: ix else e :: insert path t ix

/-- The files of an index as a view. Files with a path that leaves out or repeats directories are not
seen. -/
def view (ix : Index) : List Node :=
  ix.foldl
    (fun ns e => if Path.clean e.path == e.path && !Path.isAbsolute e.path then
      Node.place e.tracked e.hidden (Path.split e.path) ns else ns)
    []

/-- The bytes of one entry: times, mode, owner and size, the name of the content, the path, and zeros up
to a multiple of eight. Times, owner and size are left blank. -/
def entryBytes (e : Entry) : Bytes :=
  let path := utf8 e.path
  let flags := min path.length 0xFFF
  let head := List.replicate 24 0 ++ bigEndian 4 e.tracked.mode ++ List.replicate 12 0 ++
    Id.bytes e.tracked.id ++
    (if e.hidden then bigEndian 2 (flags + 0x4000) ++ bigEndian 2 0x4000 else bigEndian 2 flags) ++ path
  head ++ List.replicate (8 - head.length % 8) 0

def bytes (ix : Index) : Bytes :=
  let version := if List.any ix (·.hidden) then 3 else 2
  let entries := List.mergeSort ix fun a b => Str.le a.path b.path
  let content := utf8 "DIRC" ++ bigEndian 4 version ++ bigEndian 4 ix.length ++ entries.flatMap entryBytes
  content ++ Digest.Sha1.digest content

def field (n : Nat) (bs : Bytes) : Except Fault (Bytes × Bytes) := (cut n bs).mapError .short

def numberOf (n : Nat) (bs : Bytes) : Except Fault (Nat × Bytes) := do
  let (front, rest) ← field n bs
  return (number front, rest)

/-- The path of an entry of the fourth version: it tells how much to take off the end of the path before
it, and what to append. -/
def shortPath (last bs : Bytes) : Except Fault (Bytes × Bytes) := do
  let digits := bs.takeWhile fun b => 128 ≤ b.toNat
  let (_, _) ← field (digits.length + 1) bs
  let (n, rest) := Pack.distance 0 bs
  let (tail, rest) ← (cutUntil 0 rest).mapError .short
  return (last.take (last.length - n) ++ tail, rest)

def fullPath (before length : Nat) (bs : Bytes) : Except Fault (Bytes × Bytes) := do
  let (path, rest) ← field length bs
  let zeros := 8 - (before + length) % 8
  if rest.length < zeros then throw (.short .before)
  return (path, rest.drop zeros)

def readEntry (version : Nat) (last bs : Bytes) : Except Fault (Entry × Bytes × Bytes) := do
  let (_, rest) ← (List.range 6).foldlM (fun (_, bs) _ => numberOf 4 bs) (0, bs)
  let (mode, rest) ← numberOf 4 rest
  let (_, rest) ← (List.range 3).foldlM (fun (_, bs) _ => numberOf 4 bs) (0, rest)
  let (id, rest) ← field 20 rest
  let (flags, rest) ← numberOf 2 rest
  let (more, rest) ← if flags.testBit 14 then numberOf 2 rest else pure (0, rest)
  let (path, rest) ←
    if version == 4 then shortPath last rest
    else fullPath (if flags.testBit 14 then 64 else 62) (flags % 0x1000) rest
  return (⟨Text.toString (Text.decode path), ⟨mode, Id.ofBytes id⟩, more.testBit 14⟩, path, rest)

def readEntries (version : Nat) : Nat → Bytes → Bytes → Except Fault (Index × Bytes)
  | 0, _, bs => .ok ([], bs)
  | n + 1, last, bs => do
    let (e, last, rest) ← readEntry version last bs
    let (ix, rest) ← readEntries version n last rest
    return (e :: ix, rest)

/-- The further part on trees: counts and names of trees that are known already. A part that breaks off
between fields is fine. -/
def checkTrees : Nat → Bytes → Except Fault Unit
  | 0, _ => .ok ()
  | fuel + 1, bs =>
    match (do cutUntil 32 (← cutUntil 0 bs).2 : Except Short (Bytes × Bytes)) with
    | .error _ => .ok ()
    | .ok (count, rest) =>
      let isCount (t : Bytes) : Bool := Object.isWhole (Text.toString (Text.decode t))
      if !isCount count then .error (.count (Text.decode count))
      else if count == utf8 "-1" then checkTrees fuel rest
      else
        match cutUntil 10 rest with
        | .error _ => .ok ()
        | .ok (trees, rest) =>
          if !isCount trees then .error (.count (Text.decode trees))
          else
            match cut 20 rest with
            | .ok (_, rest) => checkTrees fuel rest
            | .error .before => .ok ()
            | .error .inside => .error (.short .inside)

def readModes : Nat → Bytes → Except (Option Fault) (Nat × Bytes)
  | 0, bs => .ok (0, bs)
  | n + 1, bs =>
    match cutUntil 0 bs with
    | .error _ => .error none
    | .ok (digits, rest) =>
      match octalValue? digits with
      | none => .error (some (.mode (Text.decode digits)))
      | some mode => do
        let (k, rest) ← readModes n rest
        return (if mode == 0 then k else k + 1, rest)

def checkMerged : Nat → Bytes → Except Fault Unit
  | 0, _ => .ok ()
  | fuel + 1, bs =>
    match cutUntil 0 bs with
    | .error _ => .ok ()
    | .ok (_, rest) =>
      match readModes 3 rest with
      | .error none => .ok ()
      | .error (some f) => .error f
      | .ok (k, rest) =>
        let names := rest.take (20 * k)
        if names.length == 20 * k then checkMerged fuel (rest.drop (20 * k))
        else if names.length % 20 == 0 then .ok ()
        else .error (.short .inside)

/-- Checks a further part. Those that are not known are fine if their names start with a capital. -/
def checkPart (name data : Bytes) : Except Fault Unit :=
  if name == utf8 "TREE" then checkTrees (data.length + 1) data
  else if name == utf8 "REUC" then checkMerged (data.length + 1) data
  else if name == utf8 "EOIE" then do
    let (_, rest) ← field 4 data
    let _ ← field 20 rest
  else if 65 ≤ name.headD 0 && name.headD 0 ≤ 90 then .ok ()
  else .error .extension

def checkParts : Nat → Bytes → Except Fault Bytes
  | 0, bs => .ok bs
  | fuel + 1, bs =>
    if bs.length < 28 then .ok bs
    else do
      let rest := bs.drop 8
      let size := number ((bs.drop 4).take 4)
      checkPart (bs.take 4) (rest.take size)
      checkParts fuel (rest.drop size)

def ofBytes (bs : Bytes) : Except Fault Index := do
  let (sign, rest) ← field 4 bs
  if sign != utf8 "DIRC" then throw .signature
  let (version, rest) ← numberOf 4 rest
  if version < 2 || 4 < version then throw .version
  let (count, rest) ← numberOf 4 rest
  let (ix, rest) ← readEntries version count [] rest
  let rest ← checkParts (rest.length + 1) rest
  let (sum, _) ← field 20 rest
  if sum != Digest.Sha1.digest (bs.take (bs.length - rest.length)) then throw .checksum
  return ix

def file (dot : String) : String := Path.join [dot, "index"]

end Index

end MoquiLint.Git
