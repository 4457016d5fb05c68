import MoquiLint.Git.Object

/-! Packs: many objects in one file, and beside it a file that tells where each one starts. An object of
a pack is kept whole, or as the steps that make it out of another one. -/
namespace MoquiLint.Git

structure Pack where
  starts : List (Id × Nat)
  content : Bytes
  deriving DecidableEq, Repr

namespace Pack

open Object (Fault)

def pieces (size : Nat) : Nat → Bytes → List Bytes
  | 0, _ => []
  | n + 1, bs => bs.take size :: pieces size n (bs.drop size)

/-- The start that four bytes give: the start itself, or the place in a further table where it stands. -/
def start (far : Bytes) (four : Bytes) : Nat :=
  let n := number four
  if n < 0x80000000 then n else number ((far.drop (8 * (n - 0x80000000))).take 8)

/-- Reads where the objects of a pack start. After a header stand 256 counts of names, the last of which
counts them all, then the names, their checksums and the starts. -/
def readStarts (bs : Bytes) : Except Fault (List (Id × Nat)) := do
  let field (n : Nat) (bs : Bytes) : Except Fault (Bytes × Bytes) := (cut n bs).mapError .short
  let (sign, rest) ← field 4 bs
  if sign != [0xff, 0x74, 0x4f, 0x63] then throw .pack
  let (version, rest) ← field 4 rest
  if number version != 2 then throw .packVersion
  let (counts, rest) ← field 1024 rest
  let n := number (counts.drop 1020)
  let (names, rest) ← field (20 * n) rest
  let (_, rest) ← field (4 * n) rest
  let (places, rest) ← field (4 * n) rest
  let fours := pieces 4 n places
  let (far, rest) ← field (8 * (fours.countP fun b => 0x80000000 ≤ number b)) rest
  let (_, rest) ← field 20 rest
  let (sum, _) ← field 20 rest
  let found := Digest.Sha1.digest (bs.take (bs.length - rest.length))
  if sum != found then throw (.packSum (Digest.hexString sum) (Digest.hexString found))
  return (pieces 20 n names).zip fours |>.map fun p => (Id.ofBytes p.1, start far p.2)

/-- A number in groups of seven bits, the least significant first, as long as the top bit is set. -/
def sevens : Bytes → Nat × Bytes
  | [] => (0, [])
  | b :: bs =>
    if b.toNat < 128 then (b.toNat, bs)
    else
      let (n, rest) := sevens bs
      (b.toNat - 128 + 128 * n, rest)

/-- A distance in groups of seven bits, the most significant first. Each further group counts on from the
distances that fit into fewer. -/
def distance (n : Nat) : Bytes → Nat × Bytes
  | [] => (n, [])
  | b :: bs => if b.toNat < 128 then (128 * n + b.toNat, bs) else distance (128 * n + b.toNat - 128 + 1) bs

/-- Takes the bytes of a number that are given, the least significant first: bit by bit the mask tells
whether the next byte is given. -/
def given : List Bool → Bytes → Nat × Bytes
  | [], bs => (0, bs)
  | false :: mask, bs => let (n, rest) := given mask bs; (256 * n, rest)
  | true :: mask, bs => let (n, rest) := given mask bs.tail; ((bs.headD 0).toNat + 256 * n, rest)

/-- Makes an object out of another one: each step copies a part of it or brings bytes of its own. -/
def rebuild (base : Bytes) : Nat → Bytes → Bytes → Except Fault Bytes
  | _, [], made => .ok made
  | 0, _, _ => .error .delta
  | fuel + 1, b :: bs, made =>
    if b == 0 then .error .delta
    else if b.toNat < 128 then
      let own := bs.take b.toNat
      if own.length < b.toNat then .error .delta else rebuild base fuel (bs.drop b.toNat) (made ++ own)
    else
      let mask := Deflate.bitsOf b
      let (offset, bs) := given (mask.take 4) bs
      let (size, bs) := given ((mask.drop 4).take 3) bs
      let part := (base.drop offset).take (if size == 0 then 0x10000 else size)
      if part.length < (if size == 0 then 0x10000 else size) then .error .delta
      else rebuild base fuel bs (made ++ part)

def applyDelta (base delta : Bytes) : Except Fault Bytes := do
  let (old, rest) := sevens delta
  let (new, rest) := sevens rest
  if old != base.length then throw .delta
  let made ← rebuild base rest.length rest []
  if made.length != new then throw .delta
  return made

def inflate (bs : Bytes) : Except Fault Bytes := do
  (Deflate.inflate (← (Deflate.afterHeader bs).mapError .packed)).mapError .damaged

/-- The object that starts at a place. The fuel bounds how many objects are made out of others on the
way. -/
def objectAt (p : Pack) : Nat → Nat → Except Fault Object
  | 0, _ => .error .missing
  | fuel + 1, place =>
    match p.content.drop place with
    | [] => .error .missing
    | b :: bs =>
      let rest := if b.toNat < 128 then bs else (sevens bs).2
      let whole (k : Kind) : Except Fault Object := (inflate rest).map fun data => ⟨k, data⟩
      match b.toNat / 16 % 8 with
      | 1 => whole .commit
      | 2 => whole .tree
      | 3 => whole .blob
      | 4 => whole .tag
      | 6 => do
        let (back, rest) := distance 0 rest
        if place < back || back == 0 then throw .missing
        let base ← p.objectAt fuel (place - back)
        return ⟨base.kind, ← applyDelta base.body (← inflate rest)⟩
      | 7 => do
        match p.starts.lookup (Id.ofBytes (rest.take 20)) with
        | none => throw .missing
        | some other =>
          let base ← p.objectAt fuel other
          return ⟨base.kind, ← applyDelta base.body (← inflate (rest.drop 20))⟩
      | _ => throw .missing

def find? (p : Pack) (id : Id) : Option (Except Fault Object) :=
  (p.starts.lookup id).map (p.objectAt (p.starts.length + 1))

def folder (dot : String) : String := Path.join [dot, "objects", "pack"]

def named? (file : String) : Option Id :=
  if Str.startsWith file "pack-" && Str.endsWith file ".pack" then
    let id := Id.ofText (String.ofList ((file.toList.drop 5).take (file.length - 10)))
    if id = Id.zero then none else some id
  else none

def all (d : Disk) (dot : String) : Except Fault (List Pack) :=
  match d.stat (folder dot) with
  | .ok (.folder ms) =>
    (ms.filterMap fun m => named? m.1).mapM fun id => do
      let file (extension : String) : Except Fault Bytes :=
        match d.read (Path.join [folder dot, "pack-" ++ id ++ extension]) with
        | .ok content => .ok content
        | .error f => .error (if f.cause = .missing then .noPack else .disk f)
      return ⟨← readStarts (← file ".idx"), ← file ".pack"⟩
  | _ => .ok []

end Pack

/-- The object of a kind with a name: it has a file of its own, or it lies in a pack. -/
def Object.load (d : Disk) (dot : String) (kind : Kind) (id : Id) : Except Object.Fault Object := do
  let o ← match d.read (Object.file dot id) with
    | .ok content => Object.unwrap content
    | .error f =>
      if f.cause ≠ .missing then throw (.disk f)
      match (← Pack.all d dot).findSome? fun p => p.find? id with
      | some o => o
      | none => throw .missing
  if o.kind = kind then return o else throw .missing

end MoquiLint.Git
