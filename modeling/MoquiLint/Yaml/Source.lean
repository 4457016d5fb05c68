import MoquiLint.Yaml.Fault

/-! The characters of a document. Documents come in UTF-8 or, behind a byte order mark, in UTF-16. They
are read in blocks, and a block is decoded as a whole: a fault in it is noticed as soon as any of its
characters is asked for. -/
namespace MoquiLint.Yaml

structure Broken where
  chars : List Char
  problem : Problem
  deriving DecidableEq, Repr

structure Source where
  blocks : List (List Char)
  broken : Option Broken := none
  deriving DecidableEq, Repr

namespace Source

def blockSize : Nat := 512

def isAllowed (n : Nat) : Bool :=
  n == 0x09 || n == 0x0A || n == 0x0D || (0x20 ≤ n && n ≤ 0x7E) || n == 0x85 ||
  (0xA0 ≤ n && n ≤ 0xD7FF) || (0xE000 ≤ n && n ≤ 0xFFFD) || (0x10000 ≤ n && n ≤ 0x10FFFF)

def utf8Char (lead : UInt8) (rest : Bytes) : Except Problem (Nat × Nat) :=
  let b := lead.toNat
  let width? :=
    if b < 0x80 then some 1
    else if b / 0x20 == 6 then some 2
    else if b / 0x10 == 14 then some 3
    else if b / 0x08 == 30 then some 4
    else none
  match width? with
  | none => .error .badLead
  | some width =>
    let trail := rest.take (width - 1)
    if trail.length + 1 < width then .error .incompleteSequence
    else if trail.any fun t => t.toNat / 0x40 != 2 then .error .badTrail
    else
      let first := if width == 1 then b else b % Nat.pow 2 (7 - width)
      let n := trail.foldl (fun n t => n * 0x40 + t.toNat % 0x40) first
      let least := if width == 1 then 0 else if width == 2 then 0x80 else if width == 3 then 0x800 else 0x10000
      if n < least then .error .overlong
      else if (0xD800 ≤ n && n ≤ 0xDFFF) || n > 0x10FFFF then .error .badCharacter
      else .ok (n, width)

def utf16Char (bigEndian : Bool) (a : UInt8) (rest : Bytes) : Except Problem (Nat × Nat) :=
  let unit (x y : UInt8) : Nat := if bigEndian then x.toNat * 256 + y.toNat else y.toNat * 256 + x.toNat
  match rest with
  | [] => .error .incompleteUnit
  | b :: rest =>
    let n := unit a b
    if n / 0x400 == 0x37 then .error .lowSurrogate
    else if n / 0x400 == 0x36 then
      match rest with
      | c :: d :: _ =>
        let m := unit c d
        if m / 0x400 == 0x37 then .ok (0x10000 + n % 0x400 * 0x400 + m % 0x400, 4)
        else .error .noLowSurrogate
      | _ => .error .incompletePair
    else .ok (n, 2)

/-- Faults that more bytes could mend. -/
def isIncomplete (p : Problem) : Bool :=
  p == .incompleteSequence || p == .incompleteUnit || p == .incompletePair

/-- Reads the block of the first `room` bytes: its characters, last first, the bytes behind it, and the
fault in it. A character that reaches over the end of the block is left to the next one. -/
def readBlock (one : UInt8 → Bytes → Except Problem (Nat × Nat)) :
    Nat → List Char → Bytes → List Char × Bytes × Option Problem
  | _, cs, [] => (cs, [], none)
  | 0, cs, bs => (cs, bs, none)
  | room + 1, cs, b :: rest =>
    match one b (rest.take (min room 3)) with
    | .error p => (cs, b :: rest, if isIncomplete p && !cs.isEmpty then none else some p)
    | .ok (n, width) =>
      if isAllowed n then readBlock one (room + 1 - width) (Char.ofNat n :: cs) (rest.drop (width - 1))
      else (cs, b :: rest, some .controlCharacter)
termination_by _ _ bs => bs.length
decreasing_by simp only [List.length_drop, List.length_cons]; omega

def readBlocks (one : UInt8 → Bytes → Except Problem (Nat × Nat)) : Nat → Nat → Bytes → Source
  | 0, _, _ => ⟨[], none⟩
  | _, _, [] => ⟨[], none⟩
  | fuel + 1, room, bs =>
    match readBlock one room [] bs with
    | (cs, _, some p) => ⟨[], some ⟨cs.reverse, p⟩⟩
    | (cs, rest, none) =>
      let src := readBlocks one fuel blockSize rest
      { src with blocks := cs.reverse :: src.blocks }

def read (one : UInt8 → Bytes → Except Problem (Nat × Nat)) (skipped : Nat) (bs : Bytes) : Source :=
  readBlocks one (bs.length + 1) (blockSize - skipped) bs

/-- The characters of a document. An empty document reads as a line break. -/
def ofBytes (data : Bytes) : Source :=
  match data with
  | [] => ⟨[['\n']], none⟩
  | 0xFF :: 0xFE :: rest => read (utf16Char false) 2 rest
  | 0xFE :: 0xFF :: rest => read (utf16Char true) 2 rest
  | 0xEF :: 0xBB :: 0xBF :: rest => read utf8Char 3 rest
  | _ => read utf8Char 0 data

end Source

end MoquiLint.Yaml
