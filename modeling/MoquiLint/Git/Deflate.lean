import MoquiLint.Digest.Padding

/-! The compressed form of stored objects. Objects are written in blocks that are kept as they are;
reading understands all kinds of blocks. -/
namespace MoquiLint.Git.Deflate

open Digest (bigEndian)

/-- The checksum at the end of compressed data: two sums modulo a prime. -/
def checksum (bs : Bytes) : Nat :=
  let (a, b) := bs.foldl (fun (a, b) x => ((a + x.toNat) % 65521, (b + (a + x.toNat)) % 65521)) (1, 0)
  b * 65536 + a

def blockSize : Nat := 65535

def littleEndian (n : Nat) : Bytes := [UInt8.ofNat n, UInt8.ofNat (n / 256)]

def store : Nat → Bytes → Bytes
  | 0, _ => []
  | fuel + 1, bs =>
    let block := bs.take blockSize
    let rest := bs.drop blockSize
    (if rest.isEmpty then 1 else 0) :: littleEndian block.length ++
      littleEndian (blockSize - block.length) ++ block ++ (if rest.isEmpty then [] else store fuel rest)

def wrap (bs : Bytes) : Bytes := 0x78 :: 0x01 :: store (bs.length + 1) bs ++ bigEndian 4 (checksum bs)

inductive Fault where
  | header
  | dictionary
  | torn
  | corrupt (offset : Nat)
  | checksum
  deriving DecidableEq, Repr

def Fault.message : Fault → String
  | .header => "zlib: invalid header"
  | .dictionary => "zlib: invalid dictionary"
  | .torn => "unexpected EOF"
  | .corrupt offset => "flate: corrupt input before offset " ++ toString offset
  | .checksum => "zlib: invalid checksum"

def bitsOf (b : UInt8) : List Bool := (List.range 8).map fun i => b.toNat.testBit i

structure State where
  bytes : Bytes
  /-- The bits that are left of the byte that was begun last. -/
  bits : List Bool := []
  offset : Nat := 0
  /-- The data so far, last byte first. -/
  output : Bytes := []

abbrev Reader := StateT State (Except Fault)

def corrupt {α : Type} : Reader α := do throw (.corrupt (← get).offset)

/-- The next bit. A byte is begun only when all bits before it are used up. -/
def bit : Reader Bool := do
  let s ← get
  match s.bits, s.bytes with
  | b :: bits, _ => set { s with bits := bits }; return b
  | [], x :: bytes =>
    set { s with bytes := bytes, bits := (bitsOf x).tail, offset := s.offset + 1 }
    return x.toNat.testBit 0
  | [], [] => throw .torn

def take : Nat → Reader Nat
  | 0 => return 0
  | n + 1 => do return (← bit).toNat + 2 * (← take n)

def emit (b : UInt8) : Reader Unit := modify fun s => { s with output := b :: s.output }

def copy (distance : Nat) : Nat → Reader Unit
  | 0 => return ()
  | n + 1 => do
    match (← get).output[distance - 1]? with
    | some b => emit b; copy distance n
    | none => corrupt

/-- A code: the symbols whose words have one bit, two bits and so on. -/
abbrev Code := List (List Nat)

def Code.ofLengths (lengths : List Nat) : Code :=
  (List.range 15).map fun i => (lengths.zipIdx.filter fun s => s.1 == i + 1).map (·.2)

/-- Reads a symbol. Words of one length are numbered in the order of their symbols, and the first one
follows the last shorter one. -/
def symbol (word first : Nat) : Code → Reader Nat
  | [] => corrupt
  | own :: longer => do
    let word := 2 * word + (← bit).toNat
    if word < first + own.length then return own.getD (word - first) 0
    else symbol word (2 * (first + own.length)) longer

def next (code : Code) : Reader Nat := symbol 0 0 code

/-- Lengths of copies and the number of bits that refine them, by symbol from 257 on. -/
def lengths : List (Nat × Nat) := [
  (3, 0), (4, 0), (5, 0), (6, 0), (7, 0), (8, 0), (9, 0), (10, 0), (11, 1), (13, 1), (15, 1), (17, 1),
  (19, 2), (23, 2), (27, 2), (31, 2), (35, 3), (43, 3), (51, 3), (59, 3), (67, 4), (83, 4), (99, 4),
  (115, 4), (131, 5), (163, 5), (195, 5), (227, 5), (258, 0)]

def distances : List (Nat × Nat) := [
  (1, 0), (2, 0), (3, 0), (4, 0), (5, 1), (7, 1), (9, 2), (13, 2), (17, 3), (25, 3), (33, 4), (49, 4),
  (65, 5), (97, 5), (129, 6), (193, 6), (257, 7), (385, 7), (513, 8), (769, 8), (1025, 9), (1537, 9),
  (2049, 10), (3073, 10), (4097, 11), (6145, 11), (8193, 12), (12289, 12), (16385, 13), (24577, 13)]

def refined (table : List (Nat × Nat)) (i : Nat) : Reader Nat := do
  match table[i]? with
  | some (base, bits) => return base + (← take bits)
  | none => corrupt

def body (literal distance : Code) : Nat → Reader Unit
  | 0 => corrupt
  | fuel + 1 => do
    let s ← next literal
    if s < 256 then emit (UInt8.ofNat s); body literal distance fuel
    else if s == 256 then return ()
    else
      let n ← refined lengths (s - 257)
      let far ← refined distances (← next distance)
      copy far n
      body literal distance fuel

def fixedCodes : Code × Code :=
  (.ofLengths (List.replicate 144 8 ++ List.replicate 112 9 ++ List.replicate 24 7 ++ List.replicate 8 8),
   .ofLengths (List.replicate 30 5))

/-- The order in which a block gives the lengths of the code for its codes. -/
def codeOrder : List Nat := [16, 17, 18, 0, 8, 7, 9, 6, 10, 5, 11, 4, 12, 3, 13, 2, 14, 1, 15]

def wordLengths (code : Code) (total : Nat) : Nat → List Nat → Reader (List Nat)
  | 0, _ => corrupt
  | fuel + 1, known =>
    if known.length == total then return known
    else if total < known.length then corrupt
    else do
      match ← next code with
      | 16 =>
        match known.getLast? with
        | some n => wordLengths code total fuel (known ++ List.replicate (3 + (← take 2)) n)
        | none => corrupt
      | 17 => wordLengths code total fuel (known ++ List.replicate (3 + (← take 3)) 0)
      | 18 => wordLengths code total fuel (known ++ List.replicate (11 + (← take 7)) 0)
      | n => wordLengths code total fuel (known ++ [n])

def triples : Nat → Reader (List Nat)
  | 0 => return []
  | n + 1 => do return (← take 3) :: (← triples n)

def ownCodes : Reader (Code × Code) := do
  let literals := 257 + (← take 5)
  let distances := 1 + (← take 5)
  let given ← triples (4 + (← take 4))
  if 286 < literals || 30 < distances then corrupt
  let code := (List.range 19).map fun i => ((codeOrder.zip given).lookup i).getD 0
  let all ← wordLengths (.ofLengths code) (literals + distances) (literals + distances + 1) []
  return (.ofLengths (all.take literals), .ofLengths (all.drop literals))

/-- A block that is kept as it is. It starts at a whole byte; its length is given twice. -/
def kept : Reader Unit := do
  modify fun s => { s with bits := [] }
  let n ← take 16
  let check ← take 16
  if n + check != 65535 then corrupt
  for _ in List.range n do
    emit (UInt8.ofNat (← take 8))

def blocks : Nat → Reader Unit
  | 0 => corrupt
  | fuel + 1 => do
    let last ← bit
    let kind ← take 2
    let size := 8 * ((← get).bytes.length + 1)
    match kind with
    | 0 => kept
    | 1 => body fixedCodes.1 fixedCodes.2 size
    | 2 => let codes ← ownCodes; body codes.1 codes.2 size
    | _ => corrupt
    if last then return () else blocks fuel

def afterHeader : Bytes → Except Fault Bytes
  | a :: b :: rest =>
    if a.toNat % 16 != 8 || 7 < a.toNat / 16 || (256 * a.toNat + b.toNat) % 31 != 0 then .error .header
    else if b.toNat.testBit 5 then if rest.length < 4 then .error .torn else .error .dictionary
    else .ok rest
  | _ => .error .torn

/-- The data that a compressed form without its header stands for. What follows it is not looked at. -/
def inflate (bs : Bytes) : Except Fault Bytes := do
  let (_, s) ← (blocks (8 * bs.length + 1)).run { bytes := bs }
  let data := s.output.reverse
  let sum := s.bytes.take 4
  if sum.length < 4 then throw .torn
  if sum == bigEndian 4 (checksum data) then return data else throw .checksum

end MoquiLint.Git.Deflate
