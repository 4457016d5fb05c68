import MoquiLint.Digest.Padding

/-! The digest of 160 bits by which a repository names its objects. -/
namespace MoquiLint.Digest.Sha1

def initial : List UInt32 := [0x67452301, 0xefcdab89, 0x98badcfe, 0x10325476, 0xc3d2e1f0]

/-- Adds one word to a schedule, which is kept last word first. -/
def extend (schedule : List UInt32) : List UInt32 :=
  let back (i : Nat) := schedule.getD (i - 1) 0
  rotl (back 3 ^^^ back 8 ^^^ back 14 ^^^ back 16) 1 :: schedule

def schedule (block : List UInt32) : List UInt32 :=
  ((List.range 64).foldl (fun w _ => extend w) block.reverse).reverse

def mix (i : Nat) (b c d : UInt32) : UInt32 × UInt32 :=
  if i < 20 then ((b &&& c) ||| (~~~b &&& d), 0x5a827999)
  else if i < 40 then (b ^^^ c ^^^ d, 0x6ed9eba1)
  else if i < 60 then ((b &&& c) ||| (b &&& d) ||| (c &&& d), 0x8f1bbcdc)
  else (b ^^^ c ^^^ d, 0xca62c1d6)

def round (state : List UInt32) (wi : UInt32 × Nat) : List UInt32 :=
  match state with
  | [a, b, c, d, e] =>
    let (f, k) := mix wi.2 b c d
    [rotl a 5 + f + e + k + wi.1, a, rotl b 30, c, d]
  | _ => state

def compress (state block : List UInt32) : List UInt32 :=
  List.zipWith (· + ·) state ((schedule block).zipIdx.foldl round state)

def digest (message : Bytes) : Bytes :=
  wordBytes ((blocks (words (pad message))).foldl compress initial)

def hash (message : Bytes) : String := hexString (digest message)

end MoquiLint.Digest.Sha1
