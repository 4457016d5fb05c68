import MoquiLint.Text.Quoted

/-! What the digests have in common: padding a message to whole blocks of sixteen words. -/
namespace MoquiLint.Digest

def bigEndian : Nat → Nat → Bytes
  | 0, _ => []
  | width + 1, n => bigEndian width (n / 256) ++ [UInt8.ofNat n]

/-- The message followed by a one bit, zeros, and its length in bits, so that blocks of 64 bytes are
filled. -/
def pad (message : Bytes) : Bytes :=
  let n := message.length
  message ++ 0x80 :: List.replicate ((119 - n % 64) % 64) 0 ++ bigEndian 8 (8 * n)

def words : Bytes → List UInt32
  | a :: b :: c :: d :: rest =>
    (a.toUInt32 <<< 24 ||| b.toUInt32 <<< 16 ||| c.toUInt32 <<< 8 ||| d.toUInt32) :: words rest
  | _ => []

def blocks (ws : List UInt32) : List (List UInt32) :=
  (List.range (ws.length / 16)).map fun i => (ws.drop (16 * i)).take 16

def rotl (x : UInt32) (n : UInt32) : UInt32 := x <<< n ||| x >>> (32 - n)

def rotr (x : UInt32) (n : UInt32) : UInt32 := x >>> n ||| x <<< (32 - n)

def wordBytes (ws : List UInt32) : Bytes := ws.flatMap fun w => bigEndian 4 w.toNat

def hexString (bs : Bytes) : String :=
  String.ofList (bs.flatMap fun b => Text.Quoted.hex 2 b.toNat)

end MoquiLint.Digest
