import MoquiLint.Text.Symbol

/-! Bytes written with sixty-four characters, padded with `=` to groups of four. -/
namespace MoquiLint.Base64

def alphabet : List Char :=
  "ABCDEFGHIJKLMNOPQRSTUVWXYZabcdefghijklmnopqrstuvwxyz0123456789+/".toList

def digit (n : Nat) : Char := alphabet.getD (n % 64) 'A'

def value? (c : Char) : Option Nat := alphabet.idxOf? c

def encode : Bytes → List Char
  | [] => []
  | [a] => [digit (a.toNat / 4), digit (a.toNat % 4 * 16), '=', '=']
  | [a, b] =>
    [digit (a.toNat / 4), digit (a.toNat % 4 * 16 + b.toNat / 16), digit (b.toNat % 16 * 4), '=']
  | a :: b :: c :: rest =>
    digit (a.toNat / 4) :: digit (a.toNat % 4 * 16 + b.toNat / 16) ::
      digit (b.toNat % 16 * 4 + c.toNat / 64) :: digit c.toNat :: encode rest

/-- The bytes of the values of a group, of which there are at least two; bits that complete no byte do
not count. -/
def groupBytes : List Nat → Bytes
  | [a, b] => [UInt8.ofNat (a * 4 + b / 16)]
  | [a, b, c] => [UInt8.ofNat (a * 4 + b / 16), UInt8.ofNat (b * 16 + c / 4)]
  | [a, b, c, d] =>
    [UInt8.ofNat (a * 4 + b / 16), UInt8.ofNat (b * 16 + c / 4), UInt8.ofNat (c * 64 + d)]
  | _ => []

def isIgnored (b : UInt8) : Bool := b == 10 || b == 13

def isPadding (b : UInt8) : Bool := b == 61

/-- Checks what follows the first padding sign of a group with `n` values; `i` is the place behind the
sign. Fails with the place of what is wrong. -/
def checkPadding (n i : Nat) (rest : Bytes) : Except Nat Unit :=
  let gap := (rest.takeWhile isIgnored).length
  match n, rest.drop gap with
  | 2, [] => .error (i + gap)
  | 2, b :: rest' =>
    if isPadding b then ends (i + gap + 1) rest' else .error (i + gap - 1)
  | _, _ => ends i rest
where
  ends (i : Nat) (rest : Bytes) : Except Nat Unit :=
    let gap := (rest.takeWhile isIgnored).length
    if gap == rest.length then .ok () else .error (i + gap)

/-- Reads groups of four from the place `i` on; `group` holds the values of the current one, last first.
Fails with the place of what is wrong; a group that is not complete is wrong as a whole. -/
def read (i : Nat) (group : List Nat) : Bytes → Except Nat Bytes
  | [] => if group.isEmpty then .ok [] else .error (i - group.length)
  | b :: rest =>
    if isIgnored b then read (i + 1) group rest
    else
      match value? (Char.ofNat b.toNat) with
      | some v =>
        if group.length == 3 then do return groupBytes (v :: group).reverse ++ (← read (i + 1) [] rest)
        else read (i + 1) (v :: group) rest
      | none =>
        if isPadding b && group.length ≥ 2 then do
          checkPadding group.length (i + 1) rest
          return groupBytes group.reverse
        else .error i

def decode (s : Bytes) : Except Nat Bytes := read 0 [] s

def decode? (s : List Char) : Option Bytes := (decode (utf8 (String.ofList s))).toOption

end MoquiLint.Base64
