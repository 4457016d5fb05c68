import MoquiLint.Double
import MoquiLint.Text.Edit
import MoquiLint.Text.Quoted
import MoquiLint.Word

/-! Lengths of time in nanoseconds: reading them from numbers with units and writing them in the largest
units that fit. -/
namespace MoquiLint

structure Span where
  nanoseconds : Int
  deriving DecidableEq, Repr, Inhabited

namespace Span

def milliseconds (n : Int) : Span := ⟨n * 1000000⟩

/-- The largest number of nanoseconds a span may count, and one more. -/
def bound : Nat := Word.half

def unit? (name : List Char) : Option Nat :=
  ([("ns", 1), ("us", 1000), ("µs", 1000), ("μs", 1000), ("ms", 1000000), ("s", 1000000000),
    ("m", 60000000000), ("h", 3600000000000)] : List (String × Nat)).lookup (String.ofList name)

inductive Fault where
  | invalid (given : String)
  | missingUnit (given : String)
  | unknownUnit (name given : String)
  deriving DecidableEq, Repr

/-- A text in quotes, with every byte outside printable ASCII written in hexadecimal. -/
def quoted (s : String) : String :=
  let escape (c : Char) : List Char :=
    if c.toNat < 32 || 128 ≤ c.toNat then
      (String.utf8EncodeChar c).flatMap fun b => '\\' :: 'x' :: Text.Quoted.hex 2 b.toNat
    else if c == '"' || c == '\\' then ['\\', c]
    else [c]
  String.ofList ('"' :: s.toList.flatMap escape ++ ['"'])

def Fault.message : Fault → String
  | .invalid s => "time: invalid duration " ++ quoted s
  | .missingUnit s => "time: missing unit in duration " ++ quoted s
  | .unknownUnit u s => "time: unknown unit " ++ quoted u ++ " in duration " ++ quoted s

def isNumeral (c : Char) : Bool := c == '.' || c.isDigit

def valueOf (digits : List Char) : Nat := digits.foldl (fun n c => 10 * n + (c.toNat - 48)) 0

/-- The digits behind a point as a number, and ten to the power of their number. Digits that would take it
beyond a word are left out, and so are all after them. -/
def fractionOf (digits : List Char) : Nat × Nat :=
  let (n, scale, _) := digits.foldl
    (fun (n, scale, full) c =>
      let next := n * 10 + (c.toNat - 48)
      if full || n > (bound - 1) / 10 || next > bound then (n, scale, true) else (next, scale * 10, false))
    (0, 1, false)
  (n, scale)

def fractionNanos (digits : List Char) (unit : Nat) : Nat :=
  let (n, scale) := fractionOf digits
  let (a, b) := Double.nearest unit scale
  let (c, d) := Double.nearest n 1
  let (x, y) := Double.nearest (a * c) (b * d)
  x / y

def readPart (given : String) (cs : List Char) : Except Fault (Nat × List Char) := do
  let whole := cs.takeWhile Char.isDigit
  let rest := cs.dropWhile Char.isDigit
  let (fraction, rest) := match rest with
    | '.' :: r => (r.takeWhile Char.isDigit, r.dropWhile Char.isDigit)
    | r => ([], r)
  if (whole.isEmpty && fraction.isEmpty) || bound < valueOf whole then throw (.invalid given)
  let name := rest.takeWhile fun c => !isNumeral c
  if name.isEmpty then throw (.missingUnit given)
  match unit? name with
  | none => throw (.unknownUnit (String.ofList name) given)
  | some unit =>
    let n := valueOf whole * unit + fractionNanos fraction unit
    if bound < n then throw (.invalid given)
    return (n, rest.dropWhile fun c => !isNumeral c)

def readParts (given : String) : Nat → Nat → List Char → Except Fault Nat
  | _, sum, [] => .ok sum
  | 0, _, _ => .error (.invalid given)
  | fuel + 1, sum, cs => do
    let (n, rest) ← readPart given cs
    if bound < sum + n then throw (.invalid given)
    readParts given fuel (sum + n) rest

/-- Reads a length of time such as `300ms` or `-1.5h`. -/
def parse (s : String) : Except Fault Span :=
  let (negative, cs) := match s.toList with
    | '-' :: cs => (true, cs)
    | '+' :: cs => (false, cs)
    | cs => (false, cs)
  if cs == ['0'] then .ok ⟨0⟩
  else if cs.isEmpty then .error (.invalid s)
  else do
    let n ← readParts s cs.length 0 cs
    if negative then return ⟨-n⟩
    else if n < bound then return ⟨n⟩
    else throw (.invalid s)

def fractionText (places n : Nat) : String :=
  let digits := List.replicate (places - (Nat.repr n).length) '0' ++ (Nat.repr n).toList
  let digits := Seq.dropRightWhile (· == '0') digits
  if digits.isEmpty then "" else String.ofList ('.' :: digits)

def inUnit (places n : Nat) (name : String) : String :=
  Nat.repr (n / Nat.pow 10 places) ++ fractionText places (n % Nat.pow 10 places) ++ name

def magnitude (n : Nat) : String :=
  if n == 0 then "0s"
  else if n < 1000 then Nat.repr n ++ "ns"
  else if n < 1000000 then inUnit 3 n "µs"
  else if n < 1000000000 then inUnit 6 n "ms"
  else
    let seconds := n / 1000000000
    let minutes := seconds / 60
    (if 60 ≤ minutes then Nat.repr (minutes / 60) ++ "h" else "") ++
      (if 0 < minutes then Nat.repr (minutes % 60) ++ "m" else "") ++
      inUnit 9 (n % 60000000000) "s"

def text (d : Span) : String :=
  if d.nanoseconds < 0 then "-" ++ magnitude d.nanoseconds.natAbs else magnitude d.nanoseconds.natAbs

end Span

end MoquiLint
