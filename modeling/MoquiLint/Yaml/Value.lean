import MoquiLint.Double
import MoquiLint.Word
import MoquiLint.Text.Symbol

/-! What plain scalars stand for: nothing, truth values, numbers, times or just text. -/
namespace MoquiLint.Yaml

/-- A floating-point number as far as it can be turned into an integer: its integer part, or one of
the values without any. -/
inductive Real where
  | finite (whole : Int)
  | infinite (negative : Bool)
  | undefined
  deriving DecidableEq, Repr

inductive Value where
  | null
  | bool (b : Bool)
  | int (n : Int)
  | real (r : Real)
  | time
  | text
  deriving DecidableEq, Repr

def Value.tag : Value → String
  | .null => "!!null"
  | .bool _ => "!!bool"
  | .int _ => "!!int"
  | .real _ => "!!float"
  | .time => "!!timestamp"
  | .text => "!!str"

namespace Value

def words : List (List String × Value) := [
  (["true", "True", "TRUE"], .bool true),
  (["false", "False", "FALSE"], .bool false),
  (["", "~", "null", "Null", "NULL"], .null),
  ([".nan", ".NaN", ".NAN"], .real .undefined),
  ([".inf", ".Inf", ".INF", "+.inf", "+.Inf", "+.INF"], .real (.infinite false)),
  (["-.inf", "-.Inf", "-.INF"], .real (.infinite true))]

def digit? (base : Nat) (c : Char) : Option Nat :=
  let d :=
    if c.isDigit then c.toNat - 48
    else if 'a' ≤ c && c ≤ 'f' then c.toNat - 87
    else if 'A' ≤ c && c ≤ 'F' then c.toNat - 55
    else 16
  if d < base then some d else none

def natural? (base : Nat) (s : List Char) : Option Nat :=
  if s.isEmpty then none else s.foldlM (fun n c => (digit? base c).map (n * base + ·)) 0

/-- A number whose base its beginning shows: `0x`, `0b`, `0o` and a leading zero. -/
def magnitude? : List Char → Option Nat
  | ['0'] => some 0
  | '0' :: c :: s =>
    if c == 'x' || c == 'X' then natural? 16 s
    else if c == 'b' || c == 'B' then natural? 2 s
    else if c == 'o' || c == 'O' then natural? 8 s
    else natural? 8 (c :: s)
  | s => natural? 10 s

def integer? (s : List Char) : Option Int :=
  match s with
  | '-' :: t => (magnitude? t).bind fun n => if n ≤ Word.half then some (-(n : Int)) else none
  | '+' :: t => (magnitude? t).bind fun n => if n < Word.half then some (n : Int) else none
  | t => (magnitude? t).bind fun n => if n < Word.size then some (n : Int) else none

/-- An integer in a base that is said outright, with the sign behind the base. -/
def signedBehindBase? (s : List Char) : Option Int :=
  let read (base : Nat) : List Char → Option Int
    | '-' :: t => (natural? base t).bind fun n => if n ≤ Word.half then some (-(n : Int)) else none
    | '+' :: t => (natural? base t).bind fun n => if n < Word.half then some (n : Int) else none
    | _ => none
  match s with
  | '0' :: 'b' :: t => read 2 t
  | '0' :: 'o' :: t => read 8 t
  | _ => none

def ofInt (n : Int) : Real :=
  let m := (Double.whole? n.natAbs 1).getD 0
  .finite (if n < 0 then -(m : Int) else m)

structure Decimal where
  digits : Nat
  exponent : Int
  deriving DecidableEq, Repr

def exponent? : List Char → Option Int
  | [] => some 0
  | e :: s =>
    if e == 'e' || e == 'E' then
      match s with
      | '-' :: t => (natural? 10 t).map fun n => -(n : Int)
      | '+' :: t => (natural? 10 t).map fun n => (n : Int)
      | t => (natural? 10 t).map fun n => (n : Int)
    else none

def decimal? (s : List Char) : Option Decimal := do
  let whole := s.takeWhile Char.isDigit
  let rest := s.dropWhile Char.isDigit
  let (fraction, rest) := match rest with
    | '.' :: t => (t.takeWhile Char.isDigit, t.dropWhile Char.isDigit)
    | t => ([], t)
  if whole.isEmpty && fraction.isEmpty then none
  else
    let e ← exponent? rest
    let n ← natural? 10 (whole ++ fraction)
    return ⟨n, e - fraction.length⟩

/-- The integer part of a decimal number as a double; none if it exceeds all doubles. Exponents far
outside the range of doubles are not worked out. -/
def Decimal.whole? (d : Decimal) : Option Nat :=
  if d.digits == 0 then some 0
  else
    let size : Int := (Nat.toDigits 10 d.digits).length + d.exponent
    if size > 400 then none
    else if size < -400 then some 0
    else if d.exponent ≥ 0 then Double.whole? (d.digits * Nat.pow 10 d.exponent.toNat) 1
    else Double.whole? d.digits (Nat.pow 10 (-d.exponent).toNat)

def real? (s : List Char) : Option Real :=
  let (negative, t) := match s with
    | '-' :: t => (true, t)
    | '+' :: t => (false, t)
    | t => (false, t)
  do
    let d ← decimal? t
    let n ← d.whole?
    return .finite (if negative then -(n : Int) else n)

/-- Whether underscores stand between digits only; `digit` says whether a digit stands before. -/
def separatesDigits : (digit : Bool) → List Char → Bool
  | _, [] => true
  | digit, '_' :: rest => digit && rest.head?.any Char.isDigit && separatesDigits false rest
  | _, c :: rest => separatesDigits c.isDigit rest

/-! ### Times -/

def shortNumber? : List Char → Option (Nat × List Char)
  | a :: b :: s =>
    if a.isDigit then
      if b.isDigit then some ((a.toNat - 48) * 10 + (b.toNat - 48), s) else some (a.toNat - 48, b :: s)
    else none
  | [a] => if a.isDigit then some (a.toNat - 48, []) else none
  | [] => none

def isLeap (y : Nat) : Bool := y % 4 == 0 && (y % 100 != 0 || y % 400 == 0)

def daysIn (y m : Nat) : Nat :=
  if m == 2 then (if isLeap y then 29 else 28)
  else if m == 4 || m == 6 || m == 9 || m == 11 then 30 else 31

def date? (s : List Char) : Option (List Char) := do
  let y ← natural? 10 (s.take 4)
  match s.drop 4 with
  | '-' :: t =>
    let (m, t) ← shortNumber? t
    match t with
    | '-' :: t =>
      let (d, t) ← shortNumber? t
      if 1 ≤ m && m ≤ 12 && 1 ≤ d && d ≤ daysIn y m then some t else none
    | _ => none
  | _ => none

def clock? (s : List Char) : Option (List Char) := do
  let (h, s) ← shortNumber? s
  match s with
  | ':' :: s =>
    let (m, s) ← shortNumber? s
    match s with
    | ':' :: s =>
      let (sec, s) ← shortNumber? s
      if h < 24 && m < 60 && sec < 60 then
        match s with
        | p :: d :: t =>
          if (p == '.' || p == ',') && d.isDigit then some ((d :: t).dropWhile Char.isDigit) else some s
        | _ => some s
      else none
    | _ => none
  | _ => none

def isZone : List Char → Bool
  | ['Z'] => true
  | [sign, a, b, ':', c, d] =>
    (sign == '+' || sign == '-') && a.isDigit && b.isDigit && c.isDigit && d.isDigit &&
    (a.toNat - 48) * 10 + (b.toNat - 48) ≤ 24 && (c.toNat - 48) * 10 + (d.toNat - 48) ≤ 60
  | _ => false

def isTime (s : List Char) : Bool :=
  (s.takeWhile Char.isDigit).length == 4 &&
  match date? s with
  | none => false
  | some [] => true
  | some (x :: t) =>
    if x == 'T' || x == 't' then (clock? t).any isZone
    else if x == ' ' then (clock? (t.dropWhile (· == ' '))).any List.isEmpty
    else false

/-- What a plain scalar stands for. Times are looked for unless another type is asked for. -/
def ofPlain (text : String) (times : Bool := true) : Value :=
  match words.find? fun w => w.1.contains text with
  | some w => w.2
  | none =>
    match text.toList with
    | [] => .null
    | x :: s =>
      let plain := (x :: s).filter (· != '_')
      if x == '.' then
        if separatesDigits false s then ((real? plain).map Value.real).getD .text else .text
      else if x.isDigit || x == '+' || x == '-' then
        if times && isTime (x :: s) then .time
        else
          match integer? plain with
          | some n => .int n
          | none =>
            match real? plain with
            | some r => .real r
            | none => ((signedBehindBase? plain).map Value.int).getD .text
      else .text

end Value

end MoquiLint.Yaml
