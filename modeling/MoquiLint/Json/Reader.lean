import MoquiLint.Json.Value

/-! Reading JSON text. White space may surround values and separators; nothing else may follow the
value. Bytes outside UTF-8 and escapes that name half a surrogate pair read as the replacement
character. -/
namespace MoquiLint.Json

def isBlank (c : Char) : Bool := c == ' ' || c == '\t' || c == '\n' || c == '\r'

def hexValue? (c : Char) : Option Nat :=
  if '0' ≤ c && c ≤ '9' then some (c.toNat - 48)
  else if 'a' ≤ c && c ≤ 'f' then some (c.toNat - 87)
  else if 'A' ≤ c && c ≤ 'F' then some (c.toNat - 55)
  else none

def hexUnit? : List Char → Option (Nat × List Char)
  | a :: b :: c :: d :: s => do
    let n := (← hexValue? a) * 4096 + (← hexValue? b) * 256 + (← hexValue? c) * 16 + (← hexValue? d)
    return (n, s)
  | _ => none

def surrogatePair? (hi lo : Nat) : Option Char :=
  if 0xD800 ≤ hi && hi < 0xDC00 && 0xDC00 ≤ lo && lo < 0xE000 then
    some (Char.ofNat (0x10000 + (hi - 0xD800) * 0x400 + (lo - 0xDC00)))
  else none

/-- A unit of sixteen bits that is no character by itself reads as the replacement character. -/
def unitChar (n : Nat) : Char :=
  if 0xD800 ≤ n && n < 0xE000 then Symbol.replacement else Char.ofNat n

def unicodeEscape? (s : List Char) : Option (Char × List Char) := do
  let (n, rest) ← hexUnit? s
  match rest with
  | '\\' :: 'u' :: more =>
    match hexUnit? more with
    | some (m, rest') =>
      match surrogatePair? n m with
      | some c => return (c, rest')
      | none => return (unitChar n, rest)
    | none => return (unitChar n, rest)
  | _ => return (unitChar n, rest)

def simpleEscape? : Char → Option Char
  | '"' => some '"'
  | '\\' => some '\\'
  | '/' => some '/'
  | 'b' => some '\x08'
  | 'f' => some '\x0c'
  | 'n' => some '\n'
  | 'r' => some '\r'
  | 't' => some '\t'
  | _ => none

def stringBody : Nat → List Char → Option (List Char × List Char)
  | 0, _ => none
  | _, [] => none
  | _, '"' :: s => some ([], s)
  | fuel + 1, '\\' :: 'u' :: s => do
    let (c, rest) ← unicodeEscape? s
    let (cs, rest') ← stringBody fuel rest
    return (c :: cs, rest')
  | fuel + 1, '\\' :: e :: s => do
    let c ← simpleEscape? e
    let (cs, rest) ← stringBody fuel s
    return (c :: cs, rest)
  | fuel + 1, c :: s =>
    if c == '\\' || c.toNat < 32 then none
    else do
      let (cs, rest) ← stringBody fuel s
      return (c :: cs, rest)

def digitsValue (ds : List Char) : Nat := ds.foldl (fun n d => 10 * n + (d.toNat - 48)) 0

def spanDigits (s : List Char) : List Char × List Char := (s.takeWhile Char.isDigit, s.dropWhile Char.isDigit)

def fraction? : List Char → Option (List Char × List Char)
  | '.' :: s => match spanDigits s with
    | ([], _) => none
    | (ds, rest) => some ('.' :: ds, rest)
  | s => some ([], s)

def exponent? : List Char → Option (List Char × List Char)
  | e :: s =>
    if e == 'e' || e == 'E' then
      let (sign, digits) := match s with
        | '+' :: t => (['+'], t)
        | '-' :: t => (['-'], t)
        | t => ([], t)
      match spanDigits digits with
      | ([], _) => none
      | (ds, rest) => some (e :: sign ++ ds, rest)
    else some ([], e :: s)
  | [] => some ([], [])

def unsigned? (negative : Bool) (s : List Char) : Option (Json × List Char) := do
  let (ds, rest) := match s with
    | '0' :: t => (['0'], t)
    | t => spanDigits t
  if ds.isEmpty then none
  else
    let (frac, rest) ← fraction? rest
    let (exp, rest) ← exponent? rest
    if frac.isEmpty && exp.isEmpty then
      let n : Int := digitsValue ds
      return (.int (if negative then -n else n), rest)
    else
      return (.real (String.ofList ((if negative then ['-'] else []) ++ ds ++ frac ++ exp)), rest)

def number? : List Char → Option (Json × List Char)
  | '-' :: s => unsigned? true s
  | s => unsigned? false s

def skip (s : List Char) : List Char := s.dropWhile isBlank

mutual

/-- A value at the front, which must not be blank. The fuel bounds the number of steps. -/
def value? : Nat → List Char → Option (Json × List Char)
  | 0, _ => none
  | fuel + 1, s =>
    match s with
    | '\x7b' :: t => match skip t with
      | '\x7d' :: rest => some (.obj [], rest)
      | t' => do
        let (ms, rest) ← members? fuel t'
        return (.obj ms, rest)
    | '[' :: t => match skip t with
      | ']' :: rest => some (.arr [], rest)
      | t' => do
        let (xs, rest) ← items? fuel t'
        return (.arr xs, rest)
    | '"' :: t => do
      let (cs, rest) ← stringBody (t.length + 1) t
      return (.str (Text.ofChars cs), rest)
    | 't' :: 'r' :: 'u' :: 'e' :: rest => some (.bool true, rest)
    | 'f' :: 'a' :: 'l' :: 's' :: 'e' :: rest => some (.bool false, rest)
    | 'n' :: 'u' :: 'l' :: 'l' :: rest => some (.null, rest)
    | t => number? t

def items? : Nat → List Char → Option (List Json × List Char)
  | 0, _ => none
  | fuel + 1, s => do
    let (x, rest) ← value? fuel s
    match skip rest with
    | ']' :: rest' => return ([x], rest')
    | ',' :: rest' =>
      let (xs, rest'') ← items? fuel (skip rest')
      return (x :: xs, rest'')
    | _ => none

def members? : Nat → List Char → Option (List (String × Json) × List Char)
  | 0, _ => none
  | fuel + 1, s => do
    match s with
    | '"' :: t =>
      let (k, rest) ← stringBody (t.length + 1) t
      match skip rest with
      | ':' :: rest' =>
        let (v, rest'') ← value? fuel (skip rest')
        match skip rest'' with
        | '\x7d' :: out => return ([(String.ofList k, v)], out)
        | ',' :: more =>
          let (ms, out) ← members? fuel (skip more)
          return ((String.ofList k, v) :: ms, out)
        | _ => none
      | _ => none
    | _ => none

end

/-- The value that the characters write, if they write one and nothing else. -/
def ofChars? (s : List Char) : Option Json := do
  let (j, rest) ← value? (2 * s.length + 2) (skip s)
  if (skip rest).isEmpty then return j else none

def ofBytes? (bs : Bytes) : Option Json := ofChars? (Text.codes (Text.decode bs))

end MoquiLint.Json
