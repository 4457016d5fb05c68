import MoquiLint.Regular.Property
import MoquiLint.Text.Edit

/-! Reading regular expressions. An expression that is not well formed reads as none. -/
namespace MoquiLint.Regular

def namedSets : List (String × List (Nat × Nat × Nat)) := [
  ("alnum", [(48, 57, 1), (65, 90, 1), (97, 122, 1)]),
  ("alpha", [(65, 90, 1), (97, 122, 1)]),
  ("ascii", [(0, 127, 1)]),
  ("blank", [(9, 9, 1), (32, 32, 1)]),
  ("cntrl", [(0, 31, 1), (127, 127, 1)]),
  ("digit", [(48, 57, 1)]),
  ("graph", [(33, 126, 1)]),
  ("lower", [(97, 122, 1)]),
  ("print", [(32, 126, 1)]),
  ("punct", [(33, 47, 1), (58, 64, 1), (91, 96, 1), (123, 126, 1)]),
  ("space", [(9, 13, 1), (32, 32, 1)]),
  ("upper", [(65, 90, 1)]),
  ("word", [(48, 57, 1), (65, 90, 1), (95, 95, 1), (97, 122, 1)]),
  ("xdigit", [(48, 57, 1), (65, 70, 1), (97, 102, 1)])]

/-- The set a one-letter escape stands for; the capital letter stands for everything outside it. -/
def letterSet? : Char → Option CharSet
  | 'd' => some ⟨[(48, 57, 1)], false⟩
  | 'D' => some ⟨[(48, 57, 1)], true⟩
  | 's' => some ⟨[(9, 10, 1), (12, 13, 1), (32, 32, 1)], false⟩
  | 'S' => some ⟨[(9, 10, 1), (12, 13, 1), (32, 32, 1)], true⟩
  | 'w' => some ⟨[(48, 57, 1), (65, 90, 1), (95, 95, 1), (97, 122, 1)], false⟩
  | 'W' => some ⟨[(48, 57, 1), (65, 90, 1), (95, 95, 1), (97, 122, 1)], true⟩
  | _ => none

/-- A property after `\p`, and after `\P` what lacks it: one letter, or a name in braces, which a caret
negates. -/
def propertySet? (negated : Bool) (s : List Char) : Option (CharSet × List Char) := do
  let (name, rest) ← match s with
    | '\x7b' :: t => match t.dropWhile (· != '\x7d') with
      | _ :: rest => some (t.takeWhile (· != '\x7d'), rest)
      | [] => none
    | c :: t => some ([c], t)
    | [] => none
  let (negated, name) := match name with
    | '^' :: name => (!negated, name)
    | name => (negated, name)
  let set ← property? name
  some (if negated then set.outside else set, rest)

def hexDigit? (c : Char) : Option Nat :=
  if c.isDigit then some (c.toNat - 48)
  else if 'a' ≤ c && c ≤ 'f' then some (c.toNat - 87)
  else if 'A' ≤ c && c ≤ 'F' then some (c.toNat - 55)
  else none

def isOctal (c : Char) : Bool := '0' ≤ c && c ≤ '7'

def octalValue (ds : List Char) : Nat := ds.foldl (fun n d => n * 8 + (d.toNat - 48)) 0

def controlEscape? : Char → Option Nat
  | 'a' => some 7
  | 'f' => some 12
  | 'n' => some 10
  | 'r' => some 13
  | 't' => some 9
  | 'v' => some 11
  | _ => none

def escapedCode? : List Char → Option (Nat × List Char)
  | [] => none
  | 'x' :: '\x7b' :: s => do
    let digits := s.takeWhile (· != '\x7d')
    let n ← digits.foldlM (fun n d => (hexDigit? d).map (n * 16 + ·)) 0
    match s.dropWhile (· != '\x7d') with
    | _ :: rest => if digits.isEmpty || n > 0x10FFFF then none else some (n, rest)
    | [] => none
  | 'x' :: a :: b :: s => do return ((← hexDigit? a) * 16 + (← hexDigit? b), s)
  | '0' :: s =>
    let ds := (s.take 2).takeWhile isOctal
    some (octalValue ds, s.drop ds.length)
  | c :: s =>
    if isOctal c then
      match (s.take 2).takeWhile isOctal with
      | [] => none
      | ds => some (octalValue (c :: ds), s.drop ds.length)
    else
      match controlEscape? c with
      | some n => some (n, s)
      | none => if c.toNat < 128 && !c.isAlphanum then some (c.toNat, s) else none

def classCode? : List Char → Option (Nat × List Char)
  | [] => none
  | '\\' :: s => escapedCode? s
  | c :: s => some (c.toNat, s)

/-- A named class at the front; `none` inside means that there is none and no fault either. -/
def namedSet? (s : List Char) : Option (Option (CharSet × List Char)) :=
  match s with
  | '[' :: ':' :: t =>
    match Seq.find? [':', ']'] t with
    | none => some none
    | some n =>
      let (negated, name) := match t.take n with
        | '^' :: name => (true, name)
        | name => (false, name)
      (namedSets.lookup (String.ofList name)).map fun r => some (⟨r, negated⟩, t.drop (n + 2))
  | _ => some none

def classItem? (s : List Char) : Option (CharSet × List Char) := do
  match ← namedSet? s with
  | some found => some found
  | none =>
    match s with
    | '\\' :: 'p' :: t => propertySet? false t
    | '\\' :: 'P' :: t => propertySet? true t
    | _ =>
      match s with
      | '\\' :: c :: t =>
        match letterSet? c with
        | some set => some (set, t)
        | none => range s
      | _ => range s
where
  range (s : List Char) : Option (CharSet × List Char) := do
    let (low, t) ← classCode? s
    match t with
    | '-' :: c :: t' =>
      if c == ']' then some (.span low low, t)
      else
        let (high, rest) ← classCode? (c :: t')
        if high < low then none else some (.span low high, rest)
    | _ => some (.span low low, t)

def classItems? : Nat → Bool → List Char → Option (List CharSet × List Char)
  | 0, _, _ => none
  | _, false, ']' :: s => some ([], s)
  | fuel + 1, _, s => do
    let (item, rest) ← classItem? s
    let (items, rest) ← classItems? fuel false rest
    some (item :: items, rest)

def ofClass (negated : Bool) (items : List CharSet) : Regular :=
  match negated, items with
  | false, [⟨[(first, last, 1)], false⟩] =>
    if first == last then .literal [Char.ofNat first] else .oneOf negated items
  | _, _ => .oneOf negated items

def class? (s : List Char) : Option (Regular × List Char) := do
  let (negated, s) := match s with
    | '^' :: t => (true, t)
    | t => (false, t)
  let (items, rest) ← classItems? (s.length + 1) true s
  some (ofClass negated items, rest)

def maxCount : Nat := 1000

def count? (s : List Char) : Option (Nat × List Char) :=
  let ds := s.takeWhile Char.isDigit
  if ds.isEmpty || (ds.length > 1 && ds.head? == some '0') then none
  else some (ds.foldl (fun n d => n * 10 + (d.toNat - 48)) 0, s.dropWhile Char.isDigit)

def counts? (s : List Char) : Option (Nat × Option Nat × List Char) := do
  let (least, rest) ← count? s
  match rest with
  | '\x7d' :: rest => some (least, some least, rest)
  | ',' :: '\x7d' :: rest => some (least, none, rest)
  | ',' :: rest =>
    let (most, rest) ← count? rest
    match rest with
    | '\x7d' :: rest => some (least, some most, rest)
    | _ => none
  | _ => none

/-- A repetition at the front: its bounds and what follows. Braces that hold no bounds are none. -/
def repetition? : List Char → Option (Nat × Option Nat × List Char)
  | '*' :: s => some (0, none, s)
  | '+' :: s => some (1, none, s)
  | '?' :: s => some (0, some 1, s)
  | '\x7b' :: s => counts? s
  | _ => none

def countsFit (least : Nat) (most : Option Nat) : Bool :=
  least ≤ maxCount && (most.getD 0) ≤ maxCount && most.all (least ≤ ·)

/-- An expression repeated, if the bounds allow it and those inside it do not multiply beyond the
largest count. -/
def repeated? (r : Regular) (least : Nat) (most : Option Nat) : Option Regular :=
  let r := Regular.times r least most
  if !countsFit least most || (least ≥ 2 || most.any (· ≥ 2)) && weight r > maxCount then none else some r

def verbatim : List Char → List Char × List Char
  | [] => ([], [])
  | '\\' :: 'E' :: s => ([], s)
  | c :: s => let (cs, rest) := verbatim s; (c :: cs, rest)

def escape? (s : List Char) : Option (Regular × List Char) :=
  match s with
  | 'A' :: t => some (.textStart, t)
  | 'z' :: t => some (.textEnd, t)
  | 'b' :: t => some (.wordEdge false, t)
  | 'B' :: t => some (.wordEdge true, t)
  | 'p' :: t => (propertySet? false t).map fun (set, rest) => (ofSet set, rest)
  | 'P' :: t => (propertySet? true t).map fun (set, rest) => (ofSet set, rest)
  | c :: t =>
    match letterSet? c with
    | some set => some (ofSet set, t)
    | none => (escapedCode? s).map fun (n, rest) => (.literal [Char.ofNat n], rest)
  | [] => none

def maxHeight : Nat := 1000

mutual

/-- Alternatives up to a closing parenthesis or the end. The fuel bounds the number of steps, and `depth`
the number of parentheses that may still be opened. -/
def alternatives? : Nat → (depth : Nat) → List Char → Option (Regular × List Char)
  | 0, _, _ => none
  | fuel + 1, depth, s => do
    let (first, rest) ← sequence? fuel depth [] false s
    match rest with
    | '|' :: t =>
      let (others, rest) ← alternatives? fuel depth t
      some (.either first others, rest)
    | _ => some (first, rest)

/-- Expressions up to a bar, a closing parenthesis or the end; those read so far are `done`, last first.
A repetition takes the last of them, and another one must not follow it at once. -/
def sequence? : Nat → (depth : Nat) → (done : List Regular) → (repeated : Bool) → List Char →
    Option (Regular × List Char)
  | 0, _, _, _, _ => none
  | _, _, done, _, [] => some (all done.reverse, [])
  | _, _, done, _, '|' :: s => some (all done.reverse, '|' :: s)
  | _, _, done, _, ')' :: s => some (all done.reverse, ')' :: s)
  | fuel + 1, depth, done, _, '\\' :: 'Q' :: s =>
    let (cs, rest) := verbatim s
    sequence? fuel depth ((cs.map fun c => .literal [c]).reverse ++ done) false rest
  | fuel + 1, depth, done, repeated, s =>
    match repetition? s, done with
    | some (least, most, rest), r :: done => do
      let rest := match rest with
        | '?' :: t => t
        | t => t
      if repeated then none else sequence? fuel depth ((← repeated? r least most) :: done) true rest
    | some _, [] => none
    | none, done => do
      let (r, rest) ← atom? fuel depth s
      sequence? fuel depth (r :: done) false rest

def atom? : Nat → (depth : Nat) → List Char → Option (Regular × List Char)
  | 0, _, _ => none
  | _, _, [] => none
  | fuel + 1, depth, c :: s =>
    match c with
    | '(' => do
      if depth == 0 || s.head? == some '?' then none
      else
        let (r, rest) ← alternatives? fuel (depth - 1) s
        match rest with
        | ')' :: rest => some (.group r, rest)
        | _ => none
    | '[' => class? s
    | '.' => some (anyChar, s)
    | '^' => some (.textStart, s)
    | '$' => some (.textEnd, s)
    | '\\' => escape? s
    | _ => some (.literal [c], s)

end

def ofChars? (s : List Char) : Option Regular :=
  match alternatives? (3 * s.length + 3) maxHeight s with
  | some (r, []) => if r.height ≤ maxHeight then some r else none
  | _ => none

end MoquiLint.Regular
