import MoquiLint.Text.Quoted
import MoquiLint.Text.Edit

/-! Files of settings. A line in brackets opens a section, perhaps a part of one that is named in quotes;
the lines below it give names and values. Comments start with `;` or `#`. -/
namespace MoquiLint.Git.Settings

/-- A line: the section it belongs to, the part of it, and for all but the first one a name and a
value. -/
structure Line where
  group : String
  part : String
  setting : Option (String × String) := none
  deriving DecidableEq, Repr

inductive Problem where
  | sectionName
  | emptyPart
  | partOrBracket
  | rightBracket
  | endOfLine
  | header
  | equals
  | value
  | headerOrName
  | openString
  | escape
  | character (c : Char)
  | zero
  | encoding
  deriving DecidableEq, Repr

def codeOf (c : Char) : String :=
  let digits := (Nat.toDigits 16 c.toNat).map Char.toUpper
  String.ofList ('U' :: '+' :: List.replicate (4 - digits.length) '0' ++ digits) ++
    if Text.isPrintable c then " '" ++ c.toString ++ "'" else ""

def Problem.message : Problem → String
  | .sectionName => "expected section name"
  | .emptyPart => "empty subsection name"
  | .partOrBracket => "expected subsection name or right bracket"
  | .rightBracket => "expected right bracket"
  | .endOfLine => "expected EOL, EOF, or comment"
  | .header => "expected section header"
  | .equals => "expected '='"
  | .value => "expected value"
  | .headerOrName => "expected section header or variable declaration"
  | .openString => "string not terminated"
  | .escape => "unknown escape sequence"
  | .character c => "illegal character " ++ codeOf c
  | .zero => "illegal character NUL"
  | .encoding => "illegal UTF-8 encoding"

/-- A problem, where it is, and how many were found right after it. -/
structure Fault where
  line : Nat
  column : Nat
  problem : Problem
  further : Nat := 0
  deriving DecidableEq, Repr

def Fault.message (f : Fault) : String :=
  toString f.line ++ ":" ++ toString f.column ++ ": " ++ f.problem.message ++
    if f.further == 0 then "" else " (and " ++ toString f.further ++ " more errors)"

structure State where
  /-- What is left, the current symbol first. -/
  rest : Text
  offset : Nat := 0
  atValue : Bool := false
  problems : List (Nat × Problem) := []

abbrev Scan := StateM State

def report (place : Nat) (p : Problem) : Scan Unit :=
  modify fun s => { s with problems := s.problems ++ [(place, p)] }

def current : Scan (Option Char) := return (← get).rest.head?.map Symbol.code

def check : Scan Unit := do
  let s ← get
  match s.rest.head? with
  | some (.stray _) => report s.offset .encoding
  | some (.char c) => if c.toNat == 0 then report s.offset .zero
  | none => return ()

def advance : Scan Unit := do
  match (← get).rest with
  | [] => return ()
  | x :: rest =>
    modify fun s => { s with rest := rest, offset := s.offset + x.bytes.length }
    check

inductive Token where
  | finish
  | newline
  | name (text : String)
  | text (chars : List Char)
  | opening
  | closing
  | equals
  | illegal
  deriving DecidableEq, Repr

def isBlank (c : Char) : Bool := c == ' ' || c == '\t' || c == '\r'

def isLetter (c : Char) : Bool := if c.toNat < 128 then c.isAlpha else Text.isLetter c

def inName (c : Char) : Bool :=
  isLetter c || c == '-' || (if c.toNat < 128 then c.isDigit else Text.isDigit c)

def takeWhile (p : Char → Bool) : Nat → Scan (List Char)
  | 0 => return []
  | fuel + 1 => do
    match ← current with
    | some c => if p c then advance; return c :: (← takeWhile p fuel) else return []
    | none => return []

/-- Takes the character after a backslash. Values know more of them than strings. -/
def takeEscaped (inValue : Bool) : Scan (List Char) := do
  let place := (← get).offset
  let c ← current
  advance
  let known := match c with
    | some c => ['\\', '"', '\n'].contains c || (inValue && ['n', 't', 'b'].contains c)
    | none => false
  if !known then report place .escape
  return c.toList

def takeString (start : Nat) : Nat → Scan (List Char)
  | 0 => return []
  | fuel + 1 => do
    match ← current with
    | none => report start .openString; return []
    | some '"' => advance; return ['"']
    | some '\n' => advance; report start .openString; advance; return []
    | some '\\' => advance; return '\\' :: (← takeEscaped false) ++ (← takeString start fuel)
    | some c => advance; return c :: (← takeString start fuel)

/-- Takes a value up to the end of its line or a comment. `taken` is what was taken, last first, `solid`
the same without blanks at the end. -/
def takeValue (start : Nat) : Nat → Bool → List Char → List Char → Scan (List Char)
  | 0, _, _, solid => return solid
  | fuel + 1, quoted, taken, solid => do
    match ← current with
    | none => if quoted then report start .openString; return solid else return solid
    | some c =>
      if !quoted && (c == '\n' || c == ';' || c == '#') then return solid
      advance
      let taken := c :: taken
      if c == '\\' then
        let gap ← if quoted then pure [] else takeWhile (· == '\r') 1
        let more ← takeEscaped true
        let taken := more ++ gap ++ taken
        takeValue start fuel quoted taken taken
      else if c == '"' then takeValue start fuel (!quoted) taken taken
      else if quoted && c == '\n' then report start .openString; return solid
      else takeValue start fuel quoted taken (if quoted || !isBlank c then taken else solid)

def next : Nat → Scan (Nat × Token)
  | 0 => return (0, .finish)
  | fuel + 1 => do
    let _ ← takeWhile isBlank (fuel + 1)
    let s ← get
    let start := s.offset
    if s.atValue then
      let v ← takeValue start (fuel + 1) false [] []
      modify fun s => { s with atValue := false }
      return (start, .text (v.reverse.filter (· != '\r')))
    match s.rest.head?.map Symbol.code with
    | none => return (start, .finish)
    | some c =>
      if isLetter c then return (start, .name (String.ofList (← takeWhile inName (fuel + 1))))
      advance
      if c == '\n' then return (start, .newline)
      else if c == '"' then return (start, .text ('"' :: (← takeString start (fuel + 1))))
      else if c == '[' then return (start, .opening)
      else if c == ']' then return (start, .closing)
      else if c == ';' || c == '#' then
        let _ ← takeWhile (· != '\n') (fuel + 1)
        next fuel
      else if c == '=' then
        modify fun s => { s with atValue := true }
        return (start, .equals)
      else
        report start (.character c)
        return (start, .illegal)

def unquote : List Char → List Char
  | [] => []
  | '"' :: cs => unquote cs
  | '\\' :: 'n' :: cs => '\n' :: unquote cs
  | '\\' :: 't' :: cs => '\t' :: unquote cs
  | '\\' :: 'b' :: cs => Char.ofNat 8 :: unquote cs
  | '\\' :: '\n' :: cs => unquote cs
  | '\\' :: c :: cs => c :: unquote cs
  | c :: cs => c :: unquote cs

abbrev Reader := StateT State (Except Fault)

/-- Line and column of a place. A line break at the very end opens no line. -/
def position (bytes : Bytes) (place : Nat) : Nat × Nat :=
  let before := bytes.take place
  let before := if before.length == bytes.length && before.getLast? == some 10 then before.dropLast else before
  let line := (before.filter (· == 10)).length + 1
  let start := before.length - (before.reverse.takeWhile (· != 10)).length
  (line, place - start + 1)

def fail {α : Type} (bytes : Bytes) (place : Nat) (p : Problem) (further : Nat) : Reader α :=
  let (line, column) := position bytes place
  throw ⟨line, column, p, further⟩

def token : Reader (Nat × Token) := fun s =>
  let (t, s) := (next (s.rest.length + 1)).run s
  .ok (t, s)

def settled (bytes : Bytes) : Reader Unit := do
  match (← get).problems with
  | [] => return ()
  | (place, p) :: more => fail bytes place p more.length

def soundToken (bytes : Bytes) : Reader (Nat × Token) := do
  let t ← token
  settled bytes
  return t

def Token.ends : Token → Bool
  | .finish | .newline => true
  | _ => false

def readHeader (bytes : Bytes) : Reader (String × String) := do
  let (place, t) ← soundToken bytes
  match t with
  | .name group =>
    let (place, t) ← soundToken bytes
    let (part, place, t) ← match t with
      | .text cs => do
        let part := unquote cs
        if part.isEmpty then fail bytes place .emptyPart 0
        let (place, t) ← soundToken bytes
        pure (String.ofList part, place, t)
      | t => pure ("", place, t)
    if t ≠ .closing then fail bytes place (if part == "" then .partOrBracket else .rightBracket) 0
    return (group, part)
  | _ => fail bytes place .sectionName 0

def readSetting (bytes : Bytes) : Reader (String × Nat × Token) := do
  let (place, t) ← soundToken bytes
  if t.ends then return ("", place, t)
  if t ≠ .equals then fail bytes place .equals 0
  let (place, t) ← soundToken bytes
  match t with
  | .text cs =>
    let (place, t) ← soundToken bytes
    if !t.ends then fail bytes place .endOfLine 0
    return (String.ofList (unquote cs), place, t)
  | _ => fail bytes place .value 0

def readLines (bytes : Bytes) (group part : String) : Nat → Nat × Token → Reader (List Line)
  | 0, _ => return []
  | fuel + 1, (place, t) => do
    settled bytes
    match t with
    | .finish => return []
    | .newline => readLines bytes group part fuel (← token)
    | .opening =>
      let (group, part) ← readHeader bytes
      let (place, t) ← token
      if !t.ends then fail bytes place .endOfLine 0
      return ⟨group, part, none⟩ :: (← readLines bytes group part fuel (place, t))
    | .name n =>
      if group == "" then fail bytes place .header 0
      let (value, next) ← readSetting bytes
      return ⟨group, part, some (n, value)⟩ :: (← readLines bytes group part fuel next)
    | _ => fail bytes place (if group == "" then .header else .headerOrName) 0

def read (bytes : Bytes) : Except Fault (List Line) := do
  let s : State := { rest := Text.decode bytes }
  let s := (check.run s).2
  let run : Reader (List Line) := do readLines bytes "" "" (bytes.length + 2) (← token)
  return (← run.run s).1

def valueOf (group part name : String) (lines : List Line) : String :=
  (lines.reverse.findSome? fun l =>
    if Str.equalFold l.group group && l.part == part then
      l.setting.bind fun s => if Str.equalFold s.1 name then some s.2 else none
    else none).getD ""

def partsOf (group : String) (lines : List Line) : List String :=
  ((lines.filter fun l => Str.equalFold l.group group && l.part != "").map (·.part)).eraseDups

end MoquiLint.Git.Settings
