import MoquiLint.Yaml.Source

/-! A place in a document. The characters at hand are those of the blocks decoded so far; asking for more
of them decodes further blocks, which fails at a block with a fault. -/
namespace MoquiLint.Yaml

structure Cursor where
  /-- The characters before the block with a fault. -/
  rest : List Char
  mark : Mark := {}
  /-- How many characters are at hand, the end of the document counting as one. -/
  loaded : Nat := 0
  blocks : List Nat := []
  broken : Option Broken := none
  /-- Whether the characters at hand began with a byte order mark when the last block was decoded. -/
  marked : Bool := false
  /-- Whether the fault was met while looking ahead. -/
  failed : Bool := false
  deriving DecidableEq, Repr

def isBreak (c : Char) : Bool :=
  c == '\r' || c == '\n' || c == '\u0085' || c == '\u2028' || c == '\u2029'

def isBlank (c : Char) : Bool := c == ' ' || c == '\t'

def endsWord : List Char → Bool
  | [] => true
  | c :: _ => isBlank c || isBreak c

def endsLine : List Char → Bool
  | [] => true
  | c :: _ => isBreak c

def isWordChar (c : Char) : Bool := c.isAlphanum || c == '_' || c == '-'

namespace Cursor

def ofSource (src : Source) : Cursor :=
  { rest := src.blocks.flatten, blocks := src.blocks.map List.length, broken := src.broken }

def peek? (c : Cursor) : Option Char := c.rest.head?

def isAt (c : Cursor) (x : Char) : Bool := c.rest.head? == some x

def fill (n : Nat) : Nat → List Nat → Nat × List Nat
  | loaded, [] => (loaded, [])
  | loaded, size :: sizes => if n ≤ loaded then (loaded, size :: sizes) else fill n (loaded + size) sizes

/-- Asks for `n` characters. At the end of the document there may be fewer. -/
def need (n : Nat) (c : Cursor) : Except Fault Cursor :=
  if n ≤ c.loaded then .ok c
  else
    let (loaded, blocks) := fill n c.loaded c.blocks
    let c := { c with loaded := loaded, blocks := blocks, marked := c.isAt '\uFEFF' }
    if n ≤ loaded then .ok c
    else
      match c.broken with
      | some b => .error ⟨.reading, b.problem, {}, {}⟩
      | none => .ok { c with loaded := loaded + 1 }

/-- Asks for `n` characters ahead of a decision that can be made without them. A fault is kept for
later, and the characters before it are at hand. -/
def look (n : Nat) (c : Cursor) : Bool × Cursor :=
  match c.need n, c.broken with
  | .ok c, _ => (true, c)
  | .error _, none => (false, c)
  | .error _, some b =>
    let rest := c.rest ++ b.chars
    (false, { c with rest := rest, loaded := rest.length, blocks := [], broken := some { b with chars := [] },
                     failed := true })

def skip (c : Cursor) (n : Nat := 1) : Cursor :=
  { c with rest := c.rest.drop n, loaded := c.loaded - n,
           mark := { c.mark with index := c.mark.index + n, column := c.mark.column + n } }

def readWhile (p : Char → Bool) (c : Cursor) : Except Fault (List Char × Cursor) :=
  go (c.rest.length + 1) c []
where
  /-- The characters read so far are `out`, last first. -/
  go : Nat → Cursor → List Char → Except Fault (List Char × Cursor)
  | 0, c, out => .ok (out.reverse, c)
  | fuel + 1, c, out => do
    let c ← c.need 1
    match c.rest with
    | [] => return (out.reverse, c)
    | x :: _ => if p x then go fuel c.skip (x :: out) else return (out.reverse, c)

def skipWhile (p : Char → Bool) (c : Cursor) : Except Fault Cursor := do
  let (_, c) ← c.readWhile p
  return c

def readBreak (c : Cursor) : List Char × Cursor :=
  let next (n : Nat) : Cursor :=
    { c with rest := c.rest.drop n, loaded := c.loaded - n,
             mark := { index := c.mark.index + n, line := c.mark.line + 1, column := 0 } }
  match c.rest with
  | '\r' :: '\n' :: _ => (['\n'], next 2)
  | x :: _ =>
    if isBreak x then (if x == '\u2028' || x == '\u2029' then [x] else ['\n'], next 1) else ([], c)
  | [] => ([], c)

def readLine (c : Cursor) : Except Fault (List Char × Cursor) := do
  let c ← c.need 2
  return c.readBreak

def skipLine (c : Cursor) : Except Fault Cursor := do
  if c.peek?.any isBreak then
    let (_, c) ← c.readLine
    return c
  else return c

def atMarker (c : Cursor) (x : Char) : Bool :=
  c.mark.column == 0 && [x, x, x].isPrefixOf c.rest && endsWord (c.rest.drop 3)

def atDocumentMark (c : Cursor) : Bool := c.atMarker '-' || c.atMarker '.'

end Cursor

def scanFault {α : Type} (c : Cursor) (context : Mark) (p : Problem) : Except Fault α :=
  .error { stage := .scanning, problem := p, context := context, place := c.mark }

end MoquiLint.Yaml
