import MoquiLint.Yaml.Cursor

/-! Scalars: text in quotes, plain text, and text in indented blocks. A single line break within a
quoted or plain scalar reads as a blank, further ones read as themselves. Text is collected last
character first. -/
namespace MoquiLint.Yaml

structure Gap where
  broken : Bool := false
  /-- The blanks, if no line has ended. -/
  blanks : List Char := []
  first : List Char := []
  more : List Char := []
  deriving DecidableEq, Repr

/-- What the white space reads as, last character first. -/
def Gap.text (g : Gap) : List Char :=
  if g.broken then
    if g.first == ['\n'] then (if g.more.isEmpty then [' '] else g.more) else g.more ++ g.first
  else g.blanks

/-- Reads white space. In a plain scalar, tabs are refused before the column `indent`. -/
def readGap (start : Mark) (indent : Option Int) : Nat → Cursor → Gap → Except Fault (Gap × Cursor)
  | 0, c, g => .ok (g, c)
  | fuel + 1, c, g => do
    let c ← c.need 1
    match c.rest with
    | [] => return (g, c)
    | x :: _ =>
      if isBlank x then
        if x == '\t' && g.broken && (indent.any fun i => (c.mark.column : Int) < i) then
          scanFault c start .tabInPlain
        else readGap start indent fuel c.skip (if g.broken then g else { g with blanks := x :: g.blanks })
      else if isBreak x then
        let (line, c) ← c.readLine
        readGap start indent fuel c
          (if g.broken then { g with more := line.reverse ++ g.more }
           else { g with broken := true, blanks := [], first := line })
      else return (g, c)

/-! ### Quoted scalars -/

def hexValue? (c : Char) : Option Nat :=
  if c.isDigit then some (c.toNat - 48)
  else if 'a' ≤ c && c ≤ 'f' then some (c.toNat - 87)
  else if 'A' ≤ c && c ≤ 'F' then some (c.toNat - 55)
  else none

def shortEscape? : Char → Option Char
  | '0' => some '\x00'
  | 'a' => some '\x07'
  | 'b' => some '\x08'
  | 't' => some '\t'
  | '\t' => some '\t'
  | 'n' => some '\n'
  | 'v' => some '\x0b'
  | 'f' => some '\x0c'
  | 'r' => some '\r'
  | 'e' => some '\x1b'
  | ' ' => some ' '
  | '"' => some '"'
  | '\'' => some '\''
  | '\\' => some '\\'
  | 'N' => some '\u0085'
  | '_' => some '\u00A0'
  | 'L' => some '\u2028'
  | 'P' => some '\u2029'
  | _ => none

def codeLength? : Char → Option Nat
  | 'x' => some 2
  | 'u' => some 4
  | 'U' => some 8
  | _ => none

def readEscape (start : Mark) (c : Cursor) : Except Fault (Char × Cursor) :=
  match c.rest.drop 1 with
  | [] => scanFault c start .unknownEscape
  | e :: _ =>
    match shortEscape? e with
    | some x => .ok (x, c.skip 2)
    | none =>
      match codeLength? e with
      | none => scanFault c start .unknownEscape
      | some n => do
        let c ← (c.skip 2).need n
        let digits := (c.rest.take n).filterMap hexValue?
        if digits.length < n then scanFault c start .noHexDigit
        else
          let v := digits.foldl (fun v d => v * 16 + d) 0
          if (0xD800 ≤ v && v ≤ 0xDFFF) || v > 0x10FFFF then scanFault c start .badEscapeCode
          else return (Char.ofNat v, c.skip n)

def quoteChar (single : Bool) : Char := if single then '\'' else '"'

/-- Reads a stretch without white space, two characters of which are at hand; also says whether it
ended in an escaped line break. -/
def readQuotedWord (single : Bool) (start : Mark) :
    Nat → Cursor → List Char → Except Fault (List Char × Cursor × Bool)
  | 0, c, out => .ok (out, c, false)
  | fuel + 1, c, out =>
    match c.rest with
    | [] => .ok (out, c, false)
    | x :: rest =>
      if isBlank x || isBreak x then .ok (out, c, false)
      else if x == quoteChar single then
        if single && rest.head? == some '\'' then do
          readQuotedWord single start fuel (← (c.skip 2).need 2) ('\'' :: out)
        else .ok (out, c, false)
      else if !single && x == '\\' then
        if rest.head?.any isBreak then do
          let (_, c) := (← c.need 3).skip.readBreak
          return (out, c, true)
        else do
          let (y, c) ← readEscape start c
          readQuotedWord single start fuel (← c.need 2) (y :: out)
      else do readQuotedWord single start fuel (← c.skip.need 2) (x :: out)

def readQuoted (single : Bool) (start : Mark) :
    Nat → Cursor → List Char → Except Fault (List Char × Cursor)
  | 0, c, _ => scanFault c start .unexpectedEnd
  | fuel + 1, c, out => do
    let c ← c.need 4
    if c.atDocumentMark then scanFault c start .documentMark
    else if c.rest.isEmpty then scanFault c start .unexpectedEnd
    else
      let (out, c, escaped) ← readQuotedWord single start (c.rest.length + 1) c out
      let c ← c.need 1
      if c.isAt (quoteChar single) then return (out, c.skip)
      else
        let (gap, c) ← readGap start none (c.rest.length + 1) c { broken := escaped }
        readQuoted single start fuel c (gap.text ++ out)

/-! ### Plain scalars -/

def endsPlain (inFlow : Bool) : List Char → Bool
  | [] => true
  | x :: rest =>
    isBlank x || isBreak x || (x == ':' && endsWord rest) ||
    (inFlow && (x == ',' || x == '?' || x == '[' || x == ']' || x == '\x7b' || x == '\x7d'))

def readPlainWord (inFlow : Bool) : Nat → Cursor → List Char → Except Fault (List Char × Cursor)
  | 0, c, out => .ok (out, c)
  | fuel + 1, c, out =>
    match c.rest with
    | [] => .ok (out, c)
    | x :: _ =>
      if endsPlain inFlow c.rest then .ok (out, c)
      else do readPlainWord inFlow fuel (← c.skip.need 2) (x :: out)

/-- Reads a plain scalar. The white space before the next word is kept apart until that word comes;
also says whether a line ended behind the scalar. -/
def readPlain (inFlow : Bool) (indent : Int) (start : Mark) :
    Nat → Cursor → Gap → List Char → Except Fault (List Char × Cursor × Bool)
  | 0, c, gap, out => .ok (out, c, gap.broken)
  | fuel + 1, c, gap, out => do
    let c ← c.need 4
    if c.atDocumentMark || c.isAt '#' then return (out, c, gap.broken)
    else
      let (word, c) ← readPlainWord inFlow (c.rest.length + 1) c []
      let (out, gap) := if word.isEmpty then (out, gap) else (word ++ gap.text ++ out, {})
      if !(c.peek?.any fun x => isBlank x || isBreak x) then return (out, c, gap.broken)
      else
        let (gap, c) ← readGap start (some indent) (c.rest.length + 1) c gap
        if !inFlow && c.mark.column < indent then return (out, c, gap.broken)
        else readPlain inFlow indent start fuel c gap out

/-! ### Block scalars -/

inductive Chomp where
  | strip | clip | keep
  deriving DecidableEq, Repr

def readBreaks (start : Mark) (indent : Nat) :
    Nat → Cursor → List Char → Nat → Except Fault (List Char × Nat × Cursor)
  | 0, c, breaks, widest => .ok (breaks, widest, c)
  | fuel + 1, c, breaks, widest => do
    let c ← c.need 1
    let within := indent == 0 || c.mark.column < indent
    match c.peek? with
    | none => return (breaks, max widest c.mark.column, c)
    | some x =>
      if within && x == ' ' then readBreaks start indent fuel c.skip breaks widest
      else if within && x == '\t' then scanFault c start .tabIndent
      else if isBreak x then
        let (line, c') ← c.readLine
        readBreaks start indent fuel c' (line.reverse ++ breaks) (max widest c.mark.column)
      else return (breaks, max widest c.mark.column, c)

def blockIndent (given widest : Nat) (outer : Int) : Nat :=
  if given == 0 then max (max widest (outer + 1).toNat) 1 else given

/-- Reads the lines of a block. `first` is the break behind the line before, `more` are the breaks
after that, and `blank` says whether that line began with a blank. -/
def readBlockLines (literal : Bool) (start : Mark) (indent : Nat) :
    Nat → Cursor → (first more : List Char) → (blank : Bool) → List Char →
      Except Fault (List Char × List Char × List Char × Cursor)
  | 0, c, first, more, _, out => .ok (out, first, more, c)
  | fuel + 1, c, first, more, blank, out =>
    if c.mark.column == indent && !c.rest.isEmpty then do
      let nowBlank := c.peek?.any isBlank
      let joint :=
        if !literal && !blank && !nowBlank && first == ['\n'] then
          if more.isEmpty then [' '] else []
        else first
      let (line, c) ← c.readWhile fun x => !isBreak x
      let out := line.reverse ++ more ++ joint ++ out
      let (first, c) ← c.readLine
      let (more, _, c) ← readBreaks start indent (c.rest.length + 1) c [] 0
      readBlockLines literal start indent fuel c first more nowBlank out
    else .ok (out, first, more, c)

def readIndicators (start : Mark) (c : Cursor) : Except Fault (Chomp × Nat × Cursor) :=
  let chomp (c : Cursor) : Chomp × Cursor :=
    if c.isAt '+' then (.keep, c.skip) else if c.isAt '-' then (.strip, c.skip) else (.clip, c)
  let digit (c : Cursor) : Except Fault (Nat × Cursor) :=
    match c.peek? with
    | some d =>
      if d == '0' then scanFault c start .zeroIndent
      else if d.isDigit then .ok (d.toNat - 48, c.skip)
      else .ok (0, c)
    | none => .ok (0, c)
  do
    let c ← c.need 1
    if c.isAt '+' || c.isAt '-' then
      let (how, c) := chomp c
      let (n, c) ← digit (← c.need 1)
      return (how, n, c)
    else
      let (n, c) ← digit c
      if n == 0 then return (.clip, n, c)
      else
        let (how, c) := chomp (← c.need 1)
        return (how, n, c)

def readBlock (literal : Bool) (outer : Int) (start : Mark) (c : Cursor) :
    Except Fault (List Char × Cursor) := do
  let (how, increment, c) ← readIndicators start c
  let c ← c.skipWhile isBlank
  let c ← if c.isAt '#' then c.skipWhile fun x => !isBreak x else pure c
  if !endsLine c.rest then scanFault c start .noCommentOrBreak
  else
    let c ← c.skipLine
    let given := if increment == 0 then 0 else (max outer 0).toNat + increment
    let (more, widest, c) ← readBreaks start given (c.rest.length + 1) c [] 0
    let indent := blockIndent given widest outer
    let (out, first, more, c) ← readBlockLines literal start indent (c.rest.length + 1) c [] more false []
    return match how with
      | .strip => (out, c)
      | .clip => (first ++ out, c)
      | .keep => (more ++ first ++ out, c)

end MoquiLint.Yaml
