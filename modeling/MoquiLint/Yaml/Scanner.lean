import MoquiLint.Yaml.Token

/-! Splitting a document into tokens as they are needed. Indentation opens and closes blocks. Whether
a token is the key of a mapping shows only at the colon behind it, so tokens wait in a queue until
that is decided, and the queue always looks two tokens ahead. -/
namespace MoquiLint.Yaml

structure KeyPlace where
  possible : Bool := false
  /-- Whether nothing but a key can stand there. -/
  required : Bool := false
  number : Nat := 0
  mark : Mark := {}
  deriving DecidableEq, Repr

structure Scanner where
  cursor : Cursor
  queue : List Token := []
  /-- How many tokens have left the queue. -/
  taken : Nat := 0
  started : Bool := false
  depth : Nat := 0
  indent : Int := -1
  indents : List Int := []
  keyAllowed : Bool := false
  /-- The key places, one for each open bracket or brace and one for the block. -/
  keys : List KeyPlace := []
  deriving Repr

namespace Scanner

def throwAt {α : Type} (s : Scanner) (context : Mark) (p : Problem) : Except Fault α :=
  scanFault s.cursor context p

def push (s : Scanner) (kind : TokenKind) (start stop : Mark) : Scanner :=
  { s with queue := s.queue ++ [⟨kind, start, stop⟩] }

def insertBefore (s : Scanner) (number : Nat) (kind : TokenKind) (mark : Mark) : Scanner :=
  let i := number - s.taken
  { s with queue := s.queue.take i ++ ⟨kind, mark, mark⟩ :: s.queue.drop i }

def key (s : Scanner) : KeyPlace := s.keys.headD {}

def setKey (s : Scanner) (k : KeyPlace) : Scanner := { s with keys := k :: s.keys.drop 1 }

/-- Gives up the innermost key place, which must not be required. -/
def removeKey (s : Scanner) : Except Fault Scanner :=
  if s.key.possible then
    if s.key.required then s.throwAt s.key.mark .missingColon
    else .ok (s.setKey { s.key with possible := false })
  else .ok s

def saveKey (s : Scanner) : Except Fault Scanner :=
  if s.keyAllowed then do
    let k : KeyPlace :=
      { possible := true
        required := s.depth == 0 && s.indent == s.cursor.mark.column
        number := s.taken + s.queue.length
        mark := s.cursor.mark }
    let s ← s.removeKey
    return s.setKey k
  else .ok s

def keyLength : Nat := 1024

/-- Whether a key place can still become a key: the colon must be near and on the same line. -/
def isLive (s : Scanner) (k : KeyPlace) : Except Fault Bool :=
  if !k.possible then .ok false
  else if k.mark.line < s.cursor.mark.line || k.mark.index + keyLength < s.cursor.mark.index then
    if k.required then s.throwAt k.mark .missingColon else .ok false
  else .ok true

def maxDepth : Nat := 10000

/-- Opens a block if the column is further in; its token comes before the one numbered `number`, or
at the end. -/
def openBlock (s : Scanner) (column : Nat) (number : Option Nat) (kind : TokenKind) (mark : Mark) :
    Except Fault Scanner :=
  if s.depth > 0 || s.indent ≥ column then .ok s
  else
    let s := { s with indents := s.indent :: s.indents, indent := column }
    if s.indents.length > maxDepth then s.throwAt s.key.mark (.tooDeep maxDepth)
    else match number with
      | some n => .ok (s.insertBefore n kind mark)
      | none => .ok (s.push kind mark mark)

def closeBlocks (column : Int) (mark : Mark) : Nat → Scanner → Scanner
  | 0, s => s
  | fuel + 1, s =>
    if s.depth > 0 || s.indent ≤ column then s
    else
      closeBlocks column mark fuel
        { s.push .blockEnd mark mark with indent := s.indents.headD (-1), indents := s.indents.drop 1 }

def unroll (s : Scanner) (column : Int) (mark : Mark) : Scanner :=
  closeBlocks column mark (s.indents.length + 1) s

def move (s : Scanner) (c : Cursor) : Scanner := { s with cursor := c }

def commentReach : Nat := 512

/-- How many blanks, and line breaks if they may be passed, stand before a comment, if one comes. The
first `k` characters are not looked at. -/
def commentAhead (breaks : Bool) : Nat → Nat → Cursor → Option Nat × Cursor
  | 0, _, c => (none, c)
  | fuel + 1, k, c =>
    match c.look (k + 1) with
    | (false, c) => (none, c)
    | (true, c) =>
      match c.rest[k]? with
      | none => (none, c)
      | some x =>
        if isBlank x || (breaks && isBreak x) then commentAhead breaks fuel (k + 1) c
        else (if x == '#' then some k else none, c)

def skipSpace : Nat → (n : Nat) → Cursor → Cursor
  | 0, _, c => c
  | fuel + 1, n, c =>
    if c.mark.index < n then
      skipSpace fuel n (if c.peek?.any isBreak then c.readBreak.2 else c.skip)
    else c

def skipComments : Nat → Cursor → Except Fault Cursor
  | 0, c => .ok c
  | fuel + 1, c => do
    let c ← c.skipWhile fun x => !isBreak x
    match commentAhead true (commentReach - 1) 1 c with
    | (some k, c) => skipComments fuel (skipSpace (k + 1) (c.mark.index + k) c)
    | (none, c) => return c

/-- Passes over white space and comments. Tabs count as white space where no key may stand. Behind a
byte order mark at the head of what is at hand, the first character of a line is passed over. -/
def toNextToken : Nat → Scanner → Except Fault Scanner
  | 0, s => .ok s
  | fuel + 1, s => do
    let c ← s.cursor.need 1
    let c := if c.mark.column == 0 && c.marked then c.skip else c
    let c ← c.skipWhile fun x => x == ' ' || (x == '\t' && (s.depth > 0 || !s.keyAllowed))
    let c ← if c.isAt '#' then skipComments (c.rest.length + 1) c else pure c
    if c.peek?.any isBreak then
      toNextToken fuel { s with cursor := ← c.skipLine, keyAllowed := s.keyAllowed || s.depth == 0 }
    else return s.move c

def skipLineComment (s : Scanner) : Except Fault Scanner := do
  match commentAhead false commentReach 0 s.cursor with
  | (some k, c) => return s.move (← (c.skip k).skipWhile fun x => !isBreak x)
  | (none, c) => return s.move c

def take (s : Scanner) (kind : TokenKind) (n : Nat := 1) : Scanner :=
  let c := s.cursor.skip n
  (s.push kind s.cursor.mark c.mark).move c

def fetchEnd (s : Scanner) : Except Fault Scanner := do
  let m := s.cursor.mark
  let m := if m.column ≠ 0 then { m with line := m.line + 1, column := 0 } else m
  let s ← ((s.move { s.cursor with mark := m }).unroll (-1) m).removeKey
  return { s with keyAllowed := false }.push .streamEnd m m

def closeAll (s : Scanner) : Except Fault Scanner := do
  let s ← (s.unroll (-1) s.cursor.mark).removeKey
  return { s with keyAllowed := false }

def fetchDirective (s : Scanner) : Except Fault Scanner := do
  let s ← s.closeAll
  let (kind, stop, c) ← readDirective s.cursor
  return (s.push kind s.cursor.mark stop).move c

def fetchFlowStart (s : Scanner) (kind : TokenKind) : Except Fault Scanner := do
  let s ← s.saveKey
  let s := { s with keys := { number := s.taken + s.queue.length, mark := s.cursor.mark } :: s.keys,
                    depth := s.depth + 1 }
  if s.depth > maxDepth then s.throwAt s.key.mark (.tooDeep maxDepth)
  else return { s with keyAllowed := true }.take kind

def fetchFlowEnd (s : Scanner) (kind : TokenKind) : Except Fault Scanner := do
  let s ← s.removeKey
  let s := if s.depth > 0 then { s with depth := s.depth - 1, keys := s.keys.drop 1 } else s
  return { s with keyAllowed := false }.take kind

def fetchFlowEntry (s : Scanner) : Except Fault Scanner := do
  let s ← s.removeKey
  return { s with keyAllowed := true }.take .flowEntry

def fetchBlockEntry (s : Scanner) : Except Fault Scanner := do
  let m := s.cursor.mark
  let s ←
    if s.depth > 0 then pure s
    else if !s.keyAllowed then s.throwAt m .noEntriesHere
    else s.openBlock m.column none .blockSequence m
  let s ← s.removeKey
  return { s with keyAllowed := true }.take .blockEntry

def fetchKey (s : Scanner) : Except Fault Scanner := do
  let m := s.cursor.mark
  let s ←
    if s.depth > 0 then pure s
    else if !s.keyAllowed then s.throwAt m .noKeysHere
    else s.openBlock m.column none .blockMapping m
  let s ← s.removeKey
  return { s with keyAllowed := s.depth == 0 }.take .key

/-- A colon before a value: it makes a key of the place that was kept for one. -/
def fetchValue (s : Scanner) : Except Fault Scanner := do
  let k := s.key
  let m := s.cursor.mark
  if ← s.isLive k then
    let s := s.insertBefore k.number .key k.mark
    let s ← s.openBlock k.mark.column (some k.number) .blockMapping k.mark
    let s := s.setKey { k with possible := false }
    return { s with keyAllowed := false }.take .value
  else
    let s := s.setKey { k with possible := false }
    let s ←
      if s.depth > 0 then pure s
      else if !s.keyAllowed then s.throwAt m .noValuesHere
      else s.openBlock m.column none .blockMapping m
    return { s with keyAllowed := s.depth == 0 }.take .value

def fetchKeyLike (s : Scanner) (read : Cursor → Except Fault (TokenKind × Cursor)) :
    Except Fault Scanner := do
  let s ← s.saveKey
  let (kind, c) ← read s.cursor
  return ({ s with keyAllowed := false }.push kind s.cursor.mark c.mark).move c

def fetchBlock (s : Scanner) (literal : Bool) : Except Fault Scanner := do
  let s ← s.removeKey
  let (text, c) ← readBlock literal s.indent s.cursor.mark s.cursor.skip
  return ({ s with keyAllowed := true }.push
    (.scalar (String.ofList text.reverse) .quoted) s.cursor.mark c.mark).move c

/-- A plain scalar; if a line ended behind it, a key may follow. -/
def fetchPlain (s : Scanner) : Except Fault Scanner := do
  let s ← s.saveKey
  let c := s.cursor
  let (text, c', broken) ← readPlain (s.depth > 0) (s.indent + 1) c.mark (c.rest.length + 1) c {} []
  return ({ s with keyAllowed := broken }.push
    (.scalar (String.ofList text.reverse) .plain) c.mark c'.mark).move c'

def startsPlain (inFlow : Bool) : List Char → Bool
  | [] => false
  | x :: rest =>
    !(isBlank x || isBreak x || "-?:,[]\x7b\x7d#&*!|>'\"%@`".toList.contains x) ||
    (x == '-' && !(rest.head?.any isBlank)) ||
    (!inFlow && (x == '?' || x == ':') && !endsWord rest)

def readQuotedToken (single : Bool) (c : Cursor) : Except Fault (TokenKind × Cursor) := do
  let (text, c') ← readQuoted single c.mark (c.rest.length + 1) c.skip []
  return (.scalar (String.ofList text.reverse) .quoted, c')

def fetchHere (s : Scanner) : Except Fault Scanner :=
  let c := s.cursor
  match c.rest with
  | [] => s.fetchEnd
  | x :: rest =>
    let lone := endsWord rest
    if c.mark.column == 0 && x == '%' then s.fetchDirective
    else if c.atMarker '-' then do return (← s.closeAll).take .documentStart 3
    else if c.atMarker '.' then do return (← s.closeAll).take .documentEnd 3
    else if x == '[' then s.fetchFlowStart .flowSequence
    else if x == '\x7b' then s.fetchFlowStart .flowMapping
    else if x == ']' then s.fetchFlowEnd .flowSequenceEnd
    else if x == '\x7d' then s.fetchFlowEnd .flowMappingEnd
    else if x == ',' then s.fetchFlowEntry
    else if x == '-' && lone then s.fetchBlockEntry
    else if x == '?' && (s.depth > 0 || lone) then s.fetchKey
    else if x == ':' && (s.depth > 0 || lone) then s.fetchValue
    else if x == '*' then s.fetchKeyLike fun c => do
      let (name, c) ← readAnchor c
      return (.alias name, c)
    else if x == '&' then s.fetchKeyLike fun c => do
      let (name, c) ← readAnchor c
      return (.anchor name, c)
    else if x == '!' then s.fetchKeyLike fun c => do
      let (handle, suffix, c) ← readTag c
      return (.tag handle suffix, c)
    else if x == '|' && s.depth == 0 then s.fetchBlock true
    else if x == '>' && s.depth == 0 then s.fetchBlock false
    else if x == '\'' then s.fetchKeyLike (readQuotedToken true)
    else if x == '"' then s.fetchKeyLike (readQuotedToken false)
    else if startsPlain (s.depth > 0) c.rest then s.fetchPlain
    else s.throwAt c.mark .noToken

/-- Whether the last token leaves its line, so that no comment can follow it there: of the scalars,
those behind which a key may stand. A comment behind the dash of an entry belongs to what follows. -/
def leavesLine (s : Scanner) : Bool :=
  match s.queue.getLast? with
  | some t =>
    match t.kind with
    | .streamStart => true
    | .streamEnd => true
    | .documentStart => true
    | .documentEnd => true
    | .version _ _ => true
    | .tagDirective _ _ => true
    | .blockEntry => true
    | .scalar _ _ => s.keyAllowed
    | _ => false
  | none => true

def fetch (s : Scanner) : Except Fault Scanner := do
  let s := s.move (← s.cursor.need 1)
  if !s.started then
    return { s with started := true, keys := [{}], keyAllowed := true }.push .streamStart
      s.cursor.mark s.cursor.mark
  else
    let before := s.cursor.mark
    let s ← toNextToken (s.cursor.rest.length + 1) s
    let s := s.unroll s.cursor.mark.column before
    let s ← (s.move (← s.cursor.need 4)).fetchHere
    if s.leavesLine then return s else s.skipLineComment

def ready : Nat → Scanner → Except Fault Scanner
  | 0, s => .ok s
  | fuel + 1, s => do
    if s.queue.length ≤ 2 then ready fuel (← s.fetch)
    else
      match s.keys.find? fun k => k.possible && k.number == s.taken with
      | none => return s
      | some k => if ← s.isLive k then ready fuel (← s.fetch) else return s

def ofBytes (data : Bytes) : Scanner :=
  { cursor := .ofSource (.ofBytes data) }

def peek (s : Scanner) : Except Fault (Token × Scanner) := do
  let s ← s.ready (2 * s.cursor.rest.length + 8)
  match s.queue with
  | t :: _ => return (t, s)
  | [] => return (⟨.streamEnd, s.cursor.mark, s.cursor.mark⟩, s)

def drop (s : Scanner) : Scanner := { s with queue := s.queue.drop 1, taken := s.taken + 1 }

end Scanner

end MoquiLint.Yaml
