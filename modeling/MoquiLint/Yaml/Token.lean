import MoquiLint.Yaml.Scalar
import MoquiLint.Text.Quoted

/-! Tokens, and reading those that are more than one character: anchors, tags and directives. -/
namespace MoquiLint.Yaml

inductive ScalarStyle where
  | plain | quoted
  deriving DecidableEq, Repr

inductive TokenKind where
  | streamStart | streamEnd
  | version (major minor : Nat)
  | tagDirective (handle uri : String)
  | documentStart | documentEnd
  | blockSequence | blockMapping | blockEnd
  | flowSequence | flowSequenceEnd | flowMapping | flowMappingEnd
  | blockEntry | flowEntry | key | value
  | alias (name : String)
  | anchor (name : String)
  | tag (handle suffix : String)
  | scalar (text : String) (style : ScalarStyle)
  deriving DecidableEq, Repr

structure Token where
  kind : TokenKind
  start : Mark
  stop : Mark
  deriving DecidableEq, Repr

def readAnchor (c : Cursor) : Except Fault (String × Cursor) := do
  let start := c.mark
  let (name, c) ← c.skip.readWhile isWordChar
  if name.isEmpty || !(endsWord c.rest || c.peek?.any ("?:,]\x7d%@`".toList.contains ·)) then
    scanFault c start .noAnchorName
  else return (String.ofList name, c)

def isUriChar (c : Char) : Bool := isWordChar c || ";/?:@&=+$,.!~*'()[]%".toList.contains c

def uriOctet? : List Char → Option Nat
  | '%' :: a :: b :: _ => do return (← hexValue? a) * 16 + (← hexValue? b)
  | _ => none

def octetCount (b : Nat) : Nat :=
  if b < 0x80 then 1 else if b / 0x20 == 6 then 2 else if b / 0x10 == 14 then 3
  else if b / 0x08 == 30 then 4 else 0

/-- Reads the escaped octets of one code point; `left` more are to come, or the first if `none`. -/
def readOctets (start : Mark) : Nat → Option Nat → Cursor → Bytes → Except Fault (Bytes × Cursor)
  | 0, _, c, out => .ok (out, c)
  | _, some 0, c, out => .ok (out, c)
  | fuel + 1, left, c, out => do
    let c ← c.need 3
    match uriOctet? c.rest with
    | none => scanFault c start .noUriOctet
    | some b =>
      match left with
      | none =>
        if octetCount b == 0 then scanFault c start .badUriLead
        else readOctets start fuel (some (octetCount b - 1)) (c.skip 3) (UInt8.ofNat b :: out)
      | some n =>
        if b / 0x40 != 2 then scanFault c start .badUriTrail
        else readOctets start fuel (some (n - 1)) (c.skip 3) (UInt8.ofNat b :: out)

def readUriChars (start : Mark) : Nat → Cursor → List Char → Except Fault (List Char × Cursor)
  | 0, c, out => .ok (out, c)
  | fuel + 1, c, out => do
    let c ← c.need 1
    match c.peek? with
    | none => return (out, c)
    | some x =>
      if x == '%' then
        let (octets, c) ← readOctets start 4 none c []
        readUriChars start fuel c ((Text.codes (Text.decode octets.reverse)).reverse ++ out)
      else if isUriChar x then readUriChars start fuel c.skip (x :: out)
      else return (out, c)

/-- Reads a tag's characters behind what was read already; `given` says whether that counts. -/
def readUri (start : Mark) (head : List Char) (given : Bool) (c : Cursor) :
    Except Fault (List Char × Cursor) := do
  let (out, c') ← readUriChars start (c.rest.length + 1) c head.reverse
  if !given && c'.mark.index == c.mark.index then scanFault c' start .noTagUri
  else return (out.reverse, c')

/-- Reads a tag handle: an exclamation mark, word characters, and another mark if there is one. -/
def readHandle (start : Mark) (directive : Bool) (c : Cursor) : Except Fault (List Char × Cursor) := do
  let c ← c.need 1
  if !c.isAt '!' then scanFault c start .noTagMark
  else
    let (word, c) ← c.skip.readWhile isWordChar
    if c.isAt '!' then return ('!' :: word ++ ['!'], c.skip)
    else if directive && !word.isEmpty then scanFault c start .noTagMark
    else return ('!' :: word, c)

def readTag (c : Cursor) : Except Fault (String × String × Cursor) := do
  let start := c.mark
  let c ← c.need 2
  let (handle, suffix, c) ←
    if c.rest[1]? == some '<' then do
      let (suffix, c) ← readUri start [] false (c.skip 2)
      if c.isAt '>' then pure ([], suffix, c.skip) else scanFault c start .noTagEnd
    else do
      let (handle, c) ← readHandle start false c
      if handle.length > 1 && handle.getLast? == some '!' then
        let (suffix, c) ← readUri start [] false c
        pure (handle, suffix, c)
      else
        let (suffix, c) ← readUri start (handle.drop 1) true c
        pure (if suffix.isEmpty then ([], ['!'], c) else (['!'], suffix, c))
  let c ← c.need 1
  if !endsWord c.rest then scanFault c start .noTagSpace
  else return (String.ofList handle, String.ofList suffix, c)

def readVersionDigits (start : Mark) : Nat → Cursor → (digits value : Nat) → Except Fault (Nat × Cursor)
  | 0, c, _, value => .ok (value, c)
  | fuel + 1, c, digits, value => do
    let c ← c.need 1
    match c.peek? with
    | some d =>
      if !d.isDigit then
        if digits == 0 then scanFault c start .noVersion else return (value, c)
      else if digits == 2 then scanFault c start .longVersion
      else readVersionDigits start fuel c.skip (digits + 1) (value * 10 + (d.toNat - 48))
    | none => if digits == 0 then scanFault c start .noVersion else return (value, c)

def readVersionNumber (start : Mark) (c : Cursor) : Except Fault (Nat × Cursor) :=
  readVersionDigits start 4 c 0 0

def readVersion (start : Mark) (c : Cursor) : Except Fault (TokenKind × Cursor) := do
  let (major, c) ← readVersionNumber start (← c.skipWhile isBlank)
  if !c.isAt '.' then scanFault c start .noVersionDot
  else
    let (minor, c) ← readVersionNumber start c.skip
    return (.version major minor, c)

def readTagDirective (start : Mark) (c : Cursor) : Except Fault (TokenKind × Cursor) := do
  let (handle, c) ← readHandle start true (← c.skipWhile isBlank)
  let c ← c.need 1
  if !(c.peek?.any isBlank) then scanFault c start .noSpace
  else
    let (uri, c) ← readUri start [] false (← c.skipWhile isBlank)
    let c ← c.need 1
    if !endsWord c.rest then scanFault c start .noSpaceOrBreak
    else return (.tagDirective (String.ofList handle) (String.ofList uri), c)

def readDirective (c : Cursor) : Except Fault (TokenKind × Mark × Cursor) := do
  let start := c.mark
  let (name, c) ← c.skip.readWhile isWordChar
  if name.isEmpty then scanFault c start .noDirectiveName
  else if !endsWord c.rest then scanFault c start .badDirectiveName
  else
    let (kind, c) ←
      if name == "YAML".toList then readVersion start c
      else if name == "TAG".toList then readTagDirective start c
      else scanFault c start .unknownDirective
    let stop := c.mark
    let c ← c.skipWhile isBlank
    let c ← if c.isAt '#' then c.skipWhile fun x => !isBreak x else pure c
    if !endsLine c.rest then scanFault c start .noCommentOrBreak
    else return (kind, stop, ← c.skipLine)

end MoquiLint.Yaml
