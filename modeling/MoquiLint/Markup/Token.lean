import MoquiLint.Markup.Charset
import MoquiLint.Markup.Fault
import MoquiLint.Markup.NameTable
import MoquiLint.Markup.Node
import MoquiLint.Word

/-! Splitting a document into tokens. Every token is placed on the line its last byte is on. Splitting
ends at the end of the document or at its first fault. -/
namespace MoquiLint.Markup

inductive Token where
  | start (name : String) (attrs : List Attr)
  | close (name : String)
  | chars (text : String)
  | comment
  | instruction (target : String)
  | directive
  deriving DecidableEq, Repr

structure Cursor where
  rest : Text
  line : Nat
  deriving DecidableEq, Repr

abbrev Placed := Nat × Fault

def lineBreaks (t : Text) : Nat := t.count (.char '\n')

def lineAfter (line : Nat) (s : Symbol) : Nat := if s = .char '\n' then line + 1 else line

def isMarkupSpace (s : Symbol) : Bool := s.is ' ' || s.is '\r' || s.is '\n' || s.is '\t'

namespace Cursor

def skipSpace (c : Cursor) : Cursor :=
  ⟨c.rest.dropWhile isMarkupSpace, c.line + lineBreaks (c.rest.takeWhile isMarkupSpace)⟩

theorem length_skipSpace_le (c : Cursor) : c.skipSpace.rest.length ≤ c.rest.length :=
  (List.dropWhile_sublist _).length_le

end Cursor

/-! ### Names -/

def isNameStart (c : Char) : Bool := Text.inRanges NameTable.start c.toNat

def isNameChar (c : Char) : Bool := isNameStart c || Text.inRanges NameTable.continuing c.toNat

/-- Symbols a name is read over: the ASCII ones among its characters, and all beyond ASCII. -/
def isNamePart : Symbol → Bool
  | .char c => c.isAlphanum || c == '_' || c == ':' || c == '.' || c == '-' || c.toNat ≥ 128
  | .stray _ => true

def isName : Text → Bool
  | [] => false
  | s :: rest =>
    !s.isStray && isNameStart s.code && rest.all fun s => !s.isStray && isNameChar s.code

/-- A name at the front, none if there is not even the start of one. -/
def readName (c : Cursor) : Except Placed (Option (String × Cursor)) :=
  match c.rest with
  | [] => .error (c.line, .unexpectedEnd)
  | s :: _ =>
    if isNamePart s then
      match c.rest.takeWhile isNamePart, c.rest.dropWhile isNamePart with
      | _, [] => .error (c.line, .unexpectedEnd)
      | name, t :: rest =>
        if isName name then .ok (some (Text.toString name, ⟨t :: rest, c.line⟩))
        else .error (c.line, .badName name)
    else .ok none

def readQName (c : Cursor) (missing : Fault) : Except Placed (String × Cursor) :=
  match readName c with
  | .error e => .error e
  | .ok none => .error (c.line, missing)
  | .ok (some (name, rest)) =>
    if name.toList.count ':' > 1 then .error (c.line, missing) else .ok (name, rest)

theorem length_readQName_lt {c : Cursor} {f : Fault} {name : String} {c' : Cursor}
    (h : readQName c f = .ok (name, c')) : c'.rest.length < c.rest.length := by
  unfold readQName at h
  split at h
  · cases h
  · cases h
  · rename_i n r hr
    split at h
    · cases h
    · cases h
      unfold readName at hr
      split at hr
      · cases hr
      · rename_i s rest hs
        split at hr
        · rename_i hp
          split at hr
          · cases hr
          · rename_i t rest' hd
            split at hr
            · cases hr
              rw [← hd, hs, List.dropWhile_cons_of_pos hp]
              exact Nat.lt_succ_of_le (List.dropWhile_sublist _).length_le
            · cases hr
        · cases hr

def localPart (name : String) : String :=
  match Seq.splitOn (· == ':') name.toList with
  | [space, own] => if space.isEmpty || own.isEmpty then name else String.ofList own
  | _ => name

/-! ### Character data -/

def numberOf? (base : Nat) (digits : List Char) : Option Nat :=
  if digits.isEmpty then none
  else
    let n := digits.foldl (fun n d => n * base + (if d.isDigit then d.toNat - 48 else d.toLower.toNat - 87)) 0
    if n < Word.size then some n else none

/-- The character of a number; a surrogate reads as the replacement character. -/
def charOf? (n : Nat) : Option Char :=
  if n > 0x10FFFF then none
  else if 0xD800 ≤ n && n < 0xE000 then some Symbol.replacement
  else some (Char.ofNat n)

def predefined? (name : String) : Option Char :=
  if name == "lt" then some '<'
  else if name == "gt" then some '>'
  else if name == "amp" then some '&'
  else if name == "apos" then some '\''
  else if name == "quot" then some '"'
  else none

def isDigitIn (base : Nat) : Symbol → Bool
  | .char c => c.isDigit || (base == 16 && (('a' ≤ c && c ≤ 'f') || ('A' ≤ c && c ≤ 'F')))
  | .stray _ => false

/-- A reference whose body `written` has been read: it ends in a semicolon and stands for `c?`. -/
def closeReference (written : Text) (c? : Option Char) : Text → Except Fault (Char × Text)
  | [] => .error .unexpectedEnd
  | s :: rest =>
    if s = .char ';' then
      match c? with
      | some c => .ok (c, rest)
      | none => .error (.badReference (written ++ [s]))
    else .error (.badReference written)

def readNumeric (intro : Text) (base : Nat) (s : Text) : Except Fault (Char × Text) :=
  let digits := s.takeWhile (isDigitIn base)
  closeReference (intro ++ digits) ((numberOf? base (Text.codes digits)).bind charOf?)
    (s.dropWhile (isDigitIn base))

def readReference (s : Text) : Except Fault (Char × Text) :=
  match s with
  | .char '#' :: .char 'x' :: rest => readNumeric (Text.ofString "&#x") 16 rest
  | .char '#' :: rest => readNumeric (Text.ofString "&#") 10 rest
  | _ =>
    let name := s.takeWhile isNamePart
    closeReference (.char '&' :: name)
      (if isName name then predefined? (Text.toString name) else none) (s.dropWhile isNamePart)

theorem length_closeReference_lt {w : Text} {c? : Option Char} {s : Text} {c : Char} {r : Text}
    (h : closeReference w c? s = .ok (c, r)) : r.length < s.length := by
  unfold closeReference at h
  split at h
  · cases h
  · split at h
    · split at h
      · cases h; simp
      · cases h
    · cases h

theorem length_readReference_lt {s : Text} {c : Char} {r : Text}
    (h : readReference s = .ok (c, r)) : r.length < s.length := by
  have hd : ∀ (p : Symbol → Bool) (t : Text), (t.dropWhile p).length ≤ t.length :=
    fun p t => (List.dropWhile_sublist p).length_le
  unfold readReference at h
  split at h
  · have := length_closeReference_lt h
    have := hd (isDigitIn 16) (by assumption)
    simp only [List.length_cons]
    omega
  · have := length_closeReference_lt h
    have := hd (isDigitIn 10) (by assumption)
    simp only [List.length_cons]
    omega
  · have := length_closeReference_lt h
    have := hd isNamePart s
    omega

inductive Place where
  | content
  | quoted (quote : Char)
  | cdata
  deriving DecidableEq, Repr

def Place.closedBy : Place → Symbol → Bool
  | .quoted q, s => s.is q
  | _, _ => false

def isLegalChar (c : Char) : Bool :=
  c == '\t' || c == '\n' || c == '\r' || (c.toNat ≥ 0x20 && c.toNat != 0xFFFE && c.toNat != 0xFFFF)

def charFault? : Text → Option Fault
  | [] => none
  | .stray _ :: _ => some .notUtf8
  | .char c :: rest => if isLegalChar c then charFault? rest else some (.illegalChar c)

def finishText (line : Nat) (t : Text) (rest : Text) : Except Placed (String × Cursor) :=
  match charFault? t with
  | some f => .error (line, f)
  | none => .ok (Text.toString t, ⟨rest, line⟩)

/-- Reads character data. `p0` and `p1` are the two symbols before the current one, none at the start
and behind a reference; `read` holds what was read so far, last symbol first. A carriage return, with
or without a line feed, counts as a line feed. -/
def readText (place : Place) (line : Nat) (p0 p1 : Option Symbol) (read : Text) (s : Text) :
    Except Placed (String × Cursor) :=
  match s with
  | [] =>
    if place = .cdata then .error (line, .openSection)
    else finishText line read.reverse []
  | b :: rest =>
    if p0 = some (.char ']') ∧ p1 = some (.char ']') ∧ b = .char '>' ∧ place = .cdata then
      finishText line (read.drop 2).reverse rest
    else if p0 = some (.char ']') ∧ p1 = some (.char ']') ∧ b = .char '>' ∧ place = .content then
      .error (line, .bareSectionEnd)
    else if b = .char '<' ∧ place = .content then
      finishText line read.reverse (b :: rest)
    else if b = .char '<' ∧ place ≠ .cdata then
      .error (line, .openBracketInValue)
    else if place.closedBy b then
      finishText line read.reverse rest
    else if b = .char '&' ∧ place ≠ .cdata then
      match h : readReference rest with
      | .error f => .error (line, f)
      | .ok (c, rest') =>
        have := length_readReference_lt h
        readText place line none none (.char c :: read) rest'
    else if b = .char '\r' then
      readText place line p1 (some b) (.char '\n' :: read) rest
    else if b = .char '\n' ∧ p1 = some (.char '\r') then
      readText place (line + 1) p1 (some b) read rest
    else
      readText place (lineAfter line b) p1 (some b) (b :: read) rest
termination_by s.length
decreasing_by all_goals (simp only [List.length_cons]; omega)

theorem finishText_rest {line : Nat} {t rest : Text} {v : String} {c : Cursor}
    (h : finishText line t rest = .ok (v, c)) : c.rest = rest := by
  unfold finishText at h
  split at h
  · cases h
  · cases h; rfl

theorem length_readText_le {place : Place} {line : Nat} {p0 p1 : Option Symbol} {read s : Text}
    {v : String} {c : Cursor} (h : readText place line p0 p1 read s = .ok (v, c)) :
    c.rest.length ≤ s.length := by
  fun_induction readText place line p0 p1 read s with
  | case1 | case4 | case6 | case8 => cases h
  | case2 | case3 | case5 | case7 => simp [finishText_rest h]
  | case9 | case10 | case11 | case12 =>
    rename_i ih
    have := ih h
    simp only [List.length_cons]
    omega

/-! ### Start tags -/

def readValue (c : Cursor) : Except Placed (String × Cursor) :=
  match c.rest with
  | [] => .error (c.line, .unexpectedEnd)
  | s :: rest =>
    if s = .char '"' then readText (.quoted '"') c.line none none [] rest
    else if s = .char '\'' then readText (.quoted '\'') c.line none none [] rest
    else .error (lineAfter c.line s, .noQuotedValue)

theorem length_readValue_le {c : Cursor} {v : String} {c' : Cursor}
    (h : readValue c = .ok (v, c')) : c'.rest.length ≤ c.rest.length := by
  unfold readValue at h
  split at h
  · cases h
  · rename_i s rest hs
    rw [hs]
    split at h
    · have := length_readText_le h
      simp only [List.length_cons]
      omega
    · split at h
      · have := length_readText_le h
        simp only [List.length_cons]
        omega
      · cases h

def readAttr (c : Cursor) : Except Placed (Attr × Cursor) :=
  match readQName c .noAttributeName with
  | .error e => .error e
  | .ok (name, c) =>
    match c.skipSpace with
    | ⟨[], line⟩ => .error (line, .unexpectedEnd)
    | ⟨s :: rest, line⟩ =>
      if s = .char '=' then
        match readValue (Cursor.skipSpace ⟨rest, line⟩) with
        | .error e => .error e
        | .ok (value, c) => .ok (⟨name, value⟩, c)
      else .error (line, .noEquals)

theorem length_readAttr_lt {c : Cursor} {a : Attr} {c' : Cursor}
    (h : readAttr c = .ok (a, c')) : c'.rest.length < c.rest.length := by
  unfold readAttr at h
  split at h
  · cases h
  · rename_i name c₁ hq
    have h₁ := length_readQName_lt hq
    have h₂ := c₁.length_skipSpace_le
    split at h
    · cases h
    · rename_i s rest line hs
      rw [hs] at h₂
      simp only [List.length_cons] at h₂
      split at h
      · split at h
        · cases h
        · rename_i v c₂ hv
          cases h
          have h₃ := length_readValue_le hv
          have h₄ := Cursor.length_skipSpace_le ⟨rest, line⟩
          simp only at h₄
          omega
      · cases h

def readAttrs (c : Cursor) : Except Placed (List Attr × Bool × Cursor) :=
  match h : c.skipSpace with
  | ⟨[], line⟩ => .error (line, .unexpectedEnd)
  | ⟨s :: rest, line⟩ =>
    if s = .char '>' then .ok ([], false, ⟨rest, line⟩)
    else if s = .char '/' then
      match rest with
      | [] => .error (line, .unexpectedEnd)
      | t :: rest =>
        if t = .char '>' then .ok ([], true, ⟨rest, line⟩)
        else .error (lineAfter line t, .slashWithoutBracket)
    else
      match ha : readAttr ⟨s :: rest, line⟩ with
      | .error e => .error e
      | .ok (a, c') =>
        have h₁ := length_readAttr_lt ha
        have h₂ := c.length_skipSpace_le
        have h₃ : c.skipSpace.rest.length = (s :: rest).length := by rw [h]
        match readAttrs c' with
        | .error e => .error e
        | .ok (as, closed, c) => .ok (a :: as, closed, c)
termination_by c.rest.length
decreasing_by simp_all; omega

/-! ### Comments, instructions and directives -/

def skipComment (line : Nat) (p0 p1 : Option Symbol) : Text → Except Placed Cursor
  | [] => .error (line, .unexpectedEnd)
  | b :: rest =>
    if p0 = some (.char '-') ∧ p1 = some (.char '-') then
      if b = .char '>' then .ok ⟨rest, line⟩ else .error (lineAfter line b, .dashesInComment)
    else skipComment (lineAfter line b) p1 (some b) rest

def readInstruction (line : Nat) (p : Option Symbol) (read : Text) :
    Text → Except Placed (Text × Cursor)
  | [] => .error (line, .unexpectedEnd)
  | b :: rest =>
    if p = some (.char '?') ∧ b = .char '>' then .ok ((read.drop 1).reverse, ⟨rest, line⟩)
    else readInstruction (lineAfter line b) (some b) (b :: read) rest

/-- How far into a directive the reading is: plain, behind `<` with some of `!--` seen, or inside a
comment of the directive. -/
inductive DirectiveState where
  | plain
  | opened (seen : Nat)
  | comment (p0 p1 : Option Symbol)
  deriving DecidableEq, Repr

/-- Passes over a directive after its first symbol. Brackets nest, except in quotes. -/
def skipDirective (line : Nat) (quote : Option Symbol) (depth : Nat) (state : DirectiveState) :
    Text → Except Placed Cursor
  | [] => .error (line, .unexpectedEnd)
  | b :: rest =>
    let line' := lineAfter line b
    let plain (depth : Nat) : Except Placed Cursor :=
      if quote = some b then skipDirective line' none depth .plain rest
      else if quote.isSome then skipDirective line' quote depth .plain rest
      else if b = .char '\'' ∨ b = .char '"' then skipDirective line' (some b) depth .plain rest
      else if b = .char '>' then
        if depth = 0 then .ok ⟨rest, line⟩ else skipDirective line' none (depth - 1) .plain rest
      else if b = .char '<' then skipDirective line' none depth (.opened 0) rest
      else skipDirective line' none depth .plain rest
    match state with
    | .plain => plain depth
    | .opened seen =>
      if b = .char ("!--".toList.getD seen ' ') then
        if seen = 2 then skipDirective line' none depth (.comment none none) rest
        else skipDirective line' none depth (.opened (seen + 1)) rest
      else plain (depth + 1)
    | .comment p0 p1 =>
      if p0 = some (.char '-') ∧ p1 = some (.char '-') ∧ b = .char '>' then
        skipDirective line' none depth .plain rest
      else skipDirective line' none depth (.comment p1 (some b)) rest

/-- The quoted value after the first `key` that a quote follows, empty if there is none. -/
def pseudoAttr (key : Text) (s : Text) : Text :=
  match s with
  | [] => []
  | b :: s =>
    if key.isPrefixOf (b :: s) then
      match h : s.drop (key.length - 1) with
      | [] => []
      | q :: rest =>
        have : rest.length < s.length + 1 := by
          have := congrArg List.length h
          simp only [List.length_drop, List.length_cons] at this
          omega
        if q = .char '\'' ∨ q = .char '"' then
          if rest.contains q then rest.takeWhile (· != q) else []
        else pseudoAttr key rest
    else pseudoAttr key s
termination_by s.length

/-! ### Tokens -/

def isUtf8Label (label : Text) : Bool := Str.equalFold (Text.toString label) "utf-8"

/-- What a declaration at the start of a document, or anywhere in it, does to the rest: only version
1.0 is accepted, and a character set other than UTF-8 applies from here on. Without `charsets` no
other set is accepted. -/
def declare (charsets : Bool) (body : Text) (c : Cursor) : Except Placed Cursor :=
  let version := pseudoAttr (Text.ofString "version=") body
  let label := pseudoAttr (Text.ofString "encoding=") body
  if version ≠ [] ∧ version ≠ Text.ofString "1.0" then .error (c.line, .unsupportedVersion version)
  else if label = [] ∨ isUtf8Label label then .ok c
  else
    match (if charsets then Charset.ofLabel? label else none) with
    | none => .error (c.line, .unsupportedCharset label)
    | some cs => .ok ⟨cs.decode (Text.encode c.rest), c.line⟩

def readClosing (c : Cursor) : Except Placed (List Token × Cursor) := do
  let (name, c) ← readQName c .noClosingName
  match c.skipSpace with
  | ⟨[], line⟩ => .error (line, .unexpectedEnd)
  | ⟨s :: rest, line⟩ =>
    if s = .char '>' then .ok ([.close name], ⟨rest, line⟩)
    else .error (line, .closingTail (localPart name))

def readTarget (charsets : Bool) (c : Cursor) : Except Placed (List Token × Cursor) := do
  match ← readName c with
  | none => .error (c.line, .noTargetName)
  | some (target, c) =>
    let c := c.skipSpace
    let (body, c) ← readInstruction c.line none [] c.rest
    let c ← if target == "xml" then declare charsets body c else .ok c
    .ok ([.instruction target], c)

def readBang (c : Cursor) : Except Placed (List Token × Cursor) :=
  match c.rest with
  | [] => .error (c.line, .unexpectedEnd)
  | .char '-' :: [] => .error (c.line, .unexpectedEnd)
  | .char '-' :: s :: rest =>
    if s = .char '-' then do
      let c ← skipComment c.line none none rest
      .ok ([.comment], c)
    else .error (lineAfter c.line s, .badCommentStart)
  | .char '[' :: rest =>
    let opening := Text.ofString "CDATA["
    if opening.isPrefixOf rest then do
      let (text, c) ← readText .cdata c.line none none [] (rest.drop opening.length)
      .ok ([.chars text], c)
    else if rest.isPrefixOf opening then .error (c.line, .unexpectedEnd)
    else .error (c.line + lineBreaks ((rest.drop (commonLength rest opening)).take 1), .badSection)
  | s :: rest => do
    let c ← skipDirective (lineAfter c.line s) none 0 .plain rest
    .ok ([.directive], c)
where
  commonLength : Text → Text → Nat
    | a :: s, b :: t => if a = b then commonLength s t + 1 else 0
    | _, _ => 0

/-- A start tag after `<`. A tag that closes its element gives two tokens. -/
def readStart (c : Cursor) : Except Placed (List Token × Cursor) := do
  let (name, c) ← readQName c .noElementName
  let (attrs, closed, c) ← readAttrs c
  .ok (if closed then [.start name attrs, .close name] else [.start name attrs], c)

def nextTokens (charsets : Bool) (c : Cursor) : Except Placed (List Token × Cursor) :=
  match c.rest with
  | .char '<' :: [] => .error (c.line, .unexpectedEnd)
  | .char '<' :: .char '/' :: rest => readClosing ⟨rest, c.line⟩
  | .char '<' :: .char '?' :: rest => readTarget charsets ⟨rest, c.line⟩
  | .char '<' :: .char '!' :: rest => readBang ⟨rest, c.line⟩
  | .char '<' :: rest => readStart ⟨rest, c.line⟩
  | s => do
    let (text, c) ← readText .content c.line none none [] s
    .ok ([.chars text], c)

inductive Ending where
  | complete (line : Nat)
  | broken (line : Nat) (fault : Fault)
  deriving DecidableEq, Repr

def split (charsets : Bool) : Nat → Cursor → List (Token × Nat) × Ending
  | 0, c => ([], .broken c.line .unexpectedEnd)
  | fuel + 1, c =>
    if c.rest = [] then ([], .complete c.line)
    else
      match nextTokens charsets c with
      | .error (line, fault) => ([], .broken line fault)
      | .ok (tokens, c') =>
        let (more, ending) := split charsets fuel c'
        (tokens.map (·, c'.line) ++ more, ending)

/-- Splits a document. A token takes at least one of its angle brackets or lies between two, and
changing the character set makes no new ones, so the fuel is ample. -/
def tokenize (charsets : Bool) (data : Bytes) : List (Token × Nat) × Ending :=
  split charsets (2 * data.length + 2) ⟨Text.decode data, 1⟩

end MoquiLint.Markup
