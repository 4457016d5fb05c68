import MoquiLint.Text.Symbol
import MoquiLint.Text.Class
import MoquiLint.Text.Table.Width

/-! How many columns of a terminal a line takes. ASCII is counted character by character, control
sequences of the terminal take nothing, and other characters are counted by clusters: a character
with the marks, joiners and modifiers that belong to it. -/
namespace MoquiLint.Terminal

inductive BreakClass where
  | control | extend | joiner | spacingMark | prepended | regional | pictograph
  | leading | vowel | trailing | leadingVowel | syllable | other
  deriving DecidableEq, Repr

def breakClass (c : Char) : BreakClass :=
  let n := c.toNat
  if n < 32 || n == 127 then .control
  else if n < 128 then .other
  else if n == 0x200D then .joiner
  else if Text.inRanges Text.Table.control n then .control
  else if Text.inRanges Text.Table.extend n then .extend
  else if Text.inRanges Text.Table.spacingMark n then .spacingMark
  else if Text.inRanges Text.Table.prepend n then .prepended
  else if 0x1F1E6 ≤ n && n ≤ 0x1F1FF then .regional
  else if Text.inRanges Text.Table.pictograph n then .pictograph
  else if 0x1100 ≤ n && n ≤ 0x115F || 0xA960 ≤ n && n ≤ 0xA97C then .leading
  else if 0x1160 ≤ n && n ≤ 0x11A7 || 0xD7B0 ≤ n && n ≤ 0xD7C6 then .vowel
  else if 0x11A8 ≤ n && n ≤ 0x11FF || 0xD7CB ≤ n && n ≤ 0xD7FB then .trailing
  else if 0xAC00 ≤ n && n ≤ 0xD7A3 then if (n - 0xAC00) % 28 == 0 then .leadingVowel else .syllable
  else .other

def charWidth (c : Char) : Nat :=
  match breakClass c with
  | .control => 0
  | .extend => 0
  | .joiner => 0
  | .regional => 2
  | .pictograph => if Text.inRanges Text.Table.emoji c.toNat then 2 else 1
  | _ =>
    if c.toNat == 0x2E3A then 3
    else if c.toNat == 0x2E3B then 4
    else if Text.inRanges Text.Table.wide c.toNat then 2
    else 1

/-- A cluster part way through: its last class, whether it ends in a pictograph with marks or in one
with a joiner, and whether it ends in an unpaired regional indicator. -/
structure Cluster where
  last : BreakClass
  pictograph : Bool
  joined : Bool
  unpaired : Bool
  deriving DecidableEq, Repr

namespace Cluster

def start (b : BreakClass) : Cluster := ⟨b, b == .pictograph, false, b == .regional⟩

def accepts (k : Cluster) (b : BreakClass) : Bool :=
  if k.last == .control || b == .control then false
  else if b == .extend || b == .joiner || b == .spacingMark || k.last == .prepended then true
  else match k.last, b with
    | .leading, .leading => true
    | .leading, .vowel => true
    | .leading, .leadingVowel => true
    | .leading, .syllable => true
    | .leadingVowel, .vowel => true
    | .leadingVowel, .trailing => true
    | .vowel, .vowel => true
    | .vowel, .trailing => true
    | .syllable, .trailing => true
    | .trailing, .trailing => true
    | _, .pictograph => k.joined
    | _, .regional => k.unpaired
    | _, _ => false

def push (k : Cluster) (b : BreakClass) : Cluster :=
  { last := b
    pictograph := b == .pictograph || (b == .extend && k.pictograph)
    joined := b == .joiner && k.pictograph
    unpaired := b == .regional && !k.unpaired }

end Cluster

def restWidth (first : BreakClass) (k : Cluster) (width : Nat) : Text → Nat × Text
  | [] => (width, [])
  | s :: rest =>
    let b := breakClass s.code
    if k.accepts b then
      let width :=
        if first == .pictograph then
          if s.code == '\uFE0E' then 1 else if s.code == '\uFE0F' then 2 else width
        else if first == .regional || first == .leading then width
        else width + charWidth s.code
      restWidth first (k.push b) width rest
    else (width, s :: rest)

theorem length_restWidth_le (first : BreakClass) (k : Cluster) (width : Nat) (line : Text) :
    (restWidth first k width line).2.length ≤ line.length := by
  induction line generalizing k width with
  | nil => simp [restWidth]
  | cons s rest ih =>
    rw [restWidth]
    dsimp only
    split
    · exact Nat.le_succ_of_le (ih ..)
    · exact Nat.le_refl _

def clusterWidth (s : Symbol) (rest : Text) : Nat × Text :=
  restWidth (breakClass s.code) (.start (breakClass s.code)) (charWidth s.code) rest

theorem length_clusterWidth_le (s : Symbol) (rest : Text) :
    (clusterWidth s rest).2.length ≤ rest.length := length_restWidth_le ..

inductive Sequence where
  | none
  /-- Behind the escape character, and behind intermediate characters after it. -/
  | escape | escapeMiddle
  /-- In a control sequence, and behind its intermediate characters. -/
  | control | controlMiddle
  /-- In a device control string: at its start, in its parameters, behind intermediate characters, and
  in the string itself. -/
  | device | deviceParameters | deviceMiddle | deviceString
  | command
  | string
  deriving DecidableEq, Repr

namespace Sequence

def within (first last b : Nat) : Bool := first ≤ b && b ≤ last

def isPassed (b : Nat) : Bool := (b < 0x20 && b != 0x18 && b != 0x1A && b != 0x1B) || b == 0x7F

def restart (b : Nat) : Sequence :=
  if b == 0x1B then .escape
  else if b == 0x90 then .device
  else if b == 0x9B then .control
  else if b == 0x9D then .command
  else if b == 0x98 || b == 0x9E || b == 0x9F then .string
  else .none

def next : Sequence → Nat → Sequence
  | .none, b => restart b
  | .escape, b =>
    if isPassed b then .escape
    else if within 0x20 0x2F b then .escapeMiddle
    else if b == 0x5B then .control
    else if b == 0x5D then .command
    else if b == 0x50 then .device
    else if b == 0x58 || b == 0x5E || b == 0x5F then .string
    else restart b
  | .escapeMiddle, b => if isPassed b || within 0x20 0x2F b then .escapeMiddle else restart b
  | .control, b =>
    if isPassed b || within 0x30 0x3F b then .control
    else if within 0x20 0x2F b then .controlMiddle
    else restart b
  | .controlMiddle, b => if isPassed b || within 0x20 0x2F b then .controlMiddle else restart b
  | .device, b =>
    if within 0x08 0x0D b || b == 0x1B || within 0x40 0x7E b then .deviceString
    else if isPassed b then .device
    else if within 0x20 0x2F b then .deviceMiddle
    else if within 0x30 0x3F b then .deviceParameters
    else restart b
  | .deviceParameters, b =>
    if isPassed b || within 0x30 0x3F b then .deviceParameters
    else if within 0x20 0x2F b then .deviceMiddle
    else if within 0x40 0x7E b then .deviceString
    else restart b
  | .deviceMiddle, b =>
    if isPassed b || within 0x20 0x2F b then .deviceMiddle
    else if within 0x30 0x7E b then .deviceString
    else restart b
  | .deviceString, b =>
    if b == 0x1B then .escape
    else if b == 0x18 || b == 0x1A || b == 0x9C then .none
    else .deviceString
  | .command, b =>
    if b == 0x1B then .escape
    else if b == 0x07 || b == 0x18 || b == 0x1A || b == 0x9C then .none
    else .command
  | .string, b => if isPassed b || within 0x20 0x7F b then .string else restart b

def takesBytes (s : Sequence) : Bool := s == .deviceString || s == .command

end Sequence

def leads : Symbol → Bool
  | .char c => c.toNat ≥ 128
  | .stray b => 0xC2 ≤ b && b ≤ 0xF4

/-- The columns of a line. A character outside ASCII ends a sequence unless it belongs to it. -/
def columns (state : Sequence) (line : Text) : Nat :=
  match line with
  | [] => 0
  | s :: rest =>
    if leads s && !state.takesBytes then
      have := length_clusterWidth_le s rest
      (clusterWidth s rest).1 + columns .none (clusterWidth s rest).2
    else
      (if state == .none && Sequence.within 0x20 0x7E s.code.toNat then 1 else 0) +
        columns (s.bytes.foldl (fun state b => state.next b.toNat) state) rest
termination_by line.length
decreasing_by all_goals (simp only [List.length_cons]; omega)

def width (line : Text) : Nat := columns .none line

end MoquiLint.Terminal
