/-! Text that may hold bytes outside UTF-8. A file, a name taken from it or a cut of a longer text
need not be valid UTF-8; decoding keeps every byte that starts no code point as a symbol of its own,
so encoding a decoded text gives back its bytes. -/
namespace MoquiLint

abbrev Bytes := List UInt8

/-- A code point, or a byte that belongs to none. -/
inductive Symbol where
  | char (c : Char)
  | stray (b : UInt8)
  deriving DecidableEq, Repr

abbrev Text := List Symbol

namespace Symbol

def replacement : Char := '\uFFFD'

/-- The code point a reader of the text sees: a stray byte reads as the replacement character. -/
def code : Symbol → Char
  | .char c => c
  | .stray _ => replacement

def bytes : Symbol → Bytes
  | .char c => String.utf8EncodeChar c
  | .stray b => [b]

def isStray : Symbol → Bool
  | .char _ => false
  | .stray _ => true

def is (c : Char) : Symbol → Bool
  | .char d => d == c
  | .stray _ => false

end Symbol

namespace Text

def ofChars (cs : List Char) : Text := cs.map .char

def ofString (s : String) : Text := ofChars s.toList

def codes (t : Text) : List Char := t.map Symbol.code

def toString (t : Text) : String := String.ofList (codes t)

def encode (t : Text) : Bytes := t.flatMap Symbol.bytes

def isValid (t : Text) : Bool := t.all fun s => !s.isStray

def headChar? (bs : Bytes) : Option Char := (bs.take 4).toByteArray.utf8DecodeChar? 0

/-- Reads bytes as text: at each place a whole code point if there is one, else one stray byte. -/
def decode : Bytes → Text
  | [] => []
  | b :: bs =>
    match headChar? (b :: bs) with
    | some c => .char c :: decode (bs.drop (c.utf8Size - 1))
    | none => .stray b :: decode bs
termination_by bs => bs.length
decreasing_by all_goals (simp only [List.length_drop, List.length_cons]; omega)

def toString? (t : Text) : Option String := if isValid t then some (toString t) else none

def size (t : Text) : Nat := (encode t).length

end Text

def utf8 (s : String) : Bytes := s.toUTF8.toList

end MoquiLint
