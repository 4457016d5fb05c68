import MoquiLint.Text.Category
import MoquiLint.Text.Table.CaseMap

/-! Character classes and simple case mapping over all of Unicode. -/
namespace MoquiLint.Text

/-- Moves `n` along the first run `(first, last, step, image)` that holds it. -/
def shiftBy (table : List (Nat × Nat × Nat × Nat)) (n : Nat) : Nat :=
  match table.find? fun r => r.1 ≤ n && n ≤ r.2.1 && (n - r.1) % r.2.2.1 == 0 with
  | some r => r.2.2.2 + (n - r.1)
  | none => n

def isLetter (c : Char) : Bool := inCategories Category.letters c

def isNumber (c : Char) : Bool := inCategories Category.numbers c

def isDigit (c : Char) : Bool := Category.digit.holds c

def isSpace (c : Char) : Bool := inRuns Table.space c.toNat

def isUpper (c : Char) : Bool := Category.upper.holds c

def isLower (c : Char) : Bool := Category.lower.holds c

/-- Characters shown as they are in quoted text; of the spaces only the ordinary one. -/
def isPrintable (c : Char) : Bool := c == ' ' || inCategories Category.visible c

/-- Simple upper-case mapping: one code point to one code point. -/
def toUpper (c : Char) : Char := Char.ofNat (shiftBy Table.toUpper c.toNat)

def toLower (c : Char) : Char := Char.ofNat (shiftBy Table.toLower c.toNat)

end MoquiLint.Text
