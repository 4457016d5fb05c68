import MoquiLint.Text.Table.Letter
import MoquiLint.Text.Table.Mark
import MoquiLint.Text.Table.Number
import MoquiLint.Text.Table.Punctuation
import MoquiLint.Text.Table.Sign
import MoquiLint.Text.Table.Invisible

/-! The general categories of Unicode. Every code point has one; those without a character are
unassigned. -/
namespace MoquiLint.Text

def inRanges (table : List (Nat × Nat)) (n : Nat) : Bool :=
  table.any fun r => r.1 ≤ n && n ≤ r.2

/-- Whether `n` lies in one of the runs `(first, last, step)`. -/
def inRuns (table : List (Nat × Nat × Nat)) (n : Nat) : Bool :=
  table.any fun r => r.1 ≤ n && n ≤ r.2.1 && (n - r.1) % r.2.2 == 0

/-- General categories other than that of the unassigned code points. -/
inductive Category where
  | upper | lower | title | modifierLetter | otherLetter
  | nonspacingMark | combiningMark | enclosingMark
  | digit | letterNumber | otherNumber
  | connector | dash | opening | closing | initialQuote | finalQuote | otherPunctuation
  | mathSign | currencySign | modifierSign | otherSign
  | spaceSeparator | lineSeparator | paragraphSeparator
  | controlCode | formatCode | surrogate | privateUse
  deriving DecidableEq, Repr

namespace Category

def runs : Category → List (Nat × Nat × Nat)
  | .upper => Table.upper
  | .lower => Table.lower
  | .title => Table.title
  | .modifierLetter => Table.modifierLetter
  | .otherLetter => Table.otherLetter
  | .nonspacingMark => Table.nonspacingMark
  | .combiningMark => Table.combiningMark
  | .enclosingMark => Table.enclosingMark
  | .digit => Table.digit
  | .letterNumber => Table.letterNumber
  | .otherNumber => Table.otherNumber
  | .connector => Table.connector
  | .dash => Table.dash
  | .opening => Table.opening
  | .closing => Table.closing
  | .initialQuote => Table.initialQuote
  | .finalQuote => Table.finalQuote
  | .otherPunctuation => Table.otherPunctuation
  | .mathSign => Table.mathSign
  | .currencySign => Table.currencySign
  | .modifierSign => Table.modifierSign
  | .otherSign => Table.otherSign
  | .spaceSeparator => Table.spaceSeparator
  | .lineSeparator => Table.lineSeparator
  | .paragraphSeparator => Table.paragraphSeparator
  | .controlCode => Table.controlCode
  | .formatCode => Table.formatCode
  | .surrogate => Table.surrogate
  | .privateUse => Table.privateUse

def holds (k : Category) (c : Char) : Bool := inRuns k.runs c.toNat

def cased : List Category := [.upper, .lower, .title]

def letters : List Category := cased ++ [.modifierLetter, .otherLetter]

def marks : List Category := [.nonspacingMark, .combiningMark, .enclosingMark]

def numbers : List Category := [.digit, .letterNumber, .otherNumber]

def punctuation : List Category :=
  [.connector, .dash, .opening, .closing, .initialQuote, .finalQuote, .otherPunctuation]

def signs : List Category := [.mathSign, .currencySign, .modifierSign, .otherSign]

def separators : List Category := [.spaceSeparator, .lineSeparator, .paragraphSeparator]

def others : List Category := [.controlCode, .formatCode, .surrogate, .privateUse]

def visible : List Category := letters ++ marks ++ numbers ++ punctuation ++ signs

def all : List Category := visible ++ separators ++ others

end Category

def inCategories (ks : List Category) (c : Char) : Bool := ks.any fun k => k.holds c

end MoquiLint.Text
