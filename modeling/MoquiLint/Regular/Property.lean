import MoquiLint.Regular.Basic
import MoquiLint.Text.Table.Script

/-! Character properties by name: general categories under their short and long names, scripts, and a
few sets of code points at large. -/
namespace MoquiLint.Regular

open Text (Category)

def ofCategories (ks : List Category) : CharSet := { runs := ks.flatMap Category.runs }

def unassigned : CharSet := (ofCategories Category.all).outside

/-- The general categories and their unions, each with all its names. -/
def categories : List (List String × CharSet) := [
  (["any"], .span 0 0x10FFFF),
  (["ascii"], .span 0 127),
  (["assigned"], ofCategories Category.all),
  (["c", "other"], (ofCategories (Category.visible ++ Category.separators)).outside),
  (["cc", "control", "cntrl"], ofCategories [.controlCode]),
  (["cf", "format"], ofCategories [.formatCode]),
  (["cn", "unassigned"], unassigned),
  (["co", "privateuse"], ofCategories [.privateUse]),
  (["cs", "surrogate"], ofCategories [.surrogate]),
  (["l", "letter"], ofCategories Category.letters),
  (["lc", "casedletter"], ofCategories Category.cased),
  (["ll", "lowercaseletter"], ofCategories [.lower]),
  (["lm", "modifierletter"], ofCategories [.modifierLetter]),
  (["lo", "otherletter"], ofCategories [.otherLetter]),
  (["lt", "titlecaseletter"], ofCategories [.title]),
  (["lu", "uppercaseletter"], ofCategories [.upper]),
  (["m", "mark", "combiningmark"], ofCategories Category.marks),
  (["mc", "spacingmark"], ofCategories [.combiningMark]),
  (["me", "enclosingmark"], ofCategories [.enclosingMark]),
  (["mn", "nonspacingmark"], ofCategories [.nonspacingMark]),
  (["n", "number"], ofCategories Category.numbers),
  (["nd", "decimalnumber", "digit"], ofCategories [.digit]),
  (["nl", "letternumber"], ofCategories [.letterNumber]),
  (["no", "othernumber"], ofCategories [.otherNumber]),
  (["p", "punctuation", "punct"], ofCategories Category.punctuation),
  (["pc", "connectorpunctuation"], ofCategories [.connector]),
  (["pd", "dashpunctuation"], ofCategories [.dash]),
  (["pe", "closepunctuation"], ofCategories [.closing]),
  (["pf", "finalpunctuation"], ofCategories [.finalQuote]),
  (["pi", "initialpunctuation"], ofCategories [.initialQuote]),
  (["po", "otherpunctuation"], ofCategories [.otherPunctuation]),
  (["ps", "openpunctuation"], ofCategories [.opening]),
  (["s", "symbol"], ofCategories Category.signs),
  (["sc", "currencysymbol"], ofCategories [.currencySign]),
  (["sk", "modifiersymbol"], ofCategories [.modifierSign]),
  (["sm", "mathsymbol"], ofCategories [.mathSign]),
  (["so", "othersymbol"], ofCategories [.otherSign]),
  (["z", "separator"], ofCategories Category.separators),
  (["zl", "lineseparator"], ofCategories [.lineSeparator]),
  (["zp", "paragraphseparator"], ofCategories [.paragraphSeparator]),
  (["zs", "spaceseparator"], ofCategories [.spaceSeparator])]

/-- A name as names are compared: without case, blanks, hyphens and underscores. -/
def plainName (name : List Char) : String :=
  String.ofList ((name.filter fun c => !(c == '_' || c == '-' || c == ' ')).map Char.toLower)

def property? (name : List Char) : Option CharSet :=
  let name := plainName name
  match categories.find? fun k => k.1.contains name with
  | some k => some k.2
  | none =>
    (Text.Table.scripts.find? fun s => plainName s.1.toList == name).map fun s => { runs := s.2 }

end MoquiLint.Regular
