import MoquiLint.Text.Category

/-! Regular expressions over characters. -/
namespace MoquiLint

/-- Part of a character class: runs `(first, last, step)` of code points, or everything outside them. -/
structure CharSet where
  runs : List (Nat × Nat × Nat)
  negated : Bool := false
  deriving DecidableEq, Repr

namespace CharSet

def holds (s : CharSet) (c : Char) : Bool := Text.inRuns s.runs c.toNat != s.negated

def span (first last : Nat) : CharSet := { runs := [(first, last, 1)] }

def outside (s : CharSet) : CharSet := { s with negated := !s.negated }

end CharSet

inductive Regular where
  | nothing
  | literal (cs : List Char)
  | oneOf (negated : Bool) (sets : List CharSet)
  | textStart
  | textEnd
  /-- A place with a word character on exactly one side, or any other place. -/
  | wordEdge (negated : Bool)
  | group (body : Regular)
  | both (first second : Regular)
  | either (first second : Regular)
  | times (body : Regular) (least : Nat) (most : Option Nat)
  deriving Repr

namespace Regular

def ofSet (s : CharSet) : Regular := .oneOf false [s]

def anyChar : Regular := .oneOf true [.span 10 10]

/-- An expression before what follows it. Literals that meet become one. -/
def before : Regular → Regular → Regular
  | r, .nothing => r
  | .literal s, .literal t => .literal (s ++ t)
  | .literal s, .both (.literal t) rest => .both (.literal (s ++ t)) rest
  | r, rest => .both r rest

def all (rs : List Regular) : Regular := rs.foldr before .nothing

/-- Whether an expression stands for one character, perhaps out of several alternatives. -/
def isSingle : Regular → Bool
  | .literal [_] => true
  | .oneOf _ _ => true
  | .either a b => isSingle a && isSingle b
  | _ => false

/-- How deep an expression nests. Expressions in a row are on one level, and so are alternatives;
alternatives that are single characters are as good as one of them. -/
def height : Regular → Nat
  | .group r => height r + 1
  | .times r _ _ => height r + 1
  | .both a b =>
    let rest := height b
    max (height a + 1) (match b with
      | .both _ _ => rest
      | _ => rest + 1)
  | .either a b =>
    let rest := height b
    if isSingle a && isSingle b then 1
    else max (height a + 1) (match b with
      | .either _ _ => if isSingle b then 2 else rest
      | _ => rest + 1)
  | _ => 1

/-- How often a repetition and those inside it repeat at most together. -/
def weight : Regular → Nat
  | .group r => weight r
  | .both a b => max (weight a) (weight b)
  | .either a b => max (weight a) (weight b)
  | .times _ _ (some 0) => 1
  | .times r least most => max 1 (most.getD least) * weight r
  | _ => 1

end Regular

end MoquiLint
