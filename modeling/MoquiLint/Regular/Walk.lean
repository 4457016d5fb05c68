import MoquiLint.Regular.Basic

/-! Where in a text a regular expression matches. A set of places in the text is a number whose bits are
the places in it, and an expression takes the set of places where matches start to the set of those
where they end. -/
namespace MoquiLint

/-- A set of places: place `i` is in it if bit `i` is set. -/
abbrev Places := Nat

def Places.below (n : Nat) (p : Nat → Bool) : Places :=
  (List.range n).foldl (fun s i => if p i then s ||| (1 <<< i) else s) 0

inductive Walk where
  /-- Stays where it is, at the given places only. -/
  | hold (places : Places)
  /-- Goes one character further, from the given places only. -/
  | step (places : Places)
  | both (first second : Walk)
  | either (first second : Walk)
  | times (body : Walk) (least most : Nat)
  deriving Repr

namespace Walk

def iterate (step : Places → Places) : Nat → Places → Places
  | 0, places => places
  | n + 1, places => iterate step n (step places)

/-- The places reached in at most `n` steps: those `seen` already, and those reached from the ones that
were `new` last. -/
def reach (step : Places → Places) : Nat → (seen new : Places) → Places
  | 0, seen, _ => seen
  | n + 1, seen, new =>
    let next := seen ||| step new
    if next = seen then seen else reach step n next (next ^^^ seen)

/-- The places where matches end that start at one of the given places. -/
def ends : Walk → Places → Places
  | .hold places, p => p &&& places
  | .step places, p => (p &&& places) <<< 1
  | .both a b, p => ends b (ends a p)
  | .either a b, p => ends a p ||| ends b p
  | .times w least most, p =>
    let start := iterate (ends w) least p
    reach (ends w) (most - least) start start

end Walk

namespace Regular

def isWord (c : Char) : Bool := c.isAlphanum || c == '_'

def isEdge (text : Array Char) (i : Nat) : Bool :=
  (i != 0 && text[i - 1]?.any isWord) != text[i]?.any isWord

def stepOver (text : Array Char) (p : Char → Bool) : Walk :=
  .step (Places.below text.size fun i => text[i]?.any p)

/-- The expression in a text. More repetitions than the text has characters reach no further place. -/
def walk (text : Array Char) : Regular → Walk
  | .nothing => .hold (Places.below (text.size + 1) fun _ => true)
  | .literal cs =>
    cs.foldr (fun c w => .both (stepOver text (· == c)) w) (.hold (Places.below (text.size + 1) fun _ => true))
  | .oneOf negated sets => stepOver text fun c => (sets.any fun s => s.holds c) != negated
  | .textStart => .hold 1
  | .textEnd => .hold (1 <<< text.size)
  | .wordEdge negated => .hold (Places.below (text.size + 1) fun i => isEdge text i != negated)
  | .group r => walk text r
  | .both a b => .both (walk text a) (walk text b)
  | .either a b => .either (walk text a) (walk text b)
  | .times r least most => .times (walk text r) least (most.getD (least + text.size + 1))

def occursIn (r : Regular) (text : List Char) : Bool :=
  let a := text.toArray
  (r.walk a).ends (Places.below (a.size + 1) fun _ => true) != 0

end Regular

end MoquiLint
