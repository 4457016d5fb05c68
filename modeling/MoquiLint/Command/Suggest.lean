import MoquiLint.Command.Catalog

/-! Commands that may have been meant by a name that is none. -/
namespace MoquiLint.Command

/-- The next row of distances: `row` holds those from a text to all starts of the other one, from the
empty start on. -/
def nextRow (a : UInt8) (b : Bytes) (row : List Nat) : List Nat :=
  match row with
  | [] => []
  | first :: rest =>
    let step (acc : List Nat × Nat) (x : UInt8 × Nat) : List Nat × Nat :=
      let left := acc.1.headD 0
      let here := if x.1 == a then acc.2 else 1 + min left (min x.2 acc.2)
      (here :: acc.1, x.2)
    ((b.zip rest).foldl step ([first + 1], first)).1.reverse

/-- How many insertions, deletions and replacements of bytes lead from one text to the other. -/
def distance (a b : Bytes) : Nat :=
  (a.foldl (fun row x => nextRow x b row) (List.range (b.length + 1))).getLastD 0

def maxDistance : Nat := 2

def isLike (given name : String) : Bool :=
  let a := Str.lower given
  let b := Str.lower name
  distance (utf8 a) (utf8 b) ≤ maxDistance || Str.startsWith b a

def suggestions (c : Command) (given : String) : List String :=
  ((c.children.filter fun k => k.action != some .help && isLike given k.name)).map (·.name)

def question (c : Command) (given : String) : String :=
  match c.suggestions given with
  | [] => ""
  | names => "\n\nDid you mean this?\n" ++ String.join (names.map fun n => "\t" ++ n ++ "\n")

end MoquiLint.Command
