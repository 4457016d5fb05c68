import MoquiLint.Json.Value
import MoquiLint.Word

/-! Reading records from JSON values. Member names are matched without regard to case, unknown members
are passed over, and `null` leaves a field as it is. A member may occur several times; a later
occurrence is read over what the earlier ones left. A value of the wrong type makes the whole reading
fail. -/
namespace MoquiLint.Json

/-- A member name up to the case of its letters, the long s and the Kelvin sign included. -/
def foldKey (key : String) : List Char :=
  key.toList.map fun c => if c == '\u017F' then 'S' else if c == '\u212A' then 'K' else c.toUpper

structure Member (α : Type) where
  name : String
  read : List Json → α → Option α

/-- Reads values one after the other, each over what the one before it left. -/
def inTurn {α : Type} (read : Json → α → Option α) (js : List Json) (a : α) : Option α :=
  js.foldlM (fun a j => read j a) a

def Member.one {α : Type} (name : String) (read : Json → α → Option α) : Member α := ⟨name, inTurn read⟩

def objectMembers? : Json → Option (List (String × Json))
  | .null => some []
  | .obj ms => some ms
  | _ => none

def occurrences (name : String) (ms : List (String × Json)) : List Json :=
  ms.filterMap fun m => if foldKey name == foldKey m.1 then some m.2 else none

/-- Updates a record with the members of objects that are given for it one after the other. -/
def readRecord {α : Type} (fields : List (Member α)) (js : List Json) (a : α) : Option α := do
  let ms ← js.mapM objectMembers?
  fields.foldlM (fun a f => f.read (occurrences f.name ms.flatten) a) a

def readText (j : Json) (old : Text) : Option Text :=
  match j with
  | .null => some old
  | .str t => some t
  | _ => none

def readString (j : Json) (old : String) : Option String :=
  match j with
  | .null => some old
  | .str t => some (Text.toString t)
  | _ => none

def readInt (j : Json) (old : Int) : Option Int :=
  match j with
  | .null => some old
  | .int n => if Word.holds n then some n else none
  | _ => none

def readBool (j : Json) (old : Bool) : Option Bool :=
  match j with
  | .null => some old
  | .bool b => some b
  | _ => none

/-- The items of a list, each with all that was given for it, and how many of them the list has now;
`none` is the absent list. -/
structure Items where
  cells : List (List Json) := []
  count : Option Nat := none

def Items.write : List Json → List (List Json) → List (List Json)
  | [], cells => cells
  | x :: xs, [] => [x] :: write xs []
  | x :: xs, c :: cells => (c ++ [x]) :: write xs cells

/-- The items after one more value for the list. Its items are given for those that were there before, also
for those that an occurrence in between had left out; an empty list forgets them, and so does `null`. -/
def Items.give (s : Items) : Json → Option Items
  | .null => some {}
  | .arr [] => some { count := some 0 }
  | .arr xs => some { cells := write xs s.cells, count := some xs.length }
  | _ => none

/-- Reads a list whose items are read over a blank one; without any occurrence it stays as it is. -/
def readList {α : Type} (read : List Json → α → Option α) (blank : α) (js : List Json)
    (old : Option (List α)) : Option (Option (List α)) := do
  if js.isEmpty then return old
  else
    let _ ← js.mapM fun j => match j with
      | .arr xs => xs.mapM fun x => read [x] blank
      | _ => some []
    let items ← js.foldlM Items.give {}
    match items.count with
    | none => return none
    | some n => return some (← (items.cells.take n).mapM fun c => read c blank)

end MoquiLint.Json
