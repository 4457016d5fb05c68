import MoquiLint.Text.Symbol

/-! JSON values. Integers are kept exact; a number with a fraction or an exponent is kept as it was
written. Object members keep their order and may repeat a key, as in the text they came from. -/
namespace MoquiLint

inductive Json where
  | null
  | bool (b : Bool)
  | int (n : Int)
  | real (literal : String)
  | str (t : Text)
  | arr (items : List Json)
  | obj (members : List (String × Json))
  deriving Inhabited

namespace Json

def string (s : String) : Json := .str (Text.ofString s)

def nat (n : Nat) : Json := .int n

def list {α : Type} (f : α → Json) : Option (List α) → Json
  | none => .null
  | some xs => .arr (xs.map f)

def strings (xs : List String) : Json := .arr (xs.map string)

def get? (j : Json) (key : String) : Option Json :=
  match j with
  | .obj ms => (ms.reverse.find? fun m => m.1 == key).map Prod.snd
  | _ => none

end Json

end MoquiLint
