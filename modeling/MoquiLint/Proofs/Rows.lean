import MoquiLint.Proofs.NameTests
import MoquiLint.Proofs.Walk

/-! What the tables of rules are written in: rows, and the conditions on a node that decide about them. -/
namespace MoquiLint.Rules

open Markup (Node)

/-- A row of a table: its finding is there if its condition holds. -/
def row (condition : Prop) [Decidable condition] (f : Finding) : List Finding :=
  if condition then [f] else []

/-- An attribute that is missing or empty. -/
def Lacks (n : Node) (name : String) : Prop := n.attr? name = none ∨ n.attr? name = some ""

instance (n : Node) (name : String) : Decidable (Lacks n name) := inferInstanceAs (Decidable (_ ∨ _))

def Childless (n : Node) (tag : String) : Prop := ¬∃ c ∈ n.children, c.tag = tag

instance (n : Node) (tag : String) : Decidable (Childless n tag) := inferInstanceAs (Decidable (¬_))

theorem value_eq_empty_iff (n : Node) (name : String) : n.value name = "" ↔ Lacks n name := by
  unfold Lacks Node.value
  cases n.attr? name <;> simp

theorem lacks_iff (n : Node) (name : String) : (n.value name == "") = true ↔ Lacks n name := by
  rw [beq_iff_eq, value_eq_empty_iff]

theorem value_eq_iff {s : String} (hs : s ≠ "") (n : Node) (name : String) :
    n.value name = s ↔ n.attr? name = some s := by
  unfold Node.value
  cases n.attr? name <;> simp [hs.symm]

theorem childrenNamed_isEmpty_iff (n : Node) (tag : String) :
    (n.childrenNamed tag).isEmpty = true ↔ Childless n tag := by
  simp [Node.childrenNamed, Childless, List.filter_eq_nil_iff]

theorem map_reportIf {condition : Bool} {p : Prop} [Decidable p] (h : condition = true ↔ p)
    (message : String) (f : String → Finding) :
    (reportIf condition message).map f = row p (f message) := by
  unfold reportIf row
  by_cases hp : p
  · simp [hp, h.mpr hp]
  · simp [hp, mt h.mp hp]

theorem mentions_schema_iff (location : String) (root : Node) :
    (!root.attrs.any fun a => Str.contains a.name location || Str.contains a.value location) = true ↔
      ¬∃ a ∈ root.attrs, location.toList <:+: a.name.toList ∨ location.toList <:+: a.value.toList := by
  simp [Str.contains_iff_infix, ← Bool.not_eq_true]

end MoquiLint.Rules
