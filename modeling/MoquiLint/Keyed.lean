/-! Named values in the order of their names, each name at most once. -/
namespace MoquiLint.Keyed

/-- Puts a value at the place of its name, instead of an earlier one of that name. -/
def insert {α : Type} (name : String) (a : α) : List (String × α) → List (String × α)
  | [] => [(name, a)]
  | (n, b) :: rest =>
    if name = n then (name, a) :: rest
    else if name < n then (name, a) :: (n, b) :: rest
    else (n, b) :: insert name a rest

@[simp] theorem lookup_insert_self {α : Type} (name : String) (a : α) (l : List (String × α)) :
    (insert name a l).lookup name = some a := by
  induction l with
  | nil => simp [insert]
  | cons x l ih =>
    obtain ⟨n, b⟩ := x
    simp only [insert]
    split
    · simp
    · split
      · simp
      · rename_i h _
        rw [List.lookup_cons, beq_false_of_ne h, ih]

theorem lookup_insert_of_ne {α : Type} {name n : String} (h : n ≠ name) (a : α)
    (l : List (String × α)) : (insert name a l).lookup n = l.lookup n := by
  induction l with
  | nil => simp [insert, List.lookup_cons, beq_false_of_ne h]
  | cons x l ih =>
    obtain ⟨m, b⟩ := x
    simp only [insert]
    split
    · rename_i hm
      subst hm
      simp [List.lookup_cons, beq_false_of_ne h]
    · split
      · rw [List.lookup_cons, beq_false_of_ne h]
      · simp only [List.lookup_cons, ih]

end MoquiLint.Keyed
