import MoquiLint.Disk.Basic

/-! What has changed between two file trees. -/
namespace MoquiLint

/-- A place where something has changed, and what stands there now; none if nothing does any more. -/
structure Change where
  place : List String
  entry : Option Entry

namespace Change

def isSame : Entry → Entry → Bool
  | .file a, .file b => a == b
  | .link s, .link t => s == t
  | .socket, .socket => true
  | _, _ => false

mutual

/-- The changes that lead from one entry to another. What is gone comes before what is there now. -/
def between (place : List String) (old : Entry) : Entry → List Change
  | .folder ms =>
    match old with
    | .folder os =>
      (os.filter fun o => !ms.any fun m => m.1 == o.1).map (fun o => ⟨place ++ [o.1], none⟩) ++
        betweenMembers place os ms
    | _ => [⟨place, some (.folder ms)⟩]
  | e => if isSame old e then [] else [⟨place, some e⟩]

def betweenMembers (place : List String) (old : List (String × Entry)) :
    List (String × Entry) → List Change
  | [] => []
  | (n, e) :: ms =>
    (match old.lookup n with
      | some o => between (place ++ [n]) o e
      | none => [⟨place ++ [n], some e⟩]) ++ betweenMembers place old ms

end

end Change

end MoquiLint
