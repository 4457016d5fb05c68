import MoquiLint.Component.Owner

/-!
# Folders looked into once

Owners are found one file after the other, and what a folder was found to be is kept for the files that follow.
What is kept is what looking again would show, so every file has the owner it would have if nothing were known.
-/
namespace MoquiLint.Component

variable {d : Disk} {known : Known}

theorem base_ne_empty (p : String) : Path.base p ≠ "" := by
  unfold Path.base
  split
  · decide
  · simp only
    split
    · decide
    · rename_i h
      simpa using h

/-- A component always has a name, so that an empty one can stand for no component. -/
theorem nameOf_ne_empty (folder : String) (content : Bytes) : nameOf folder content ≠ "" := by
  unfold nameOf
  split
  · split
    · exact base_ne_empty folder
    · rename_i h
      simpa using h
  · exact base_ne_empty folder

theorem nameAt?_ne_empty (d : Disk) (folder : String) : nameAt? d folder ≠ some "" := by
  unfold nameAt?
  split
  · rename_i content _
    exact fun h => nameOf_ne_empty folder content (Option.some.inj h)
  · nofun

/-- What is known is what looking shows. -/
def IsSound (d : Disk) (known : Known) : Prop :=
  ∀ folder name, known.lookup folder = some name → name = (nameAt? d folder).getD ""

theorem isSound_nil (d : Disk) : IsSound d [] := by
  intro folder name h
  cases h

theorem IsSound.cons (h : IsSound d known) (folder : String) :
    IsSound d ((folder, (nameAt? d folder).getD "") :: known) := by
  intro f name hf
  rw [List.lookup_cons] at hf
  split at hf
  · rename_i he
    obtain rfl : f = folder := beq_iff_eq.mp he
    exact (Option.some.inj hf).symm
  · exact h f name hf

/-- An empty name that is kept reads as no component. -/
theorem named_getD (d : Disk) (folder : String) :
    (if (nameAt? d folder).getD "" == "" then none else some ((nameAt? d folder).getD "")) = nameAt? d folder := by
  have hne := nameAt?_ne_empty d folder
  cases h : nameAt? d folder with
  | none => rfl
  | some name =>
    have hname : name ≠ "" := fun he => hne (by rw [h, he])
    simp [hname]

theorem lookUp_of_isSound (h : IsSound d known) (folder : String) :
    (lookUp d known folder).1 = nameAt? d folder ∧ IsSound d (lookUp d known folder).2 := by
  unfold lookUp
  split
  · rename_i name hl
    obtain rfl := h folder name hl
    exact ⟨named_getD d folder, h⟩
  · exact ⟨named_getD d folder, h.cons folder⟩

def componentAt? (d : Disk) (folder : String) : Option (String × String) :=
  (nameAt? d folder).map fun name => (name, folder)

theorem nearest_of_isSound (h : IsSound d known) (folders : List String) :
    (nearest d known folders).1 = folders.findSome? (componentAt? d) ∧
      IsSound d (nearest d known folders).2 := by
  induction folders generalizing known with
  | nil => exact ⟨rfl, h⟩
  | cons folder folders ih =>
    obtain ⟨hname, hsound⟩ := lookUp_of_isSound h folder
    unfold nearest
    rcases hl : lookUp d known folder with ⟨_ | name, after⟩
    · rw [hl] at hname hsound
      rw [List.findSome?_cons, componentAt?, ← hname]
      exact ih hsound
    · rw [hl] at hname hsound
      rw [List.findSome?_cons, componentAt?, ← hname]
      exact ⟨rfl, hsound⟩

theorem ownerFrom_of_isSound (h : IsSound d known) (root file : String) :
    (ownerFrom d root known file).1 =
        ((foldersAbove root file).findSome? (componentAt? d)).getD
          ((byPlace? file).getD (Path.base root, root)) ∧
      IsSound d (ownerFrom d root known file).2 := by
  obtain ⟨hfound, hsound⟩ := nearest_of_isSound h (foldersAbove root file)
  unfold ownerFrom
  rcases hn : nearest d known (foldersAbove root file) with ⟨_ | found, after⟩
  · rw [hn] at hfound hsound
    rw [← hfound]
    exact ⟨rfl, hsound⟩
  · rw [hn] at hfound hsound
    rw [← hfound]
    exact ⟨rfl, hsound⟩

/-- The owner of a file is the first component among the folders above it, or else follows from the path. -/
theorem owner_eq_findSome? (d : Disk) (root file : String) :
    owner d root file =
      ((foldersAbove root file).findSome? (componentAt? d)).getD
        ((byPlace? file).getD (Path.base root, root)) := (ownerFrom_of_isSound (isSound_nil d) root file).1

theorem ownerFrom_eq_owner (h : IsSound d known) (root file : String) :
    (ownerFrom d root known file).1 = owner d root file := by
  rw [(ownerFrom_of_isSound h root file).1, owner_eq_findSome?]

theorem assign_cons (root file : String) (files : List String) :
    assign d root known (file :: files) =
      let first := ownerFrom d root known file
      let rest := assign d root first.2 files
      ((file, first.1) :: rest.1, rest.2) := by
  rw [assign]

/-- What earlier files have left known makes no difference to the owners of later ones. -/
theorem assign_of_isSound (h : IsSound d known) (root : String) (files : List String) :
    (assign d root known files).1 = files.map (fun f => (f, owner d root f)) ∧
      IsSound d (assign d root known files).2 := by
  induction files generalizing known with
  | nil => exact ⟨rfl, h⟩
  | cons file files ih =>
    have hsound := (ownerFrom_of_isSound h root file).2
    obtain ⟨hrest, hafter⟩ := ih hsound
    rw [assign_cons]
    refine ⟨?_, hafter⟩
    rw [List.map_cons, ← hrest, ← ownerFrom_eq_owner h root file]

/-- The components are gathered from the owners that the files have one by one. -/
theorem detect_eq_gather (d : Disk) (root : String) (files : List String) :
    detect d root files =
      let owned := files.map fun f => (f, owner d (d.absolute root) f)
      (sortedSet (owned.map (·.2.1))).map (gather (d.absolute root) owned) := by
  have howned := (assign_of_isSound (isSound_nil d) (d.absolute root) files).1
  simp only [detect, howned]

end MoquiLint.Component
