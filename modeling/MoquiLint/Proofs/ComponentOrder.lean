import MoquiLint.Proofs.GatheredFiles

/-!
# Components and the order of the files

The names of the components, their kinds and their files are put in order, so that it does not matter in which order
the files come. Where a component is shown to be is not: that is where its first file belongs.
-/
namespace MoquiLint.Component

/-! ### Sorting -/

theorem mergeSort_congr {xs ys : List String} (h : xs.Perm ys) : xs.mergeSort Str.le = ys.mergeSort Str.le := by
  have hperm : (xs.mergeSort Str.le).Perm (ys.mergeSort Str.le) :=
    (List.mergeSort_perm xs Str.le).trans (h.trans (List.mergeSort_perm ys Str.le).symm)
  exact hperm.eq_of_pairwise (fun a b _ _ => String.le_antisymm) (pairwise_le_mergeSort_key id xs)
    (pairwise_le_mergeSort_key id ys)

theorem sortedSet_congr {xs ys : List String} (h : ∀ x, x ∈ xs ↔ x ∈ ys) : sortedSet xs = sortedSet ys := by
  have hxs := pairwise_sortedSet xs
  have hys := pairwise_sortedSet ys
  have hperm : (sortedSet xs).Perm (sortedSet ys) := by
    rw [List.perm_ext_iff_of_nodup (hxs.imp String.ne_of_lt) (hys.imp String.ne_of_lt)]
    exact fun x => by rw [mem_sortedSet, mem_sortedSet, h x]
  exact hperm.eq_of_pairwise (fun a b _ _ hab hba => absurd hba (String.lt_asymm hab)) hxs hys

section
variable {d : Disk} {root top name : String} {files files' : List String} {f : String}

def placeless (c : Component) : Component := { c with path := "" }

theorem eq_of_placeless {c k : Component} (h : c.placeless = k.placeless) (hp : c.path = k.path) : c = k := by
  obtain ⟨name, path, kinds, files⟩ := c
  obtain ⟨name', path', kinds', files'⟩ := k
  simp only [placeless, Component.mk.injEq] at h hp ⊢
  exact ⟨h.1, hp, h.2.2.1, h.2.2.2⟩

theorem names_perm (h : files.Perm files') :
    sortedSet (files.map fun f => (owner d top f).1) = sortedSet (files'.map fun f => (owner d top f).1) :=
  sortedSet_congr fun _ => (h.map _).mem_iff

theorem placeless_gathered (h : files.Perm files') :
    (gathered d top files name).placeless = (gathered d top files' name).placeless := by
  have hown := (h.map fun f => (f, owner d top f)).filter fun o => o.2.1 == name
  have hkinds := sortedSet_congr fun x => ((hown.map fun o => kindOf o.2.2 o.1).filter (· != "")).mem_iff (a := x)
  have hfiles := mergeSort_congr (hown.map (·.1))
  simp only [gathered, gather, placeless, hkinds, hfiles]

/-! ### Where a component is -/

/-- A folder as it is shown: seen from the root. -/
def shownAt (top folder : String) : String := (Path.relative? top folder).getD folder

theorem path_gathered_cons (h : (owner d top f).1 = name) :
    (gathered d top (f :: files) name).path = shownAt top (owner d top f).2 := by
  simp [gathered, gather, shownAt, h]

theorem exists_path_gathered (h : name ∈ files.map fun f => (owner d top f).1) :
    ∃ f ∈ files, (owner d top f).1 = name ∧ (gathered d top files name).path = shownAt top (owner d top f).2 := by
  have hne : ((files.map fun f => (f, owner d top f)).filter fun o => o.2.1 == name) ≠ [] := by
    obtain ⟨g, hg, rfl⟩ := List.mem_map.mp h
    exact List.ne_nil_of_mem (List.mem_filter.mpr ⟨List.mem_map_of_mem hg, beq_self_eq_true _⟩)
  obtain ⟨o, rest, hown⟩ := List.exists_cons_of_ne_nil hne
  have hfirst : o ∈ (files.map fun f => (f, owner d top f)).filter fun o => o.2.1 == name := by
    rw [hown]
    exact List.mem_cons_self
  obtain ⟨hmem, hname⟩ := List.mem_filter.mp hfirst
  obtain ⟨f, hf, rfl⟩ := List.mem_map.mp hmem
  refine ⟨f, hf, beq_iff_eq.mp hname, ?_⟩
  simp only [gathered, gather, hown, List.head?_cons, Option.map_some, Option.getD_some, shownAt]

/-- All files that are owned under one name belong to one folder, as it is shown. -/
def AreTogether (d : Disk) (top : String) (files : List String) : Prop :=
  ∀ f ∈ files, ∀ g ∈ files, (owner d top f).1 = (owner d top g).1 →
    shownAt top (owner d top f).2 = shownAt top (owner d top g).2

/-! ### Detection -/

/-- In whatever order files come, the components have the same names, kinds and files. -/
theorem detect_perm_placeless (d : Disk) (root : String) (h : files.Perm files') :
    (detect d root files').map placeless = (detect d root files).map placeless := by
  rw [detect_eq_gathered, detect_eq_gathered, List.map_map, List.map_map, names_perm h]
  exact List.map_congr_left fun name _ => (placeless_gathered h).symm

/-- They are also shown at the same places whatever the order, if and only if no name stands for two places. -/
theorem detect_perm_iff (d : Disk) (root : String) (files : List String) :
    (∀ files', files.Perm files' → detect d root files' = detect d root files) ↔
      AreTogether d (d.absolute root) files := by
  constructor
  · intro hall f hf g hg hname
    -- any of the files may come first
    have hfirst : ∀ x ∈ files, (gathered d (d.absolute root) files (owner d (d.absolute root) x).1).path =
        shownAt (d.absolute root) (owner d (d.absolute root) x).2 := by
      intro x hx
      have hperm := List.perm_cons_erase hx
      have hsame := hall _ hperm
      rw [detect_eq_gathered, detect_eq_gathered, ← names_perm hperm] at hsame
      have hx' : (owner d (d.absolute root) x).1 ∈ sortedSet (files.map fun f => (owner d (d.absolute root) f).1) :=
        mem_sortedSet.mpr (List.mem_map_of_mem hx)
      rw [← List.map_inj_left.mp hsame _ hx', path_gathered_cons rfl]
    rw [← hfirst f hf, ← hfirst g hg, hname]
  · intro htogether files' h
    rw [detect_eq_gathered, detect_eq_gathered, ← names_perm h]
    refine List.map_congr_left fun name hname => eq_of_placeless (placeless_gathered h).symm ?_
    have hmem := mem_sortedSet.mp hname
    obtain ⟨f, hf, hfname, hfpath⟩ := exists_path_gathered hmem
    obtain ⟨g, hg, hgname, hgpath⟩ := exists_path_gathered ((h.map _).mem_iff.mp hmem)
    rw [hfpath, hgpath]
    exact htogether g (h.mem_iff.mpr hg) f hf (hgname.trans hfname.symm)

end

end MoquiLint.Component
