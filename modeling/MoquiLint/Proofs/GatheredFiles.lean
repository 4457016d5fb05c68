import MoquiLint.Proofs.ComponentShares

/-!
# What a component gathers

A component has the files whose owners have its name, and it is of the kinds that these files have, each seen
from the folder of its own owner.
-/
namespace MoquiLint.Component

variable {d : Disk} {root top : String} {files : List String} {c : Component}

def gathered (d : Disk) (top : String) (files : List String) (name : String) : Component :=
  gather top (files.map fun f => (f, owner d top f)) name

@[simp] theorem name_gathered (name : String) : (gathered d top files name).name = name := rfl

theorem detect_eq_gathered (d : Disk) (root : String) (files : List String) :
    detect d root files =
      (sortedSet (files.map fun f => (owner d (d.absolute root) f).1)).map (gathered d (d.absolute root) files) := by
  simp only [detect_eq_gather, List.map_map]
  rfl

theorem mem_detect : c ∈ detect d root files ↔
    ∃ file ∈ files, gathered d (d.absolute root) files (owner d (d.absolute root) file).1 = c := by
  simp only [detect_eq_gathered, List.mem_map, mem_sortedSet]
  constructor
  · rintro ⟨name, ⟨f, hf, rfl⟩, rfl⟩
    exact ⟨f, hf, rfl⟩
  · rintro ⟨f, hf, rfl⟩
    exact ⟨_, ⟨f, hf, rfl⟩, rfl⟩

/-- A component with the files that are owned under its name, and with their kinds. -/
structure Gathers (d : Disk) (top : String) (files : List String) (c : Component) : Prop where
  mem_files : ∀ file, file ∈ c.files ↔ file ∈ files ∧ (owner d top file).1 = c.name
  mem_kinds : ∀ kind, kind ∈ c.kinds ↔ kind ≠ "" ∧ ∃ file ∈ c.files, kindOf (owner d top file).2 file = kind

theorem gathers_gathered (d : Disk) (top : String) (files : List String) (name : String) :
    Gathers d top files (gathered d top files name) := by
  have hfiles : ∀ file, file ∈ (gathered d top files name).files ↔
      file ∈ files ∧ (owner d top file).1 = name := by
    intro file
    simp only [gathered, gather, List.mem_mergeSort, List.mem_map, List.mem_filter, beq_iff_eq]
    constructor
    · rintro ⟨o, ⟨⟨f, hf, rfl⟩, hname⟩, rfl⟩
      exact ⟨hf, hname⟩
    · rintro ⟨hf, hname⟩
      exact ⟨(file, owner d top file), ⟨⟨file, hf, rfl⟩, hname⟩, rfl⟩
  refine ⟨hfiles, fun kind => ?_⟩
  simp only [hfiles]
  simp only [gathered, gather, mem_sortedSet, List.mem_filter, List.mem_map, beq_iff_eq, bne_iff_ne]
  constructor
  · rintro ⟨⟨o, ⟨⟨f, hf, rfl⟩, hname⟩, hkind⟩, hne⟩
    exact ⟨hne, f, ⟨hf, hname⟩, hkind⟩
  · rintro ⟨hne, f, ⟨hf, hname⟩, hkind⟩
    exact ⟨⟨(f, owner d top f), ⟨⟨f, hf, rfl⟩, hname⟩, hkind⟩, hne⟩

theorem exists_mem_detect {file : String} (h : file ∈ files) :
    ∃ c ∈ detect d root files, Gathers d (d.absolute root) files c ∧ file ∈ c.files ∧
      c.name = (owner d (d.absolute root) file).1 ∧ ∀ k ∈ detect d root files, file ∈ k.files → k = c := by
  have hgathers := gathers_gathered d (d.absolute root) files
  have hfile : file ∈ (gathered d (d.absolute root) files (owner d (d.absolute root) file).1).files := by
    rw [(hgathers _).mem_files, name_gathered]
    exact ⟨h, rfl⟩
  refine ⟨_, mem_detect.mpr ⟨file, h, rfl⟩, hgathers _, hfile, name_gathered _, fun k hk hk' => ?_⟩
  obtain ⟨other, -, rfl⟩ := mem_detect.mp hk
  rw [(hgathers _).mem_files, name_gathered] at hk'
  rw [hk'.2]

end MoquiLint.Component
