import MoquiLint.Proofs.NearestDescriptor

/-!
# Components by where they lie

Without a descriptor, the last folder `component` on the way to a file decides: the folder after it is the component.
A file right in that folder belongs to the root then, also if another component is above it.
-/
namespace MoquiLint.Component

open MoquiLint.Path (IsName spell)

/-! ### The last of a name -/

theorem lastIndex?_eq_none {names : List String} {target : String} (h : target ∉ names) :
    lastIndex? names target = none := by
  rw [lastIndex?, Option.map_eq_none_iff, List.idxOf?_eq_none_iff, List.mem_reverse]
  exact h

theorem lastIndex?_append {before after : List String} {target : String} (h : target ∉ after) :
    lastIndex? (before ++ target :: after) target = some before.length := by
  have hafter : after.reverse.findIdx? (· == target) = none := by
    rw [List.findIdx?_eq_none_iff]
    intro x hx
    exact beq_eq_false_iff_ne.mpr fun he => h (he ▸ List.mem_reverse.mp hx)
  have hidx : (before ++ target :: after).reverse.idxOf? target = some after.length := by
    simp [List.idxOf?, List.findIdx?_append, hafter, List.findIdx?_cons]
  rw [lastIndex?, hidx, Option.map_some]
  simp only [List.length_append, List.length_cons]
  congr 1
  omega

/-- A list that has a name ends in what follows the last of it. -/
theorem exists_last_of_mem {names : List String} {target : String} (h : target ∈ names) :
    ∃ before after, names = before ++ target :: after ∧ target ∉ after := by
  obtain ⟨after, before, hnames, hafter⟩ := List.eq_append_cons_of_mem (List.mem_reverse.mpr h)
  refine ⟨before.reverse, after.reverse, ?_, fun hm => hafter (List.mem_reverse.mp hm)⟩
  rw [← List.reverse_inj, hnames]
  simp

section
variable {d : Disk} {root dirs before after : List String} {name n : String}

/-! ### The place of a file -/

theorem join_blank_cons {names : List String} (hne : names ≠ []) :
    Str.join "/" ("" :: names) = "/" ++ Str.join "/" names := by
  cases names with
  | nil => exact absurd rfl hne
  | cons n names => rw [Str.join, String.empty_append]

theorem split_spell_file (hd : ∀ n ∈ dirs, IsName n) (hn : IsName n) :
    Path.split (spell true (dirs ++ [n])) = ("" :: dirs) ++ [n] := by
  have hnames : ∀ m ∈ dirs ++ [n], IsName m := Path.forall_isName_append hd (by simpa using hn)
  have hjoin : Path.split (Str.join "/" (dirs ++ [n])) = dirs ++ [n] :=
    Path.split_join (by simp) fun m hm => (hnames m hm).no_slash
  rw [Path.split_spell (Path.isClean_of_isName true hnames), if_pos rfl, hjoin, List.cons_append]

theorem byPlace?_eq_none (hd : ∀ n ∈ dirs, IsName n) (hn : IsName n) (h : componentsFolder ∉ dirs) :
    byPlace? (spell true (dirs ++ [n])) = none := by
  have hroot : componentsFolder ∉ "" :: dirs := by
    simpa using And.intro (by decide : componentsFolder ≠ "") h
  rw [byPlace?, split_spell_file hd hn, List.dropLast_concat, lastIndex?_eq_none hroot]

/-- Only the last folder `component` counts, and only if there is a folder after it. -/
theorem byPlace?_spell (hd : ∀ n ∈ before ++ componentsFolder :: after, IsName n) (hn : IsName n)
    (h : componentsFolder ∉ after) :
    byPlace? (spell true (before ++ componentsFolder :: after ++ [n])) =
      after.head?.map fun name => (name, spell true (before ++ [componentsFolder, name])) := by
  have hindex : lastIndex? (("" :: before) ++ componentsFolder :: after) componentsFolder = some (before.length + 1) :=
    lastIndex?_append h
  rw [byPlace?, split_spell_file hd hn, List.dropLast_concat, ← List.cons_append, hindex]
  cases after with
  | nil => simp
  | cons name after =>
    have hlength : before.length + 1 + 2 < (("" :: before) ++ componentsFolder :: name :: after ++ [n]).length := by
      simp only [List.length_append, List.length_cons]
      omega
    have hname : (("" :: before) ++ componentsFolder :: name :: after ++ [n]).getD (before.length + 1 + 1) "" = name := by
      simp
    have htake : (("" :: before) ++ componentsFolder :: name :: after ++ [n]).take (before.length + 1 + 2) =
        "" :: (before ++ [componentsFolder, name]) := by
      simp [List.take_append]
    simp only [hlength, hname, htake, ↓reduceIte]
    rw [List.head?_cons, Option.map_some, join_blank_cons (by simp)]
    rfl

/-- Without a descriptor from the root down to a file, its path alone decides. -/
theorem owner_of_not_hasDescriptor (hr : ∀ n ∈ root, IsName n) (hd : ∀ n ∈ dirs, IsName n) (hn : IsName n)
    (hnone : ∀ way, root <+: way → way <+: dirs → ¬ HasDescriptor d way) :
    owner d (spell true root) (spell true (dirs ++ [n])) =
      (byPlace? (spell true (dirs ++ [n]))).getD (root.getLastD "/", spell true root) := by
  have hparent : Path.parent (spell true (dirs ++ [n])) = spell true dirs := Path.parent_spell_singleton hd hn
  have hsearch : (foldersAbove (spell true root) (spell true (dirs ++ [n]))).findSome? (componentAt? d) = none := by
    rw [List.findSome?_eq_none_iff]
    intro folder hfolder
    by_cases hbelow : root <+: dirs
    · obtain ⟨names, rfl⟩ := hbelow
      have hnames : ∀ n ∈ names, IsName n := fun n hm => hd n (List.mem_append_right _ hm)
      rw [foldersAbove_of_parent hr hnames hparent, List.mem_map] at hfolder
      obtain ⟨way, hway, rfl⟩ := hfolder
      have hbegin : root ++ way <+: root ++ names :=
        (List.prefix_append_right_inj root).mpr ((List.mem_inits _ _).mp (List.mem_reverse.mp hway))
      rw [componentAt?_eq_none_iff fun n hm => hd n (hbegin.subset hm)]
      exact hnone _ (List.prefix_append root way) hbegin
    · have hout : Path.isWithin (spell true root) (spell true dirs) = false := by
        rw [Bool.eq_false_iff]
        exact fun hw => hbelow ((Path.isWithin_spell_iff hr hd).mp hw)
      rw [foldersAbove_eq_nil (by rw [hparent, hout])] at hfolder
      cases hfolder
  rw [owner_eq_findSome?, hsearch, Path.base_spell hr, Option.getD_none]

/-- Without a descriptor a file belongs to the last `component/{name}` above it, unless it is right in a folder that is
called `component` itself. Otherwise it belongs to the root. -/
theorem owner_by_place (hr : ∀ n ∈ root, IsName n) (hd : ∀ n ∈ dirs, IsName n) (hn : IsName n)
    (hnone : ∀ way, root <+: way → way <+: dirs → ¬ HasDescriptor d way) :
    let found := owner d (spell true root) (spell true (dirs ++ [n]))
    ((∃ before name, before ++ [componentsFolder, name] <+: dirs) → dirs.getLast? ≠ some componentsFolder →
        ∃ before name after, dirs = before ++ [componentsFolder, name] ++ after ∧
          componentsFolder ∉ name :: after ∧ found = (name, spell true (before ++ [componentsFolder, name]))) ∧
      ((¬ ∃ before name, before ++ [componentsFolder, name] <+: dirs) ∨ dirs.getLast? = some componentsFolder →
        found = (root.getLastD "/", spell true root)) := by
  intro found
  have hfound : found = (byPlace? (spell true (dirs ++ [n]))).getD (root.getLastD "/", spell true root) :=
    owner_of_not_hasDescriptor hr hd hn hnone
  by_cases hmem : componentsFolder ∈ dirs
  · obtain ⟨before, after, rfl, hafter⟩ := exists_last_of_mem hmem
    rw [byPlace?_spell hd hn hafter] at hfound
    cases after with
    | nil =>
      -- the last one is right above the file
      exact ⟨fun _ hlast => absurd List.getLast?_concat hlast, fun _ => hfound⟩
    | cons name after =>
      have hdirs : before ++ componentsFolder :: name :: after = before ++ [componentsFolder, name] ++ after := by simp
      refine ⟨fun _ _ => ⟨before, name, after, hdirs, hafter, hfound⟩, ?_⟩
      rintro (hno | hlast)
      · exact absurd ⟨before, name, hdirs ▸ List.prefix_append _ _⟩ hno
      · have htail : (before ++ componentsFolder :: name :: after).getLast? = (name :: after).getLast? := by
          simp [List.getLast?_append, List.getLast?_cons]
        exact absurd (List.mem_of_getLast? (htail ▸ hlast)) hafter
  · rw [byPlace?_eq_none hd hn hmem] at hfound
    refine ⟨?_, fun _ => hfound⟩
    rintro ⟨before, name, hbegin⟩
    exact absurd (hbegin.subset (by simp)) hmem

/-- Of several folders `component` the last one counts. -/
theorem owner_by_place_last :
    let d : Disk := { root := .folder [("p", .folder [("component", .folder [("base", .folder [("component", .folder
      [("shop", .folder [("entity", .folder [("a.xml", .file (utf8 "<entities/>"))])])])])])])] }
    (∀ n ∈ ["p"], IsName n) ∧ (∀ n ∈ ["p", "component", "base", "component", "shop", "entity"], IsName n) ∧
      IsName "a.xml" ∧ (∀ way, ["p"] <+: way → way <+: ["p", "component", "base", "component", "shop", "entity"] →
        ¬ HasDescriptor d way) ∧
      ∃ before name after, ["p", "component", "base", "component", "shop", "entity"] =
          before ++ [componentsFolder, name] ++ after ∧ componentsFolder ∉ name :: after ∧
        owner d "/p" "/p/component/base/component/shop/entity/a.xml" =
          (name, spell true (before ++ [componentsFolder, name])) := by
  intro d
  have hr : ∀ n ∈ ["p"], IsName n := by decide
  have hd : ∀ n ∈ ["p", "component", "base", "component", "shop", "entity"], IsName n := by decide
  have hn : IsName "a.xml" := by decide
  have hways : ∀ way ∈ ["p", "component", "base", "component", "shop", "entity"].inits, ¬ HasDescriptor d way := by
    decide +kernel
  have hnone : ∀ way, ["p"] <+: way → way <+: ["p", "component", "base", "component", "shop", "entity"] →
      ¬ HasDescriptor d way := fun way _ hway => hways way ((List.mem_inits _ _).mpr hway)
  exact ⟨hr, hd, hn, hnone, (owner_by_place hr hd hn hnone).1 ⟨["p"], "base", by decide⟩ (by decide)⟩

/-- A file right in a folder `component` is not counted to the component that this folder is part of. -/
theorem owner_by_place_fails :
    let d : Disk := { root := .folder [("p", .folder [("component", .folder [("shop", .folder [("component", .folder
      [("a.xml", .file (utf8 "<entities/>"))])])])])] }
    (∀ way, ["p"] <+: way → way <+: ["p", "component", "shop", "component"] → ¬ HasDescriptor d way) ∧
      ["p"] ++ [componentsFolder, "shop"] <+: ["p", "component", "shop", "component"] ∧
      ¬ ∃ before name, before ++ [componentsFolder, name] <+: ["p", "component", "shop", "component"] ∧
        owner d "/p" "/p/component/shop/component/a.xml" = (name, spell true (before ++ [componentsFolder, name])) := by
  intro d
  have hways : ∀ way ∈ ["p", "component", "shop", "component"].inits, ¬ HasDescriptor d way := by decide +kernel
  have howner : owner d "/p" "/p/component/shop/component/a.xml" = ("p", "/p") := by decide +kernel
  refine ⟨fun way _ hway => hways way ((List.mem_inits _ _).mpr hway), by decide, ?_⟩
  rintro ⟨before, name, hbegin, hfound⟩
  have hnames : ∀ n ∈ ["p", "component", "shop", "component"], IsName n := by decide
  have hroot : spell true ["p"] = spell true (before ++ [componentsFolder, name]) :=
    congrArg Prod.snd (howner.symm.trans hfound)
  have hlist := Path.spell_injective (by decide) (fun n hm => hnames n (hbegin.subset hm)) hroot
  have hlength := congrArg List.length hlist
  simp at hlength

end

end MoquiLint.Component
