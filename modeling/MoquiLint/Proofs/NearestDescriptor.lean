import MoquiLint.Proofs.Ancestry
import MoquiLint.Proofs.DeclaredName
import MoquiLint.Proofs.GatheredFiles

/-!
# The nearest descriptor

A file below the root belongs to the deepest folder above it that holds a descriptor, the root included. Nothing
above the root is looked at, and what has been found for other files makes no difference.
-/
namespace MoquiLint.Component

open MoquiLint.Path (IsName spell)

/-- A folder with a descriptor that can be read. -/
def HasDescriptor (d : Disk) (folder : List String) : Prop :=
  ∃ content, d.read (spell true (folder ++ [descriptorFile])) = .ok content

instance (d : Disk) (folder : List String) : Decidable (HasDescriptor d folder) :=
  match h : d.read (spell true (folder ++ [descriptorFile])) with
  | .ok content => isTrue ⟨content, h⟩
  | .error _ => isFalse fun ⟨content, hc⟩ => by rw [h] at hc; cases hc

/-- What the component in a folder with a descriptor is called: as the descriptor declares, or like the folder if
it declares nothing. -/
def IsCalled (folder : List String) (descriptor : Bytes) (name : String) : Prop :=
  (name ≠ "" ∧ IsDeclared descriptor name) ∨
    ((∀ declared, IsDeclared descriptor declared → declared = "") ∧ name = folder.getLastD "/")

section
variable {d : Disk} {root dirs : List String}

theorem nameAt?_spell {folder : List String} (h : ∀ n ∈ folder, IsName n) :
    nameAt? d (spell true folder) =
      (d.read (spell true (folder ++ [descriptorFile]))).toOption.map (nameOf (spell true folder)) := by
  have hname : ∀ n ∈ [descriptorFile], IsName n := by decide
  have hjoin : Path.join [spell true folder, descriptorFile] = spell true (folder ++ [descriptorFile]) :=
    Path.join_spell h hname
  rw [nameAt?, hjoin]
  cases d.read (spell true (folder ++ [descriptorFile])) <;> rfl

theorem componentAt?_eq_none_iff {folder : List String} (h : ∀ n ∈ folder, IsName n) :
    componentAt? d (spell true folder) = none ↔ ¬ HasDescriptor d folder := by
  rw [componentAt?, Option.map_eq_none_iff, nameAt?_spell h, HasDescriptor]
  cases d.read (spell true (folder ++ [descriptorFile])) <;> simp [Except.toOption]

theorem componentAt?_eq_some {folder : String} {found : String × String} (h : componentAt? d folder = some found) :
    ∃ name, nameAt? d folder = some name ∧ (name, folder) = found := Option.map_eq_some_iff.mp h

theorem called_of_nameAt? {folder : List String} (h : ∀ n ∈ folder, IsName n) {name : String}
    (hname : nameAt? d (spell true folder) = some name) :
    ∃ content, d.read (spell true (folder ++ [descriptorFile])) = .ok content ∧ IsCalled folder content name := by
  rw [nameAt?_spell h] at hname
  cases hread : d.read (spell true (folder ++ [descriptorFile])) with
  | error e => simp [hread, Except.toOption] at hname
  | ok content =>
    rw [hread] at hname
    obtain rfl := Option.some.inj hname
    have hcases := nameOf_cases (spell true folder) content
    rw [Path.base_spell h] at hcases
    exact ⟨content, rfl, hcases⟩

/-! ### The search -/

theorem findSome?_congr {α β : Type} {p q : α → Option β} {xs : List α} (h : ∀ x ∈ xs, p x = q x) :
    xs.findSome? p = xs.findSome? q := by
  induction xs with
  | nil => rfl
  | cons x xs ih =>
    obtain ⟨hx, hxs⟩ := List.forall_mem_cons.mp h
    rw [List.findSome?_cons, List.findSome?_cons, hx, ih hxs]

/-- A search from the inside finds the longest beginning at which there is something. -/
theorem findSome?_inits_reverse {β : Type} (p : List String → Option β) (names : List String)
    (h : ∃ way, way <+: names ∧ p way ≠ none) :
    ∃ near below b, names = near ++ below ∧ p near = some b ∧
      (∀ more, more <+: below → more ≠ [] → p (near ++ more) = none) ∧
      names.inits.reverse.findSome? p = some b := by
  induction names using List.reverseRecOn with
  | nil =>
    obtain ⟨way, hway, hp⟩ := h
    obtain rfl := List.prefix_nil.mp hway
    obtain ⟨b, hb⟩ := Option.ne_none_iff_exists'.mp hp
    refine ⟨[], [], b, rfl, hb, fun more hmore hne => absurd (List.prefix_nil.mp hmore) hne, ?_⟩
    simp [hb]
  | append_singleton names n ih =>
    have hinits : (names ++ [n]).inits.reverse = (names ++ [n]) :: names.inits.reverse := by
      simp [List.inits_append]
    rw [hinits, List.findSome?_cons]
    cases hn : p (names ++ [n]) with
    | some b =>
      refine ⟨names ++ [n], [], b, by simp, hn, fun more hmore hne => ?_, rfl⟩
      exact absurd (List.prefix_nil.mp hmore) hne
    | none =>
      obtain ⟨way, hway, hp⟩ := h
      have hshorter : way <+: names := by
        rcases List.prefix_concat_iff.mp hway with rfl | hway
        · exact absurd hn hp
        · exact hway
      obtain ⟨near, below, b, rfl, hb, hnone, hfound⟩ := ih ⟨way, hshorter, hp⟩
      refine ⟨near, below ++ [n], b, by simp, hb, fun more hmore hne => ?_, hfound⟩
      rcases List.prefix_concat_iff.mp hmore with rfl | hmore
      · rwa [← List.append_assoc]
      · exact hnone more hmore hne

/-- The owner of a file below the root is the deepest component on the way to it. -/
theorem owner_of_hasDescriptor (hr : ∀ n ∈ root, IsName n) (hd : ∀ n ∈ dirs, IsName n) {n : String} (hn : IsName n)
    (h : ∃ way, way <+: dirs ∧ HasDescriptor d (root ++ way)) :
    ∃ near below name, dirs = near ++ below ∧ nameAt? d (spell true (root ++ near)) = some name ∧
      (∀ more, more <+: below → more ≠ [] → ¬ HasDescriptor d (root ++ near ++ more)) ∧
      owner d (spell true root) (spell true (root ++ dirs ++ [n])) = (name, spell true (root ++ near)) := by
  have hfolder : ∀ way, way <+: dirs → ∀ n ∈ root ++ way, IsName n := fun way hway =>
    Path.forall_isName_append hr fun n hm => hd n (hway.subset hm)
  have hnone_iff : ∀ way, way <+: dirs →
      (componentAt? d (spell true (root ++ way)) = none ↔ ¬ HasDescriptor d (root ++ way)) := fun way hway =>
    componentAt?_eq_none_iff (hfolder way hway)
  obtain ⟨way, hway, hdescriptor⟩ := h
  obtain ⟨near, below, found, rfl, hnear, hnone, hsearch⟩ :=
    findSome?_inits_reverse (fun way => componentAt? d (spell true (root ++ way))) dirs
      ⟨way, hway, fun hw => (hnone_iff way hway).mp hw hdescriptor⟩
  obtain ⟨name, hname, rfl⟩ := componentAt?_eq_some hnear
  refine ⟨near, below, name, rfl, hname, fun more hmore hne => ?_, ?_⟩
  · rw [List.append_assoc]
    exact (hnone_iff _ ((List.prefix_append_right_inj near).mpr hmore)).mp (hnone more hmore hne)
  · have hparent := Path.parent_spell_singleton (Path.forall_isName_append hr hd) hn
    rw [owner_eq_findSome?, foldersAbove_of_parent hr hd hparent, List.findSome?_map, Function.comp_def, hsearch,
      Option.getD_some]

/-- Seen from a folder above it, a file is of the kind that the first folder on the way to it names. -/
theorem kindOf_spell (hr : ∀ n ∈ root, IsName n) (hd : ∀ n ∈ dirs, IsName n) {n : String} (hn : IsName n) :
    kindOf (spell true root) (spell true (root ++ dirs ++ [n])) = dirs.headD "" := by
  have hway : ∀ m ∈ dirs ++ [n], IsName m := Path.forall_isName_append hd (by simpa using hn)
  rw [kindOf, List.append_assoc, Path.relative?_spell hr hway]
  simp only [Path.split_spell_names hway (by simp)]
  cases dirs with
  | nil => rfl
  | cons kind dirs =>
    have hdots : kind ≠ ".." := (hd kind List.mem_cons_self).ne_dots
    cases dirs <;> simp [hdots]

/-- Owners depend on the descriptors at the root and below it only. -/
theorem owner_congr (hr : ∀ n ∈ root, IsName n) {d' : Disk}
    (h : ∀ way, (∀ n ∈ way, IsName n) →
      (d'.read (spell true (root ++ way ++ [descriptorFile]))).toOption =
        (d.read (spell true (root ++ way ++ [descriptorFile]))).toOption) (file : String) :
    owner d' (spell true root) file = owner d (spell true root) file := by
  have hcomponent : ∀ folder ∈ foldersAbove (spell true root) file, componentAt? d' folder = componentAt? d folder := by
    intro folder hfolder
    obtain ⟨way, hway, rfl⟩ := exists_of_mem_foldersAbove hr hfolder
    have happ := Path.forall_isName_append hr hway
    rw [componentAt?, componentAt?, nameAt?_spell happ, nameAt?_spell happ, h way hway]
  rw [owner_eq_findSome?, owner_eq_findSome?, findSome?_congr hcomponent]

/-- A file below the root is in the component of the deepest folder above it that holds a descriptor, if one does,
the root included: it has the name that the descriptor declares, or that of the folder, and its kind is seen from that
folder. The way up ends at the root, what is above the root makes no difference, nor does what is known from earlier
files. -/
theorem nearest_descriptor_owns {files : List String} {n : String} (hr : ∀ n ∈ root, IsName n)
    (hd : ∀ n ∈ dirs, IsName n) (hn : IsName n) (hfile : spell true (root ++ dirs ++ [n]) ∈ files) :
    let top := spell true root
    let file := spell true (root ++ dirs ++ [n])
    (∀ bound, dirs.length ≤ bound →
        upTo top bound (Path.parent file) = dirs.inits.reverse.map fun way => spell true (root ++ way)) ∧
      (∀ d' : Disk, (∀ way, (∀ n ∈ way, IsName n) →
          (d'.read (spell true (root ++ way ++ [descriptorFile]))).toOption =
            (d.read (spell true (root ++ way ++ [descriptorFile]))).toOption) →
        detect d' top files = detect d top files) ∧
      (∀ earlier, (ownerFrom d top (assign d top [] earlier).2 file).1 = owner d top file) ∧
      ((∃ way, way <+: dirs ∧ HasDescriptor d (root ++ way)) →
        ∃ near below descriptor, dirs = near ++ below ∧
          d.read (spell true (root ++ near ++ [descriptorFile])) = .ok descriptor ∧
          (∀ more, more <+: below → more ≠ [] → ¬ HasDescriptor d (root ++ near ++ more)) ∧
          ∃ c ∈ detect d top files, file ∈ c.files ∧ (∀ k ∈ detect d top files, file ∈ k.files → k = c) ∧
            owner d top file = (c.name, spell true (root ++ near)) ∧ IsCalled (root ++ near) descriptor c.name ∧
            kindOf (owner d top file).2 file = below.headD "" ∧
            ∀ kind, kind ∈ c.kinds ↔ kind ≠ "" ∧ ∃ g ∈ c.files, kindOf (owner d top g).2 g = kind) := by
  intro top file
  have hparent : Path.parent file = spell true (root ++ dirs) :=
    Path.parent_spell_singleton (Path.forall_isName_append hr hd) hn
  have htop : ∀ d' : Disk, d'.absolute top = top := fun d' => by
    have habsolute := d'.absolute_clean (Path.isAbsolute_spell root)
    rwa [Path.clean_spell hr] at habsolute
  refine ⟨fun bound hbound => ?_, fun d' hsame => ?_, fun earlier => ?_, fun hdescriptor => ?_⟩
  · rw [hparent]
    exact upTo_spell hr hd hbound
  · simp only [detect_eq_gather, htop, owner_congr hr hsame, top]
  · exact ownerFrom_eq_owner (assign_of_isSound (isSound_nil d) top earlier).2 top file
  · obtain ⟨near, below, name, rfl, hname, hnone, howner⟩ := owner_of_hasDescriptor hr hd hn hdescriptor
    have hnear : ∀ n ∈ root ++ near, IsName n :=
      Path.forall_isName_append hr fun n hm => hd n (List.mem_append_left _ hm)
    have hbelow : ∀ n ∈ below, IsName n := fun n hm => hd n (List.mem_append_right _ hm)
    obtain ⟨descriptor, hread, hcalled⟩ := called_of_nameAt? hnear hname
    have hdetected : ∃ c ∈ detect d top files, Gathers d (d.absolute top) files c ∧ file ∈ c.files ∧
        c.name = (owner d (d.absolute top) file).1 ∧ ∀ k ∈ detect d top files, file ∈ k.files → k = c :=
      exists_mem_detect hfile
    rw [htop] at hdetected
    obtain ⟨c, hc, hgathers, hmem, hcname, hunique⟩ := hdetected
    have hcname : c.name = name := by rw [hcname, howner]
    have hkind : kindOf (owner d top file).2 file = below.headD "" := by
      rw [howner]
      have hk := kindOf_spell hnear hbelow hn
      rwa [List.append_assoc root near below] at hk
    refine ⟨near, below, descriptor, rfl, hread, hnone, c, hc, hmem, hunique, ?_, ?_, hkind, hgathers.mem_kinds⟩
    · rw [hcname]
      exact howner
    · rwa [hcname]

/-- A descriptor that cannot be understood leaves the folder its own name, and what stands further up does not
matter. -/
theorem nearest_descriptor_owns_malformed :
    let d : Disk := { root := .folder [("component.xml", .file (utf8 "<component name='above'/>")),
      ("p", .folder [("component.xml", .file (utf8 "<component name='outer'/>")),
        ("shop", .folder [("component.xml", .file (utf8 "<component name='inner'>")),
          ("entity", .folder [("party", .folder [("a.xml", .file (utf8 "<entities/>"))])])])])] }
    let files := ["/p/b.xml", "/p/shop/entity/party/a.xml"]
    (∀ n ∈ ["p"], IsName n) ∧ (∀ n ∈ ["shop", "entity", "party"], IsName n) ∧ IsName "a.xml" ∧
      spell true (["p"] ++ ["shop", "entity", "party"] ++ ["a.xml"]) ∈ files ∧ HasDescriptor d (["p"] ++ ["shop"]) ∧
      ∃ c ∈ detect d "/p" files, "/p/shop/entity/party/a.xml" ∈ c.files ∧ c.name = "shop" ∧
        ∀ kind, kind ∈ c.kinds ↔ kind ≠ "" ∧ ∃ g ∈ c.files, kindOf (owner d "/p" g).2 g = kind := by
  intro d files
  have hr : ∀ n ∈ ["p"], IsName n := by decide
  have hd : ∀ n ∈ ["shop", "entity", "party"], IsName n := by decide
  have hn : IsName "a.xml" := by decide
  have hfile : spell true (["p"] ++ ["shop", "entity", "party"] ++ ["a.xml"]) ∈ files := by decide
  have hdescriptor : HasDescriptor d (["p"] ++ ["shop"]) := ⟨_, rfl⟩
  have howner : owner d "/p" "/p/shop/entity/party/a.xml" = ("shop", "/p/shop") := by decide +kernel
  obtain ⟨-, -, -, howned⟩ := nearest_descriptor_owns (d := d) hr hd hn hfile
  obtain ⟨near, below, descriptor, -, -, -, c, hc, hmem, -, hc', -, -, hkinds⟩ := howned ⟨["shop"], by simp, hdescriptor⟩
  have hname : c.name = "shop" := congrArg Prod.fst (hc'.symm.trans howner)
  exact ⟨hr, hd, hn, hfile, hdescriptor, c, hc, hmem, hname, hkinds⟩

end

end MoquiLint.Component
