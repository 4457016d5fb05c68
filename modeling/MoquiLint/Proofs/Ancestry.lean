import Mathlib.Data.List.Infix
import MoquiLint.Component.Owner
import MoquiLint.Proofs.SpelledPath

/-!
# Folders above a path

Whether a path lies below a directory, and how to get there from it, are read off the names of the two. So the
folders that a file may belong to are those of the beginnings of its names, up to the root and no further.
-/
namespace MoquiLint

namespace Path

variable {root names : List String}

theorem forall_isName_append (h : ∀ n ∈ root, IsName n) (h' : ∀ n ∈ names, IsName n) :
    ∀ n ∈ root ++ names, IsName n := by
  simpa [or_imp, forall_and] using And.intro h h'

theorem isClean_of_isName (absolute : Bool) (h : ∀ n ∈ names, IsName n) : IsClean absolute names :=
  ⟨0, names, rfl, h, fun _ => rfl⟩

/-! ### Relative paths -/

theorem dropCommon_append (root names : List String) : dropCommon root (root ++ names) = ([], names) := by
  induction root with
  | nil => simp [dropCommon]
  | cons n root ih => simp [dropCommon, ih]

/-- What is dropped is the beginning of both. -/
theorem exists_of_dropCommon (xs ys : List String) :
    ∃ common, xs = common ++ (dropCommon xs ys).1 ∧ ys = common ++ (dropCommon xs ys).2 := by
  induction xs generalizing ys with
  | nil => exact ⟨[], by simp [dropCommon]⟩
  | cons x xs ih =>
    cases ys with
    | nil => exact ⟨[], by simp [dropCommon]⟩
    | cons y ys =>
      unfold dropCommon
      split
      · rename_i h
        obtain rfl : x = y := beq_iff_eq.mp h
        obtain ⟨common, hx, hy⟩ := ih ys
        exact ⟨x :: common, by simp [← hx], by simp [← hy]⟩
      · exact ⟨[], rfl, rfl⟩

/-- From a directory to what lies below it, only the names below it are named. -/
theorem relative?_spell (hr : ∀ n ∈ root, IsName n) (h : ∀ n ∈ names, IsName n) :
    relative? (spell true root) (spell true (root ++ names)) = some (spell false names) := by
  have happ := forall_isName_append hr h
  have hpath : spell false names = if names = [] then "." else Str.join "/" names := by
    simp [spell]
  rw [relative?, clean_spell hr, clean_spell happ, isAbsolute_spell, isAbsolute_spell, segments_spell hr,
    segments_spell happ, dropCommon_append, hpath]
  by_cases hne : names = []
  · simp [hne]
  · have hdiff : spell true root ≠ spell true (root ++ names) := by
      intro he
      exact hne (List.self_eq_append_right.mp (spell_injective hr happ he))
    simp [hne, hdiff]

theorem split_spell_names (h : ∀ n ∈ names, IsName n) (hne : names ≠ []) : split (spell false names) = names := by
  rw [split_spell (isClean_of_isName false h)]
  simp [hne]

theorem leads_down (h : ∀ n ∈ names, IsName n) :
    spell false names ≠ ".." ∧ Str.startsWith (spell false names) "../" = false := by
  by_cases hne : names = []
  · subst hne
    decide
  · obtain ⟨n, rest, rfl⟩ := List.exists_cons_of_ne_nil hne
    have hs := split_spell_names h hne
    have hn := (h n List.mem_cons_self).ne_dots
    refine ⟨fun he => hn ?_, ?_⟩
    · rw [he] at hs
      have hdots : split ".." = [".."] := by decide
      exact (List.cons.inj (hs.symm.trans hdots)).1
    · rw [Bool.eq_false_iff]
      intro hp
      rw [Str.startsWith, List.isPrefixOf_iff_prefix] at hp
      obtain ⟨more, hmore⟩ := hp
      have he : spell false (n :: rest) = ".." ++ "/" ++ String.ofList more := by
        rw [← String.toList_inj, ← hmore]
        simp
      rw [he, split_append_slash] at hs
      exact hn (List.cons.inj (hs.symm.trans (by rfl))).1

theorem leads_up (up down : List String) :
    Str.join "/" (".." :: up ++ down) = ".." ∨ Str.startsWith (Str.join "/" (".." :: up ++ down)) "../" = true := by
  cases hrest : up ++ down with
  | nil =>
    rw [List.cons_append, hrest]
    exact .inl rfl
  | cons n rest =>
    rw [List.cons_append, hrest, Str.join, Str.startsWith, List.isPrefixOf_iff_prefix]
    refine .inr ⟨(Str.join "/" (n :: rest)).toList, ?_⟩
    simp

/-- To anything else the way goes up first, once for each name that is left of the directory. -/
theorem relative?_spell_up (hr : ∀ n ∈ root, IsName n) (h : ∀ n ∈ names, IsName n) {n : String}
    {up down : List String} (hd : dropCommon root names = (n :: up, down)) :
    relative? (spell true root) (spell true names) =
      some (Str.join "/" (".." :: up.map (fun _ => "..") ++ down)) := by
  have hn : n ≠ ".." := by
    obtain ⟨common, hroot, -⟩ := exists_of_dropCommon root names
    rw [hd] at hroot
    exact (hr n (by rw [hroot]; simp)).ne_dots
  have hdiff : spell true root ≠ spell true names := by
    intro he
    obtain rfl := spell_injective hr h he
    have hself := dropCommon_append root []
    rw [List.append_nil, hd] at hself
    cases hself
  have hdot : spell true names ≠ "." := by
    intro he
    have habs := isAbsolute_spell names
    rw [he] at habs
    exact absurd habs (by decide)
  rw [relative?, clean_spell hr, clean_spell h, isAbsolute_spell, isAbsolute_spell, segments_spell hr, segments_spell h,
    hd]
  simp only [beq_iff_eq, hdiff, hdot, bne_self_eq_false, Bool.false_eq_true, ↓reduceIte]
  split
  · rename_i he
    exact absurd (List.cons.inj he).1 hn
  · rename_i he
    cases he
  · rfl

/-- A path lies below a directory if its names start with those of the directory. -/
theorem isWithin_spell_iff (hr : ∀ n ∈ root, IsName n) (h : ∀ n ∈ names, IsName n) :
    isWithin (spell true root) (spell true names) = true ↔ root <+: names := by
  constructor
  · intro hw
    obtain ⟨common, hroot, hnames⟩ := exists_of_dropCommon root names
    cases hup : (dropCommon root names).1 with
    | nil =>
      rw [hup, List.append_nil] at hroot
      exact ⟨_, by rw [hroot, ← hnames]⟩
    | cons n up =>
      have hrel := relative?_spell_up hr h (Prod.ext hup rfl)
      rw [isWithin, hrel] at hw
      have hdown := leads_up (up.map fun _ => "..") (dropCommon root names).2
      simp only [Bool.and_eq_true, bne_iff_ne, Bool.not_eq_true'] at hw
      rcases hdown with he | he
      · exact absurd he hw.1
      · rw [he] at hw
        exact absurd hw.2 (by decide)
  · rintro ⟨more, rfl⟩
    have hmore : ∀ n ∈ more, IsName n := fun n hn => h n (List.mem_append_right _ hn)
    obtain ⟨hne, hup⟩ := leads_down hmore
    rw [isWithin, relative?_spell hr hmore]
    simp [hne, hup]

theorem not_isWithin {root p : String} (hr : isAbsolute root = true) (hp : isAbsolute p = false) :
    isWithin root p = false := by
  have hclean : isAbsolute (clean p) = false := by
    rw [clean, isAbsolute_spell_of_isClean (isClean_segments p), hp]
  have hdiff : clean root ≠ clean p := by
    intro he
    rw [← he, isAbsolute_clean hr] at hclean
    cases hclean
  simp [isWithin, relative?, hdiff, hr, hp]

/-! ### The last name -/

theorem afterSlash_append {n : String} (hn : '/' ∉ n.toList) (p : String) : afterSlash (p ++ "/" ++ n) = n := by
  have hd : ∀ c ∈ n.toList.reverse, (c != '/') = true := by
    intro c hc
    simpa using fun he : c = '/' => hn (he ▸ List.mem_reverse.mp hc)
  have hl : (p ++ "/" ++ n).toList.reverse = n.toList.reverse ++ '/' :: p.toList.reverse := by simp
  rw [afterSlash, hl, List.takeWhile_append_of_pos hd, List.takeWhile_cons_of_neg (by decide), List.append_nil,
    List.reverse_reverse, String.ofList_toList]

theorem base_append {n : String} (hn : IsName n) (p : String) : base (p ++ "/" ++ n) = n := by
  have hdrop : Seq.dropRightWhile (· == '/') (p ++ "/" ++ n).toList = (p ++ "/" ++ n).toList := by
    obtain ⟨c, cs, hc⟩ := List.exists_cons_of_ne_nil fun hl : n.toList.reverse = [] =>
      hn.ne_empty (String.toList_inj.mp (List.reverse_eq_nil_iff.mp hl))
    have hslash : c ≠ '/' := fun he => hn.no_slash (List.mem_reverse.mp (by rw [hc, he]; simp))
    have hl : (p ++ "/" ++ n).toList.reverse = c :: (cs ++ '/' :: p.toList.reverse) := by
      rw [← List.cons_append, ← hc]
      simp
    rw [Seq.dropRightWhile, hl, List.dropWhile_cons_of_neg (by simpa using hslash), ← hl, List.reverse_reverse]
  rw [base, if_neg (by simp), hdrop, String.ofList_toList, afterSlash_append hn.no_slash,
    if_neg (by simpa using hn.ne_empty)]

theorem spell_append_singleton (names : List String) (n : String) :
    ∃ p, spell true (names ++ [n]) = p ++ "/" ++ n := by
  by_cases hne : names = []
  · subst hne
    exact ⟨"", rfl⟩
  · exact ⟨spell true names, by simp [spell, join_append_singleton hne, String.append_assoc]⟩

theorem base_spell (h : ∀ n ∈ names, IsName n) : base (spell true names) = names.getLastD "/" := by
  rcases List.eq_nil_or_concat' names with rfl | ⟨before, n, rfl⟩
  · decide
  · obtain ⟨p, hp⟩ := spell_append_singleton before n
    rw [hp, base_append (h n (by simp)), List.getLastD_concat]

theorem parent_spell_singleton {n : String} (h : ∀ n ∈ names, IsName n) (hn : IsName n) :
    parent (spell true (names ++ [n])) = spell true names := parent_spell (isClean_of_isName true h) hn

end Path

/-! ### From a folder up to the root -/

namespace Component

open MoquiLint.Path (IsName spell)

variable {root names : List String}

/-- Going up from a directory below the root ends at the root, after as many steps as there are names between the
two; a higher bound makes no difference. -/
theorem upTo_spell (hr : ∀ n ∈ root, IsName n) (h : ∀ n ∈ names, IsName n) {fuel : Nat}
    (hfuel : names.length ≤ fuel) :
    upTo (spell true root) fuel (spell true (root ++ names)) =
      names.inits.reverse.map fun way => spell true (root ++ way) := by
  induction names using List.reverseRecOn generalizing fuel with
  | nil =>
    rw [List.append_nil]
    cases fuel <;> simp [upTo]
  | append_singleton names n ih =>
    have hnames : ∀ m ∈ names, IsName m := fun m hm => h m (List.mem_append_left _ hm)
    have hn : IsName n := h n (by simp)
    have happ := Path.forall_isName_append hr hnames
    obtain ⟨fuel, rfl⟩ : ∃ k, fuel = k + 1 := ⟨fuel - 1, by simp at hfuel; omega⟩
    have hparent : Path.parent (spell true (root ++ (names ++ [n]))) = spell true (root ++ names) := by
      rw [← List.append_assoc]
      exact Path.parent_spell_singleton happ hn
    have hroot : spell true (root ++ (names ++ [n])) ≠ spell true root := by
      intro he
      have hl := congrArg List.length (Path.spell_injective (Path.forall_isName_append hr h) hr he)
      simp at hl
    have hup : spell true (root ++ names) ≠ spell true (root ++ (names ++ [n])) := by
      intro he
      have hl := congrArg List.length (Path.spell_injective happ (Path.forall_isName_append hr h) he)
      simp at hl
    have hinits : (names ++ [n]).inits.reverse = (names ++ [n]) :: names.inits.reverse := by
      simp [List.inits_append]
    rw [upTo, hparent, if_neg (by simp [hroot, hup]), hinits, List.map_cons,
      ih hnames (by simpa using hfuel)]

/-- The folders above a file below the root are the root and those on the way, innermost first. -/
theorem foldersAbove_of_parent (hr : ∀ n ∈ root, IsName n) (h : ∀ n ∈ names, IsName n) {file : String}
    (hfile : Path.parent file = spell true (root ++ names)) :
    foldersAbove (spell true root) file = names.inits.reverse.map fun way => spell true (root ++ way) := by
  have happ := Path.forall_isName_append hr h
  rw [foldersAbove, hfile]
  simp only [(Path.isWithin_spell_iff hr happ).mpr (List.prefix_append _ _), ↓reduceIte]
  rw [upTo_spell hr h (by rw [Path.segments_spell happ]; simp)]

theorem foldersAbove_eq_nil {root file : String} (h : Path.isWithin root (Path.parent file) = false) :
    foldersAbove root file = [] := by
  simp [foldersAbove, h]

theorem exists_of_mem_foldersAbove (hr : ∀ n ∈ root, IsName n) {file folder : String}
    (h : folder ∈ foldersAbove (spell true root) file) :
    ∃ way, (∀ n ∈ way, IsName n) ∧ folder = spell true (root ++ way) := by
  have habs := Path.isAbsolute_spell root
  cases hw : Path.isWithin (spell true root) (Path.parent file) with
  | false =>
    rw [foldersAbove_eq_nil hw] at h
    cases h
  | true =>
    cases hp : Path.isAbsolute (Path.throughSlash file) with
    | false =>
      have hparent : Path.isAbsolute (Path.parent file) = false := by
        rw [Path.parent, Path.clean, Path.isAbsolute_spell_of_isClean (Path.isClean_segments _), hp]
      rw [Path.not_isWithin habs hparent] at hw
      cases hw
    | true =>
      have hnames := Path.isName_of_mem_segments hp
      have hparent : Path.parent file = spell true (Path.segments (Path.throughSlash file)) := Path.clean_eq_spell hp
      rw [hparent] at hw
      obtain ⟨way, hway⟩ := (Path.isWithin_spell_iff hr hnames).mp hw
      rw [← hway] at hnames hparent
      have hbelow : ∀ n ∈ way, IsName n := fun n hn => hnames n (List.mem_append_right _ hn)
      rw [foldersAbove_of_parent hr hbelow hparent, List.mem_map] at h
      obtain ⟨begin, hbegin, rfl⟩ := h
      rw [List.mem_reverse, List.mem_inits] at hbegin
      exact ⟨begin, fun n hn => hbelow n (hbegin.subset hn), rfl⟩

end Component

end MoquiLint
