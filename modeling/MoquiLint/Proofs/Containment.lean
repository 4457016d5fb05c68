import MoquiLint.Proofs.Ancestry

/-!
# Two tests for what lies below a directory

One test looks at the relative path from the directory, the other compares the spellings. Both ask whether the names
of the path start with those of the directory, but by the spellings nothing lies below the root of the file system.
-/
namespace MoquiLint.Path

variable {root names : List String}

theorem split_spell_root (h : ∀ n ∈ names, IsName n) :
    split (spell true names) = "" :: if names = [] then [""] else names := by
  rw [split_spell (isClean_of_isName true h), if_pos rfl]
  by_cases hne : names = []
  · subst hne
    decide
  · rw [split_join hne fun n hn => (h n hn).no_slash, if_neg hne]

theorem spell_append_cons (hne : root ≠ []) (n : String) (more : List String) :
    ∃ rest, spell true (root ++ n :: more) = spell true root ++ "/" ++ rest := by
  induction more using List.reverseRecOn with
  | nil => exact ⟨n, by simp [spell, join_append_singleton hne, String.append_assoc]⟩
  | append_singleton more m ih =>
    obtain ⟨rest, hrest⟩ := ih
    have hlast : spell true (root ++ n :: (more ++ [m])) = spell true (root ++ n :: more) ++ "/" ++ m := by
      have hfront : root ++ n :: more ≠ [] := by simp
      rw [← List.cons_append, ← List.append_assoc]
      simp only [spell, ↓reduceIte, join_append_singleton hfront, String.append_assoc]
    exact ⟨rest ++ "/" ++ m, by rw [hlast, hrest]; simp only [String.append_assoc]⟩

/-- A path is spelled with the directory and a slash in front if its names go on from those of the directory. The
root of the file system is a slash already, and no path starts with two. -/
theorem startsWith_spell_iff (hr : ∀ n ∈ root, IsName n) (h : ∀ n ∈ names, IsName n) :
    Str.startsWith (spell true names) (spell true root ++ "/") = true ↔
      root ≠ [] ∧ ∃ n more, names = root ++ n :: more := by
  rw [Str.startsWith, List.isPrefixOf_iff_prefix]
  constructor
  · rintro ⟨rest, hrest⟩
    have he : spell true names = spell true root ++ "/" ++ String.ofList rest := by
      rw [← String.toList_inj, String.toList_append, String.toList_ofList, hrest]
    have hs := split_spell_root h
    obtain ⟨n, more, hmore⟩ := List.exists_cons_of_ne_nil
      (show split (String.ofList rest) ≠ [] by simp [split, Str.split, Seq.splitOn_ne_nil])
    rw [he, split_append_slash, split_spell_root hr, hmore, List.cons_append, List.cons.injEq] at hs
    have hs := hs.2
    by_cases hnames : names = []
    · -- a single blank part is too few for the directory and what follows it
      have hl := congrArg List.length hs
      by_cases hroot : root = []
      · simp [hnames, hroot] at hl
      · have hpos := List.length_pos_iff.mpr hroot
        simp only [hnames, hroot, ↓reduceIte, List.length_append, List.length_cons, List.length_nil] at hl
        omega
    · rw [if_neg hnames] at hs
      by_cases hroot : root = []
      · rw [if_pos hroot] at hs
        exact absurd rfl (h "" (hs ▸ List.mem_cons_self)).ne_empty
      · rw [if_neg hroot] at hs
        exact ⟨hroot, n, more, hs.symm⟩
  · rintro ⟨hroot, n, more, rfl⟩
    obtain ⟨rest, hrest⟩ := spell_append_cons hroot n more
    exact ⟨rest.toList, by rw [hrest, ← String.toList_append]⟩

theorem isUnder_singleton (p r : String) :
    isUnder p [r] = true ↔ p = r ∨ Str.startsWith p (r ++ "/") = true := by
  simp [isUnder]

theorem isUnder_spell_iff (hr : ∀ n ∈ root, IsName n) (h : ∀ n ∈ names, IsName n) :
    isUnder (spell true names) [spell true root] = true ↔ root <+: names ∧ (root = [] → names = []) := by
  rw [isUnder_singleton, startsWith_spell_iff hr h]
  constructor
  · rintro (he | ⟨hroot, n, more, rfl⟩)
    · obtain rfl := spell_injective h hr he
      exact ⟨List.prefix_rfl, id⟩
    · exact ⟨List.prefix_append _ _, fun he => absurd he hroot⟩
  · rintro ⟨⟨more, rfl⟩, hroot⟩
    cases more with
    | nil => exact .inl (by rw [List.append_nil])
    | cons n more => exact .inr ⟨fun he => by simpa [he] using hroot he, n, more, rfl⟩

/-- A path below one of several directories is below a single one of them, so neither their order nor duplicates
matter. -/
theorem isUnder_iff_exists (p : String) (roots : List String) :
    isUnder p roots = true ↔ ∃ r ∈ roots, isUnder p [r] = true := by
  simp [isUnder]

theorem spell_segments {p : String} (hp : isAbsolute p = true) (hc : clean p = p) : spell true (segments p) = p := by
  rw [← clean_eq_spell hp, hc]

/-- By the relative path a path lies below a directory just if its names start with those of the directory. By the
spellings it is the same unless the directory is the root of the file system, which has only itself below it. Of
several directories one is enough, whatever their order and however often each is given. -/
theorem containment_by_names (p : String) :
    (∀ r, isAbsolute p = true → clean p = p → isAbsolute r = true → clean r = r →
      (isWithin r p = true ↔ segments r <+: segments p) ∧
      (isUnder p [r] = true ↔ isWithin r p = true ∧ (r = "/" → p = "/"))) ∧
    ∀ roots, (isUnder p roots = true ↔ ∃ r ∈ roots, isUnder p [r] = true) ∧
      ∀ roots', (∀ r, r ∈ roots' ↔ r ∈ roots) → isUnder p roots' = isUnder p roots := by
  refine ⟨fun r hp hpc hr hrc => ?_, fun roots => ⟨isUnder_iff_exists p roots, fun roots' hsame => ?_⟩⟩
  · have hnames := isName_of_mem_segments hp
    have hroots := isName_of_mem_segments hr
    have hw := isWithin_spell_iff hroots hnames
    have hu := isUnder_spell_iff hroots hnames
    rw [spell_segments hp hpc, spell_segments hr hrc] at hw hu
    have hempty (q : String) (hq : isAbsolute q = true) (hqc : clean q = q) : segments q = [] ↔ q = "/" := by
      constructor
      · intro he
        rw [← spell_segments hq hqc, he]
        decide
      · rintro rfl
        decide
    refine ⟨hw, ?_⟩
    rw [hu, hw, hempty r hr hrc, hempty p hp hpc]
  · rw [Bool.eq_iff_iff, isUnder_iff_exists, isUnder_iff_exists p roots]
    simp only [hsame]

/-- A name that only starts like that of the directory, and one that begins with two dots. -/
theorem containment_by_names_dots :
    (isWithin "/a/b" "/a/bc" = false ∧ isUnder "/a/bc" ["/a/b"] = false) ∧
      isWithin "/a" "/a/..b" = true ∧ isUnder "/a/..b" ["/c", "/a", "/a"] = true := by
  obtain ⟨hw, hu⟩ := (containment_by_names "/a/bc").1 "/a/b" (by decide) (by decide) (by decide) (by decide)
  have hout : isWithin "/a/b" "/a/bc" = false := by
    rw [Bool.eq_false_iff, ne_eq, hw]
    decide
  obtain ⟨hw', hu'⟩ := (containment_by_names "/a/..b").1 "/a" (by decide) (by decide) (by decide) (by decide)
  have hin : isWithin "/a" "/a/..b" = true := hw'.mpr (by decide)
  refine ⟨⟨hout, ?_⟩, hin, ?_⟩
  · rw [Bool.eq_false_iff, ne_eq, hu, hout]
    decide
  · exact ((containment_by_names "/a/..b").2 ["/c", "/a", "/a"]).1.mpr ⟨"/a", by decide, hu'.mpr ⟨hin, by decide⟩⟩

/-- Every path lies below the root of the file system, but its spelling does not start with two slashes. -/
theorem containment_fails_at_root :
    segments "/" <+: segments "/a" ∧ isWithin "/" "/a" = true ∧ isUnder "/a" ["/"] = false := by
  decide

end MoquiLint.Path
