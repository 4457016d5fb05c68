import MoquiLint.Proofs.CleanPath

/-!
# Spelled paths

The names of a clean path, absolute or relative: `..` stands at the front of a relative path only. Such names
are read back from their spelling, so a path into a directory is spelled with the names of the directory first.
-/
namespace MoquiLint.Path

/-- The names of a clean path. -/
structure IsClean (absolute : Bool) (names : List String) : Prop where
  exists_names : ∃ ups own, names = List.replicate ups ".." ++ own ∧ (∀ n ∈ own, IsName n) ∧
    (absolute = true → ups = 0)

variable {absolute : Bool} {names more : List String}

theorem IsClean.append (h : IsClean absolute names) (hm : ∀ n ∈ more, IsName n) :
    IsClean absolute (names ++ more) := by
  obtain ⟨ups, own, rfl, hown, habs⟩ := h.exists_names
  refine ⟨ups, own ++ more, List.append_assoc .., ?_, habs⟩
  simpa [or_imp, forall_and] using And.intro hown hm

theorem IsClean.of_append (h : IsClean absolute (names ++ more)) : IsClean absolute names := by
  obtain ⟨ups, own, he, hown, habs⟩ := h.exists_names
  rw [List.append_eq_append_iff] at he
  rcases he with ⟨rest, hups, -⟩ | ⟨rest, hnames, hown'⟩
  · obtain ⟨hlen, hrep, -⟩ := List.replicate_eq_append_iff.mp hups
    refine ⟨names.length, [], by rw [List.append_nil, ← hrep], by simp, fun ha => ?_⟩
    have := habs ha
    omega
  · refine ⟨ups, rest, hnames, fun n hn => hown n ?_, habs⟩
    rw [hown']
    exact List.mem_append_left _ hn

theorem IsClean.of_mem (h : IsClean absolute names) {n : String} (hn : n ∈ names) :
    n ≠ "" ∧ n ≠ "." ∧ '/' ∉ n.toList := by
  obtain ⟨ups, own, rfl, hown, -⟩ := h.exists_names
  rcases List.mem_append.mp hn with hn | hn
  · obtain rfl := List.eq_of_mem_replicate hn
    decide
  · exact ⟨(hown n hn).ne_empty, (hown n hn).ne_dot, (hown n hn).no_slash⟩

theorem push_clean {stack : List String} (h : IsClean absolute stack.reverse) {n : String}
    (hn : '/' ∉ n.toList) : IsClean absolute (push absolute stack n).reverse := by
  obtain ⟨ups, own, hs, hown, habs⟩ := h.exists_names
  unfold push
  split
  · exact h
  · rename_i hblank
    split
    · cases stack with
      | nil =>
        cases absolute with
        | true => exact h
        | false => exact ⟨1, [], by simp, by simp, by simp⟩
      | cons top rest =>
        simp only
        split
        · rename_i htop
          obtain rfl := beq_iff_eq.mp htop
          -- only `..` stands below `..`
          rw [List.reverse_cons] at hs
          have hnil : own = [] := by
            rcases List.eq_nil_or_concat' own with ho | ⟨own', k, rfl⟩
            · exact ho
            · rw [← List.append_assoc] at hs
              have hk : [".."] = [k] := (List.append_inj' hs rfl).2
              exact absurd (List.singleton_inj.mp hk).symm (hown k (by simp)).ne_dots
          subst hnil
          refine ⟨ups + 1, [], ?_, by simp, fun ha => ?_⟩
          · rw [List.reverse_cons, List.reverse_cons, hs]
            simp [List.replicate_succ']
          · have := habs ha
            subst this
            simp at hs
        · rw [List.reverse_cons] at h
          exact h.of_append
    · rename_i hdots
      simp only [Bool.or_eq_true, beq_iff_eq, not_or] at hblank hdots
      rw [List.reverse_cons]
      exact h.append (by simpa using ⟨hblank.1, hblank.2, hdots, hn⟩)

theorem isClean_segments (p : String) : IsClean (isAbsolute p) (segments p) := by
  have hfold : ∀ (ws : List String), (∀ w ∈ ws, '/' ∉ w.toList) → ∀ stack,
      IsClean (isAbsolute p) stack.reverse →
      IsClean (isAbsolute p) (ws.foldl (push (isAbsolute p)) stack).reverse := by
    intro ws
    induction ws with
    | nil => exact fun _ stack hs => hs
    | cons w ws ih =>
      intro hw stack hs
      refine ih (fun v hv => hw v (List.mem_cons_of_mem w hv)) _ ?_
      exact push_clean hs (hw w List.mem_cons_self)
  exact hfold _ (fun _ hw => no_slash_of_mem_split hw) [] ⟨0, [], by simp, by simp, by simp⟩

/-! ### Spelling -/

theorem isAbsolute_spell_of_isClean (h : IsClean absolute names) : isAbsolute (spell absolute names) = absolute := by
  cases absolute with
  | true => exact isAbsolute_spell names
  | false =>
    cases names with
    | nil => decide
    | cons n names =>
      obtain ⟨hne, -, hslash⟩ := h.of_mem List.mem_cons_self
      obtain ⟨c, cs, hc⟩ := List.exists_cons_of_ne_nil fun hl => hne (String.toList_inj.mp hl)
      have hj : ∃ rest, (Str.join "/" (n :: names)).toList = c :: rest := by
        cases names with
        | nil => exact ⟨cs, hc⟩
        | cons m names => exact ⟨_, by rw [Str.join, String.toList_append, String.toList_append, hc]; rfl⟩
      obtain ⟨rest, hj⟩ := hj
      have hcs : c ≠ '/' := fun he => hslash (by simp [hc, he])
      have hp : spell false (n :: names) = Str.join "/" (n :: names) := rfl
      rw [isAbsolute, Str.startsWith, hp, hj]
      simp [List.isPrefixOf, hcs.symm]

theorem foldl_push_ups (ups k : Nat) :
    (List.replicate ups "..").foldl (push false) (List.replicate k "..") = List.replicate (ups + k) ".." := by
  induction ups generalizing k with
  | zero => simp
  | succ ups ih =>
    have hp : push false (List.replicate k "..") ".." = List.replicate (k + 1) ".." := by
      cases k <;> simp [push, List.replicate_succ]
    rw [List.replicate_succ, List.foldl_cons, hp, ih]
    congr 1
    omega

theorem foldl_push_clean (h : IsClean absolute names) : names.foldl (push absolute) [] = names.reverse := by
  obtain ⟨ups, own, rfl, hown, habs⟩ := h.exists_names
  cases absolute with
  | true =>
    obtain rfl := habs rfl
    simpa using foldl_push hown true []
  | false =>
    rw [List.foldl_append, show [] = List.replicate 0 ".." from rfl, foldl_push_ups, foldl_push hown]
    simp

/-- The names between the slashes of a spelled path, up to blank ones. -/
theorem split_spell (h : IsClean absolute names) :
    split (spell absolute names) =
      if absolute then "" :: split (Str.join "/" names) else if names = [] then ["."] else names := by
  cases absolute with
  | true => exact split_append_slash "" (Str.join "/" names)
  | false =>
    by_cases hne : names = []
    · subst hne
      decide
    · simp only [spell, Bool.false_eq_true, ↓reduceIte, List.isEmpty_iff, hne]
      exact split_join hne fun n hn => (h.of_mem hn).2.2

theorem segments_spell_of_isClean (h : IsClean absolute names) : segments (spell absolute names) = names := by
  have hf := foldl_push_clean h
  rw [segments, isAbsolute_spell_of_isClean h, split_spell h]
  by_cases hne : names = []
  · subst hne
    cases absolute <;> decide
  · cases absolute with
    | true =>
      rw [if_pos rfl, split_join hne fun n hn => (h.of_mem hn).2.2, List.foldl_cons, show push true [] "" = [] from rfl,
        hf, List.reverse_reverse]
    | false => rw [if_neg Bool.false_ne_true, if_neg hne, hf, List.reverse_reverse]

theorem clean_spell_of_isClean (h : IsClean absolute names) : clean (spell absolute names) = spell absolute names := by
  rw [clean, isAbsolute_spell_of_isClean h, segments_spell_of_isClean h]

theorem spell_ne_empty (h : IsClean absolute names) : spell absolute names ≠ "" := by
  intro he
  have hs := segments_spell_of_isClean h
  rw [he] at hs
  obtain rfl : names = [] := hs.symm.trans (by decide)
  cases absolute <;> exact absurd he (by decide)

/-! ### Paths into a directory -/

theorem isAbsolute_append_slash {p : String} (hp : p ≠ "") (q : String) :
    isAbsolute (p ++ q) = isAbsolute p := by
  obtain ⟨c, cs, hc⟩ := List.exists_cons_of_ne_nil fun hl => hp (String.toList_inj.mp hl)
  simp [isAbsolute, Str.startsWith, hc, List.isPrefixOf]

theorem join_names (p : String) (hne : names ≠ []) (h : ∀ n ∈ names, IsName n) :
    join (p :: names) = spell (isAbsolute p) (segments p ++ names) := by
  have hn : names.filter (· != "") = names := by
    rw [List.filter_eq_self]
    exact fun n hn => by simpa using (h n hn).ne_empty
  have hs : split (Str.join "/" names) = names := split_join hne fun n hn => (h n hn).no_slash
  obtain ⟨m, ms, rfl⟩ := List.exists_cons_of_ne_nil hne
  by_cases hp : p = ""
  · subst hp
    have habs : isAbsolute (Str.join "/" (m :: ms)) = false := by
      have hc : IsClean false (m :: ms) := ⟨0, m :: ms, rfl, h, fun _ => rfl⟩
      exact isAbsolute_spell_of_isClean hc
    have hempty : isAbsolute "" = false ∧ segments "" = [] := by decide
    rw [join, List.filter_cons_of_neg (by simp), hn, hempty.1, hempty.2]
    simp only [clean, segments, habs, hs, foldl_push h]
    simp
  · rw [join, List.filter_cons_of_pos (by simpa using hp), hn]
    have hj : Str.join "/" (p :: m :: ms) = p ++ "/" ++ Str.join "/" (m :: ms) := rfl
    have habs : isAbsolute (p ++ "/" ++ Str.join "/" (m :: ms)) = isAbsolute p := by
      rw [String.append_assoc, isAbsolute_append_slash hp]
    simp only [hj]
    rw [clean, segments, habs, split_append_slash, List.foldl_append, hs, foldl_push h, segments]
    simp

/-! ### The directory of a path -/

theorem throughSlash_append {n : String} (hn : '/' ∉ n.toList) (p : String) :
    throughSlash (p ++ "/" ++ n) = p ++ "/" := by
  have hd : ∀ c ∈ n.toList.reverse, (c != '/') = true := by
    intro c hc
    simpa using fun he : c = '/' => hn (he ▸ List.mem_reverse.mp hc)
  have hl : (p ++ "/" ++ n).toList.reverse = n.toList.reverse ++ '/' :: p.toList.reverse := by simp
  rw [throughSlash, hl, List.dropWhile_append_of_pos hd, List.dropWhile_cons_of_neg (by decide), List.reverse_cons,
    List.reverse_reverse, ← String.toList_inj]
  simp

theorem throughSlash_eq_empty {n : String} (hn : '/' ∉ n.toList) : throughSlash n = "" := by
  have hd : ∀ c ∈ n.toList.reverse, (c != '/') = true := by
    intro c hc
    simpa using fun he : c = '/' => hn (he ▸ List.mem_reverse.mp hc)
  have hnil : (n.toList.reverse ++ []).dropWhile (· != '/') = [] := List.dropWhile_append_of_pos hd
  rw [List.append_nil] at hnil
  rw [throughSlash, hnil]
  rfl

theorem clean_append_slash {p : String} (hp : p ≠ "") : clean (p ++ "/") = clean p := by
  have hs : split (p ++ "/") = split p ++ [""] := by
    rw [show [""] = split "" by decide, ← split_append_slash, String.append_empty]
  have hpush : ∀ stack, push (isAbsolute p) stack "" = stack := fun stack => by simp [push]
  simp only [clean, segments, isAbsolute_append_slash hp, hs, List.foldl_append, List.foldl_cons, List.foldl_nil, hpush]

theorem join_append_singleton (hne : names ≠ []) (n : String) :
    Str.join "/" (names ++ [n]) = Str.join "/" names ++ "/" ++ n := by
  induction names with
  | nil => exact absurd rfl hne
  | cons m names ih =>
    cases names with
    | nil => rfl
    | cons k names =>
      have ih := ih (by simp)
      rw [List.cons_append, List.cons_append, Str.join, ← List.cons_append, ih, Str.join]
      simp only [String.append_assoc]

theorem parent_spell {n : String} (h : IsClean absolute names) (hn : IsName n) :
    parent (spell absolute (names ++ [n])) = spell absolute names := by
  by_cases hne : names = []
  · subst hne
    cases absolute with
    | true =>
      have hs : spell true ([] ++ [n]) = "" ++ "/" ++ n := rfl
      rw [parent, hs, throughSlash_append hn.no_slash]
      decide
    | false =>
      have hs : spell false ([] ++ [n]) = n := rfl
      rw [parent, hs, throughSlash_eq_empty hn.no_slash]
      decide
  · have hs : spell absolute (names ++ [n]) = spell absolute names ++ "/" ++ n := by
      cases absolute <;> simp [spell, hne, join_append_singleton hne, String.append_assoc]
    rw [parent, hs, throughSlash_append hn.no_slash, clean_append_slash (spell_ne_empty h), clean_spell_of_isClean h]

end MoquiLint.Path
