import MoquiLint.Proofs.CacheFile
import MoquiLint.Proofs.SavedFile

/-!
# A saved cache is loaded as it was

The folders of a cache are made unless they are there, and the file is written in the last one. So saving fails
only if something else stands in the way, and what was saved is loaded again: the same entries, absent lists and
empty ones told apart.
-/
namespace MoquiLint

namespace Disk

open Entry (IsFolderAt IsHosted)

variable {d : Disk} {absolute : Bool} {names more p : List String} {n : String} {ms : List (String × Entry)}

/-! ### Making folders succeeds -/

theorem makeFolder_of_found {path : String} (h : d.locate true path = .ok ⟨p, some (.folder ms)⟩) :
    d.makeFolder path = .ok d := by
  have he : d.entryAt true path = .ok (.folder ms) := entryAt_eq_ok.mpr ⟨p, h⟩
  have hs : d.stat path = .ok (.folder ms) := fail_eq_ok.mpr he
  rw [makeFolder, hs]
  rfl

theorem makeFolder_of_free {path : String} (h : d.locate true path = .ok ⟨p, none⟩)
    (h' : d.locate false path = .ok ⟨p, none⟩) : d.makeFolder path = .ok (d.put p (.folder [])) := by
  have hs : d.stat path = .error ⟨"stat", path, .missing⟩ := by
    simp [stat, entryAt, h, fail, bind, Except.bind, throw, throwThe, MonadExceptOf.throw]
  rw [makeFolder, hs]
  simp [create, h', fail, bind, Except.bind, pure, Except.pure]

theorem foldlM_waysOf_of_found (hg : d.IsGrounded) (hc : Path.IsClean absolute names) (hz : AreTerminated names)
    (h : d.follow true maxLinks (d.origin absolute) names = .ok ⟨p, some (.folder ms)⟩) :
    (waysOf absolute names).foldlM makeFolder d = .ok d := by
  induction names using List.reverseRecOn generalizing p ms with
  | nil => rfl
  | append_singleton names n ih =>
    obtain ⟨q, es, hq⟩ := follow_split (hg.isFolderAt_origin absolute) (List.cons_ne_nil n []) h
    have hlast := makeFolder_of_found ((locate_of_areTerminated hc hz true).trans h)
    rw [waysOf_append_singleton, List.foldlM_append, ih hc.of_append hz.of_append hq]
    exact (foldlM_makeFolder_singleton _ _).trans hlast

/-- A folder is made under a name that is free, or it is there. -/
theorem exists_makeFolder (hg : d.IsGrounded) (hc : Path.IsClean absolute (names ++ [n]))
    (hz : AreTerminated (names ++ [n])) (hn : IsProper n)
    (h : d.follow true maxLinks (d.origin absolute) names = .ok ⟨p, some (.folder ms)⟩)
    (hfree : d.root.at? (p ++ [n]) = none ∨ d.root.IsFolderAt (p ++ [n])) :
    ∃ d' es, d.makeFolder (Path.spell absolute (names ++ [n])) = .ok d' ∧ d'.IsGrounded ∧
      d'.follow true maxLinks (d'.origin absolute) (names ++ [n]) = .ok ⟨p ++ [n], some (.folder es)⟩ ∧
      ∀ rest ≠ [], d'.root.at? (p ++ [n] ++ rest) = none ∨
        d'.root.at? (p ++ [n] ++ rest) = d.root.at? (p ++ [n] ++ rest) := by
  have hrev : (n :: p.reverse).reverse = p ++ [n] := by simp
  obtain ⟨left, -, happend⟩ := follow_append (List.cons_ne_nil n []) h
  rcases hfree with hnone | ⟨es, hes⟩
  · have hfound : ∀ last, d.locate last (Path.spell absolute (names ++ [n])) = .ok ⟨p ++ [n], none⟩ := by
      intro last
      rw [locate_of_areTerminated hc hz, happend, follow_none hn _ _ (hrev ▸ hnone), hrev]
      rfl
    have hmade := makeFolder_of_free (hfound true) (hfound false)
    obtain ⟨hk, hput, hnew⟩ := follow_put_folder hg hn h hnone
    refine ⟨_, [], hmade, hk.isGrounded hg, by rw [hk.origin, hnew], fun rest hr => .inl ?_⟩
    obtain ⟨m, rest, rfl⟩ := List.exists_cons_of_ne_nil hr
    rw [Entry.at?_append, hput]
    rfl
  · have hfound : d.follow true maxLinks (d.origin absolute) (names ++ [n]) = .ok ⟨p ++ [n], some (.folder es)⟩ := by
      rw [happend, follow_folder hn _ _ (hrev ▸ hes), follow_nil, hrev, hes]
    have hmade := makeFolder_of_found ((locate_of_areTerminated hc hz true).trans hfound)
    exact ⟨d, es, hmade, hg, hfound, fun _ _ => .inr rfl⟩

theorem exists_foldlM_waysOf (hg : d.IsGrounded) (hc : Path.IsClean absolute (names ++ more))
    (hz : AreTerminated (names ++ more)) (hm : ∀ n ∈ more, IsProper n)
    (h : d.follow true maxLinks (d.origin absolute) names = .ok ⟨p, some (.folder ms)⟩)
    (hfree : ∀ q, q <+: more → d.root.at? (p ++ q) = none ∨ d.root.IsFolderAt (p ++ q)) :
    ∃ d' es, (waysOf absolute (names ++ more)).foldlM makeFolder d = .ok d' ∧ d'.IsGrounded ∧
      d'.follow true maxLinks (d'.origin absolute) (names ++ more) = .ok ⟨p ++ more, some (.folder es)⟩ ∧
      ∀ rest ≠ [], d'.root.at? (p ++ more ++ rest) = none ∨
        d'.root.at? (p ++ more ++ rest) = d.root.at? (p ++ more ++ rest) := by
  induction more using List.reverseRecOn with
  | nil =>
    rw [List.append_nil] at hc hz ⊢
    rw [List.append_nil]
    exact ⟨d, ms, foldlM_waysOf_of_found hg hc hz h, hg, h, fun _ _ => .inr rfl⟩
  | append_singleton more n ih =>
    -- the folders made so far are free or as they were further down, so the next one can be made
    rw [← List.append_assoc] at hc hz ⊢
    obtain ⟨d₁, es, hmade, hg₁, hfound, hbelow⟩ := ih hc.of_append hz.of_append
      (fun m hmem => hm m (List.mem_append_left _ hmem)) fun q hq => hfree q (hq.trans (List.prefix_append _ _))
    have hlast : d₁.root.at? (p ++ more ++ [n]) = none ∨ d₁.root.IsFolderAt (p ++ more ++ [n]) := by
      rcases hbelow [n] (List.cons_ne_nil n []) with hnone | hsame
      · exact .inl hnone
      · rw [IsFolderAt, hsame, List.append_assoc]
        exact hfree (more ++ [n]) List.prefix_rfl
    obtain ⟨d', es', hmade', hg', hfound', hbelow'⟩ := exists_makeFolder hg₁ hc hz (hm n (by simp)) hfound hlast
    rw [← List.append_assoc]
    refine ⟨d', es', ?_, hg', hfound', fun rest hr => ?_⟩
    · rw [waysOf_append_singleton, List.foldlM_append, hmade]
      exact (foldlM_makeFolder_singleton _ _).trans hmade'
    · rcases hbelow' rest hr with hnone | hsame
      · exact .inl hnone
      · rw [hsame, List.append_assoc _ [n]]
        exact hbelow ([n] ++ rest) (by simp)

theorem exists_write {path : String} (h : d.locate true path = .ok ⟨p, d.root.at? p⟩)
    (hs : IsSlot (d.root.at? p)) (content : Bytes) : ∃ d', d.write path content = .ok d' := by
  refine ⟨d.put p (.file content), ?_⟩
  cases he : d.root.at? p with
  | none =>
    rw [he] at h
    simp [write, h, fail, bind, Except.bind, pure, Except.pure]
  | some e =>
    obtain ⟨c, rfl⟩ := hs e he
    rw [he] at h
    simp [write, h, fail, bind, Except.bind, pure, Except.pure]

/-- A project's directory is there, and nothing stands in the way of a file below it: the folders on the way are
there or free, and so is the file. -/
def HasRoom (d : Disk) (project : String) (folders : List String) (n : String) : Prop :=
  ∃ p ms, d.locate true (Path.clean project) = .ok ⟨p, some (.folder ms)⟩ ∧
    (∀ q, q <+: folders → d.root.at? (p ++ q) = none ∨ d.root.IsFolderAt (p ++ q)) ∧
    IsSlot (d.root.at? (p ++ folders ++ [n]))

theorem HasRoom.exists_write (hg : d.IsGrounded) {project : String} {folders : List String}
    (h : d.HasRoom project folders n) (hn : IsFileName n)
    (hf : ∀ m ∈ folders, IsFileName m) (content : Bytes) :
    ∃ d₁ d', d.makeFolders (Path.spell (Path.isAbsolute project) (Path.segments project ++ folders)) = .ok d₁ ∧
      d₁.write (Path.spell (Path.isAbsolute project) (Path.segments project ++ folders ++ [n])) content = .ok d' := by
  obtain ⟨p, ms, hp, hfree, hslot⟩ := h
  have hclean := Path.isClean_segments project
  have hfolders := hclean.append fun m hm => (hf m hm).name
  have hall := hfolders.append (List.forall_mem_singleton.mpr hn.name)
  have hterm : AreTerminated (Path.segments project ++ folders ++ [n]) :=
    ((areTerminated_of_locate hclean hp).append hf).append (List.forall_mem_singleton.mpr hn)
  rw [Path.clean, locate_of_areTerminated hclean hterm.of_append.of_append] at hp
  obtain ⟨d₁, es, hmade, hg₁, hfound, hbelow⟩ := exists_foldlM_waysOf hg hfolders hterm.of_append
    (fun m hm => (hf m hm).isProper) hp hfree
  have hslot₁ : IsSlot (d₁.root.at? (p ++ folders ++ [n])) := by
    rcases hbelow [n] (List.cons_ne_nil n []) with hnone | hsame
    · rw [hnone]
      simp [IsSlot]
    · rwa [hsame]
  obtain ⟨left, -, happend⟩ := follow_append (List.cons_ne_nil n []) hfound
  have hrev : (n :: (p ++ folders).reverse).reverse = p ++ folders ++ [n] := by simp
  have hlocate : d₁.locate true (Path.spell (Path.isAbsolute project) (Path.segments project ++ folders ++ [n])) =
      .ok ⟨p ++ folders ++ [n], d₁.root.at? (p ++ folders ++ [n])⟩ := by
    rw [locate_of_areTerminated hall hterm, happend, follow_eq, walk_slot hn.isProper (hrev ▸ hslot₁), hrev]
  obtain ⟨d', hd'⟩ := Disk.exists_write hlocate hslot₁ content
  exact ⟨d₁, d', by rw [makeFolders, ways_spell hfolders, hmade], hd'⟩

end Disk

namespace ResultCache

def folders : List String := [".moqlint", "cache"]

theorem folder_eq_spell (project : String) :
    folder project = Path.spell (Path.isAbsolute project) (Path.segments project ++ folders) :=
  Path.join_names project (List.cons_ne_nil _ _) (by decide)

theorem isClean_folder (project : String) :
    Path.IsClean (Path.isAbsolute project) (Path.segments project ++ folders) :=
  (Path.isClean_segments project).append (by decide)

theorem file_eq_spell (project : String) :
    file project = Path.spell (Path.isAbsolute project) (Path.segments project ++ folders ++ ["results.json"]) := by
  have hclean := isClean_folder project
  rw [file, folder_eq_spell, Path.join_names _ (List.cons_ne_nil _ _) (by decide),
    Path.isAbsolute_spell_of_isClean hclean, Path.segments_spell_of_isClean hclean]

theorem save_eq_ok {c : ResultCache} {d d' : Disk} :
    c.save d = .ok d' ↔
      ∃ d₁, d.makeFolders (folder c.projectPath) = .ok d₁ ∧ d₁.write (file c.projectPath) c.written = .ok d' := by
  unfold save
  cases d.makeFolders (folder c.projectPath) <;> simp [bind, Except.bind]

/-- A cache that was saved is loaded as it was, so it answers every request as before; and it is saved if there is
room for its file. -/
theorem saved_cache_loaded {c : ResultCache} (hs : c.IsSorted) {d : Disk} (hg : d.IsGrounded) :
    (∀ d', c.save d = .ok d' → load d' c.projectPath = .ok (some c) ∧
      ∀ k, load d' c.projectPath = .ok (some k) →
        ∀ path hash dialect, k.lookup path hash dialect = c.lookup path hash dialect) ∧
      (d.HasRoom c.projectPath folders "results.json" → ∃ d', c.save d = .ok d') := by
  constructor
  · intro d' hsave
    obtain ⟨d₁, hmade, hwrite⟩ := save_eq_ok.mp hsave
    rw [folder_eq_spell] at hmade
    obtain ⟨_, _, hm⟩ := Disk.made_of_makeFolders hg (isClean_folder c.projectPath) hmade
    obtain ⟨hread, -⟩ := Disk.read?_of_write_eq (hm.keeps.isGrounded hg) hwrite
    have hload : load d' c.projectPath = .ok (some c) := by
      rw [load_of_read? hread]
      simp only [decode_written hs]
    refine ⟨hload, fun k hk path hash dialect => ?_⟩
    rw [hload] at hk
    cases hk
    rfl
  · intro hroom
    obtain ⟨d₁, d', hmade, hwrite⟩ := hroom.exists_write hg (by decide) (by decide) c.written
    rw [← folder_eq_spell] at hmade
    rw [← file_eq_spell] at hwrite
    exact ⟨d', save_eq_ok.mpr ⟨d₁, hmade, hwrite⟩⟩

/-- A list that is absent and one that is empty, in a project without a cache. -/
theorem saved_cache_loaded_absent :
    let d : Disk := { root := .folder [("p", .folder [])] }
    let c : ResultCache := ⟨"/p", "ab", "1", some [("/p/a.xml", ⟨"cd", .entity, ⟨none, some []⟩⟩)]⟩
    ∃ d', c.save d = .ok d' ∧ load d' "/p" = .ok (some c) := by
  intro d c
  have hs : c.IsSorted := List.pairwise_singleton _ _
  have hg : d.IsGrounded := ⟨_, rfl⟩
  have hroom : d.HasRoom "/p" folders "results.json" := by
    refine ⟨["p"], [], rfl, fun q hq => ?_, ?_⟩
    · cases q with
      | nil => exact .inr ⟨[], rfl⟩
      | cons m q => exact .inl rfl
    · have hfree : d.root.at? (["p"] ++ folders ++ ["results.json"]) = none := rfl
      rw [hfree]
      simp [Disk.IsSlot]
  obtain ⟨d', hd'⟩ := (saved_cache_loaded hs hg).2 hroom
  exact ⟨d', hd', ((saved_cache_loaded hs hg).1 d' hd').1⟩

end ResultCache

end MoquiLint
