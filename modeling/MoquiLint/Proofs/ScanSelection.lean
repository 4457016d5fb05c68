import Mathlib.Algebra.GroupWithZero.Nat
import Mathlib.Data.List.Infix
import Mathlib.Data.List.Nodup
import MoquiLint.Proofs.ByteOrder
import MoquiLint.Proofs.CleanPath
import MoquiLint.Scan

/-!
# What a scan selects

A scan walks a tree and prunes it on the way. Here everything below the root is one list and each entry is
judged on its own, by its place and the folders above it. The walk is proved to find what the entries that
it reaches give one by one.
-/
namespace MoquiLint

/-! ### The entries of a tree -/

abbrev Placed := List String × Entry

namespace Entry

mutual

def entries (names : List String) : Entry → List Placed
  | .folder ms => entriesOf names ms
  | _ => []

def entriesOf (names : List String) : List (String × Entry) → List Placed
  | [] => []
  | (n, e) :: ms => (names ++ [n], e) :: (entries (names ++ [n]) e ++ entriesOf names ms)

end

/-- A tree whose folders hold every name once. -/
inductive IsTree : Entry → Prop
  | file (content : Bytes) : IsTree (.file content)
  | link (target : String) : IsTree (.link target)
  | socket : IsTree .socket
  | folder {ms : List (String × Entry)} (distinct : (ms.map Prod.fst).Nodup)
      (names : ∀ m ∈ ms, Path.IsName m.1) (members : ∀ m ∈ ms, IsTree m.2) : IsTree (.folder ms)

mutual

def isTree : Entry → Bool
  | .folder ms => (ms.map Prod.fst).Nodup && areTrees ms
  | _ => true

def areTrees : List (String × Entry) → Bool
  | [] => true
  | (n, e) :: ms => Path.IsName n && isTree e && areTrees ms

end

mutual

theorem isTree_iff : ∀ e : Entry, e.isTree = true ↔ e.IsTree
  | .file content => iff_of_true rfl (.file content)
  | .link target => iff_of_true rfl (.link target)
  | .socket => iff_of_true rfl .socket
  | .folder ms => by
    rw [isTree, Bool.and_eq_true, decide_eq_true_iff, areTrees_iff ms]
    constructor
    · rintro ⟨distinct, hms⟩
      exact .folder distinct (fun m hm => (hms m hm).1) fun m hm => (hms m hm).2
    · rintro (_ | _ | _ | ⟨distinct, names, members⟩)
      exact ⟨distinct, fun m hm => ⟨names m hm, members m hm⟩⟩

theorem areTrees_iff : ∀ ms, areTrees ms = true ↔ ∀ m ∈ ms, Path.IsName m.1 ∧ m.2.IsTree
  | [] => by simp [areTrees]
  | (n, e) :: ms => by simp [areTrees, isTree_iff e, areTrees_iff ms]

end

instance (e : Entry) : Decidable e.IsTree := decidable_of_iff _ (isTree_iff e)

mutual

theorem exists_append_of_mem_entries {names : List String} {e : Entry} {p : Placed}
    (hp : p ∈ entries names e) : ∃ rel, rel ≠ [] ∧ p.1 = names ++ rel := by
  cases e with
  | folder ms =>
    rw [entries] at hp
    obtain ⟨n, -, rel, he⟩ := exists_name_of_mem_entriesOf hp
    exact ⟨n :: rel, by simp, he⟩
  | file | link | socket => simp [entries] at hp

theorem exists_name_of_mem_entriesOf {names : List String} {ms : List (String × Entry)} {p : Placed}
    (hp : p ∈ entriesOf names ms) : ∃ n ∈ ms.map Prod.fst, ∃ rel, p.1 = names ++ n :: rel := by
  cases ms with
  | nil => simp [entriesOf] at hp
  | cons m ms =>
    obtain ⟨n, e⟩ := m
    rw [entriesOf, List.mem_cons, List.mem_append] at hp
    rcases hp with rfl | hp | hp
    · exact ⟨n, by simp, [], rfl⟩
    · obtain ⟨rel, -, he⟩ := exists_append_of_mem_entries hp
      exact ⟨n, by simp, rel, by simp [he]⟩
    · obtain ⟨k, hk, rel, he⟩ := exists_name_of_mem_entriesOf hp
      exact ⟨k, List.mem_cons_of_mem n hk, rel, he⟩

end

mutual

theorem isName_of_mem_entries {names : List String} {e : Entry} (ht : e.IsTree)
    (hn : ∀ n ∈ names, Path.IsName n) {p : Placed} (hp : p ∈ entries names e) : ∀ n ∈ p.1, Path.IsName n := by
  cases ht with
  | folder distinct hnames hm =>
    rw [entries] at hp
    exact isName_of_mem_entriesOf hnames hm hn hp
  | file | link | socket => simp [entries] at hp

theorem isName_of_mem_entriesOf {names : List String} {ms : List (String × Entry)}
    (hnames : ∀ m ∈ ms, Path.IsName m.1) (hm : ∀ m ∈ ms, m.2.IsTree) (hn : ∀ n ∈ names, Path.IsName n)
    {p : Placed} (hp : p ∈ entriesOf names ms) : ∀ n ∈ p.1, Path.IsName n := by
  cases ms with
  | nil => simp [entriesOf] at hp
  | cons m ms =>
    obtain ⟨n, e⟩ := m
    rw [List.forall_mem_cons] at hnames hm
    have hn' : ∀ k ∈ names ++ [n], Path.IsName k := by
      simpa [or_imp, forall_and] using And.intro hn hnames.1
    rw [entriesOf, List.mem_cons, List.mem_append] at hp
    rcases hp with rfl | hp | hp
    · exact hn'
    · exact isName_of_mem_entries hm.1 hn' hp
    · exact isName_of_mem_entriesOf hnames.2 hm.2 hn hp

end

mutual

theorem nodup_entries {names : List String} {e : Entry} (ht : e.IsTree) :
    ((entries names e).map Prod.fst).Nodup := by
  cases ht with
  | folder distinct hnames hm =>
    rw [entries]
    exact nodup_entriesOf distinct hm
  | file | link | socket => simp [entries]

theorem nodup_entriesOf {names : List String} {ms : List (String × Entry)}
    (hd : (ms.map Prod.fst).Nodup) (hm : ∀ m ∈ ms, m.2.IsTree) :
    ((entriesOf names ms).map Prod.fst).Nodup := by
  cases ms with
  | nil => simp [entriesOf]
  | cons m ms =>
    obtain ⟨n, e⟩ := m
    rw [List.map_cons, List.nodup_cons] at hd
    rw [List.forall_mem_cons] at hm
    -- what stands behind other names differs in the name after the common part
    have hother : ∀ p ∈ entriesOf names ms, ∀ rel, p.1 ≠ names ++ n :: rel := by
      intro p hp rel hpe
      obtain ⟨k, hk, rel', hpk⟩ := exists_name_of_mem_entriesOf hp
      rw [hpk, List.append_cancel_left_eq, List.cons.injEq] at hpe
      exact hd.1 (hpe.1 ▸ hk)
    rw [entriesOf, List.map_cons, List.map_append, List.nodup_cons, List.nodup_append]
    refine ⟨?_, nodup_entries hm.1, nodup_entriesOf hd.2 hm.2, ?_⟩
    · intro hmem
      rw [List.mem_append, List.mem_map, List.mem_map] at hmem
      rcases hmem with ⟨p, hp, hpe⟩ | ⟨p, hp, hpe⟩
      · obtain ⟨rel, hrel, hpr⟩ := exists_append_of_mem_entries hp
        rw [hpr] at hpe
        exact hrel (by simpa using hpe)
      · exact hother p hp [] hpe
    · intro x hx y hy hxy
      obtain ⟨p, hp, rfl⟩ := List.mem_map.mp hx
      obtain ⟨q, hq, rfl⟩ := List.mem_map.mp hy
      obtain ⟨rel, -, hpr⟩ := exists_append_of_mem_entries hp
      refine hother q hq rel ?_
      rw [← hxy, hpr]
      simp

end

end Entry

namespace Scan

/-! ### The walk, entry by entry -/

namespace Found

def total (fs : List Found) : Found := fs.foldr append {}

theorem empty_append (f : Found) : append {} f = f := by
  simp [append]

theorem append_empty (f : Found) : f.append {} = f := by
  simp [append]

theorem append_assoc (f g h : Found) : (f.append g).append h = f.append (g.append h) := by
  simp [append, Nat.add_assoc]

theorem total_cons (f : Found) (fs : List Found) : total (f :: fs) = f.append (total fs) := rfl

theorem total_append (fs gs : List Found) : total (fs ++ gs) = (total fs).append (total gs) := by
  induction fs with
  | nil => exact (empty_append _).symm
  | cons f fs ih => rw [List.cons_append, total_cons, total_cons, ih, append_assoc]

theorem files_total (fs : List Found) : (total fs).files = fs.flatMap files := by
  induction fs with
  | nil => rfl
  | cons f fs ih => rw [total_cons, append, ih, List.flatMap_cons]

theorem skipped_total (fs : List Found) : (total fs).skipped = (fs.map skipped).sum := by
  induction fs with
  | nil => rfl
  | cons f fs ih => rw [total_cons, append, ih, List.map_cons, List.sum_cons]

end Found

section Walk

variable {look : List String → Found} {stop? : List String → Option Found}

/-- Whether a walk gets to a place: nothing ends it at a folder on the way. -/
def IsReached (stop? : List String → Option Found) (names : List String) : Prop :=
  ∀ way ∈ names.inits, way ≠ names → stop? way = none

instance (names : List String) : Decidable (IsReached stop? names) :=
  decidable_of_iff (∀ way ∈ names.inits, way ≠ names → (stop? way).isNone = true) (by simp [IsReached])

/-- What a walk finds at an entry itself, whatever lies below it. -/
def found (look : List String → Found) (stop? : List String → Option Found) (p : Placed) : Found :=
  if p.2.isFolder then (stop? p.1).getD {} else look p.1

/-- What a walk finds among entries, each of which counts if it is reached. -/
def foundAmong (look : List String → Found) (stop? : List String → Option Found) (ps : List Placed) : Found :=
  Found.total ((ps.filter fun p => IsReached stop? p.1).map (found look stop?))

theorem foundAmong_append (ps qs : List Placed) :
    foundAmong look stop? (ps ++ qs) = (foundAmong look stop? ps).append (foundAmong look stop? qs) := by
  rw [foundAmong, List.filter_append, List.map_append, Found.total_append]
  rfl

theorem foundAmong_cons {p : Placed} (h : IsReached stop? p.1) (ps : List Placed) :
    foundAmong look stop? (p :: ps) = (found look stop? p).append (foundAmong look stop? ps) := by
  rw [foundAmong, List.filter_cons_of_pos (by simpa using h), List.map_cons, Found.total_cons]
  rfl

theorem isReached_nil : IsReached stop? [] := by
  intro way hw hne
  exact absurd (by simpa using hw) hne

theorem isReached_child {names : List String} (h : IsReached stop? names) (hs : stop? names = none)
    (n : String) : IsReached stop? (names ++ [n]) := by
  intro way hw hne
  rw [List.mem_inits, List.prefix_concat_iff] at hw
  rcases hw with rfl | hw
  · exact absurd rfl hne
  · by_cases he : way = names
    · exact he ▸ hs
    · exact h way ((List.mem_inits _ _).mpr hw) he

/-- Nothing below a folder where the walk ends is reached. -/
theorem foundAmong_entries_of_stop {names : List String} {f : Found} (hs : stop? names = some f) (e : Entry) :
    foundAmong look stop? (e.entries names) = {} := by
  have hnone : ∀ p ∈ e.entries names, ¬ IsReached stop? p.1 := by
    intro p hp h
    obtain ⟨rel, hrel, he⟩ := Entry.exists_append_of_mem_entries hp
    have hnil := h names ((List.mem_inits _ _).mpr (he ▸ List.prefix_append _ _)) (by simpa [he] using hrel)
    rw [hs] at hnil
    cases hnil
  rw [foundAmong, List.filter_eq_nil_iff.mpr (by simpa using hnone)]
  rfl

mutual

/-- A walk finds what the entries it reaches give one by one. -/
theorem visit_eq {names : List String} (h : IsReached stop? names) (e : Entry) :
    visit look stop? names e =
      (found look stop? (names, e)).append (foundAmong look stop? (e.entries names)) := by
  cases e with
  | folder ms =>
    rw [visit, found, if_pos (by rfl)]
    cases hs : stop? names with
    | some f => rw [foundAmong_entries_of_stop hs, Found.append_empty, Option.getD_some]
    | none =>
      rw [Option.getD_none, Found.empty_append, Entry.entries]
      exact visitAll_eq (isReached_child h hs) ms
  | file | link | socket => exact (Found.append_empty _).symm

theorem visitAll_eq {names : List String} (h : ∀ n, IsReached stop? (names ++ [n]))
    (ms : List (String × Entry)) :
    visitAll look stop? names ms = foundAmong look stop? (Entry.entriesOf names ms) := by
  cases ms with
  | nil => rfl
  | cons m ms =>
    obtain ⟨n, e⟩ := m
    rw [visitAll, Entry.entriesOf, foundAmong_cons (h n), foundAmong_append, visit_eq (h n) e, visitAll_eq h ms,
      Found.append_assoc]

end

end Walk

/-! ### Places -/

section Places

variable {root : String}

/-- Different places below a root have different paths. -/
theorem place_injective (hr : Path.isAbsolute root = true) (hc : Path.clean root = root)
    {names names' : List String} (h : ∀ n ∈ names, Path.IsName n) (h' : ∀ n ∈ names', Path.IsName n)
    (he : place root names = place root names') : names = names' := by
  have hs := Path.isName_of_mem_segments hr
  have happ : ∀ {ns : List String}, (∀ n ∈ ns, Path.IsName n) →
      ∀ n ∈ Path.segments root ++ ns, Path.IsName n := by
    intro ns hns n hn
    rcases List.mem_append.mp hn with hn | hn
    · exact hs n hn
    · exact hns n hn
  rw [place, place, ← hc, Path.clean_eq_spell hr, Path.join_spell hs h, Path.join_spell hs h'] at he
  exact List.append_cancel_left (Path.spell_injective (happ h) (happ h') he)

theorem place_nil (hr : Path.isAbsolute root = true) (hc : Path.clean root = root) : place root [] = root := by
  rw [place, ← hc, Path.clean_eq_spell hr, Path.join_spell (Path.isName_of_mem_segments hr) (by simp),
    List.append_nil]

theorem place_ne_root (hr : Path.isAbsolute root = true) (hc : Path.clean root = root)
    {names : List String} (hne : names ≠ []) (h : ∀ n ∈ names, Path.IsName n) : place root names ≠ root := by
  intro he
  exact hne (place_injective hr hc h (by simp) (he.trans (place_nil hr hc).symm))

theorem place_place (hr : Path.isAbsolute root = true) (hc : Path.clean root = root) {dirs names : List String}
    (hd : ∀ n ∈ dirs, Path.IsName n) (hn : ∀ n ∈ names, Path.IsName n) :
    place (place root dirs) names = place root (dirs ++ names) := by
  have hs := Path.isName_of_mem_segments hr
  have hsd : ∀ n ∈ Path.segments root ++ dirs, Path.IsName n := by
    simpa [or_imp, forall_and] using And.intro hs hd
  have hdn : ∀ n ∈ dirs ++ names, Path.IsName n := by
    simpa [or_imp, forall_and] using And.intro hd hn
  rw [← hc, Path.clean_eq_spell hr]
  unfold place
  rw [Path.join_spell hs hd, Path.join_spell hsd hn, Path.join_spell hs hdn, List.append_assoc]

end Places

/-! ### What is pruned -/

section Judged

variable (a : Access) (root : String) (dialect : Dialect) (cfg : Config)

/-- Whether the ignore file of the root leaves out a path. Without such a file, and if ignore files are not
respected, none is left out. -/
def IsIgnored (rel : String) : Prop :=
  cfg.usesGitignore = true ∧
    ∃ content, a.read (Path.join [root, ".gitignore"]) = .ok content ∧
      Ignore.ignores (Ignore.patterns content) rel = true

/-- Whether a configuration excludes a directory of this name or relative path: it gives the name or path with a slash
behind it, or as it is, where a slash at its end would be one too many. -/
def IsExcluded (t : String) : Prop :=
  ∃ p ∈ cfg.excludePaths.getD [],
    p = Text.ofString t ++ [.char '/'] ∨ p = Text.ofString t ∧ p.getLast? ≠ some (.char '/')

/-- A directory that is not entered: by its name, by its relative path or by the ignore file. -/
def IsPruned (names : List String) : Prop :=
  names.getLastD "" ∈ skippedNames ∨ IsExcluded cfg (names.getLastD "") ∨
    IsExcluded cfg (relativePath names) ∨ IsIgnored a root cfg (relativePath names ++ "/")

/-- No directory strictly between the root and this place is pruned. -/
def IsOpen (names : List String) : Prop :=
  ∀ way ∈ names.inits, way ≠ [] → way ≠ names → ¬ IsPruned a root cfg way

variable {a root dialect cfg}

theorem ignores_iff (rel : String) :
    Ignore.ignores (criteria a root dialect cfg).ignore rel = true ↔ IsIgnored a root cfg rel := by
  have hnil : Ignore.ignores [] rel = false := rfl
  unfold criteria IsIgnored ignoreFile
  cases cfg.usesGitignore with
  | false => simp [hnil]
  | true =>
    cases h : a.read (Path.join [root, ".gitignore"]) with
    | ok content => simp
    | error f => simp [hnil]

theorem dropSlash_eq_iff {p t : Text} :
    dropSlash p = t ↔ p = t ++ [.char '/'] ∨ p = t ∧ p.getLast? ≠ some (.char '/') := by
  unfold dropSlash
  by_cases h : p.getLast? = some (.char '/')
  · obtain ⟨front, rfl⟩ := List.getLast?_eq_some_iff.mp h
    simp
  · have hne : p ≠ t ++ [.char '/'] := by
      rintro rfl
      exact h (List.getLast?_concat)
    simp [h, hne]

theorem prunes_iff (names : List String) :
    (criteria a root dialect cfg).prunes (names.getLastD "") (relativePath names) = true ↔
      IsPruned a root cfg names := by
  have hex : ∀ t : String, (criteria a root dialect cfg).folders.contains (Text.ofString t) = true ↔
      IsExcluded cfg t := by
    intro t
    simp [criteria, IsExcluded, dropSlash_eq_iff]
  simp only [Criteria.prunes, Bool.or_eq_true, hex, ignores_iff, List.contains_iff_mem, or_assoc, IsPruned]

theorem leavesOut_iff (rel : String) : (criteria a root dialect cfg).leavesOut rel = true ↔
    Glob.matchesAny (cfg.excludeGlobs.getD []) rel = true ∨ IsIgnored a root cfg rel := by
  rw [Criteria.leavesOut, Bool.or_eq_true, ignores_iff]
  rfl

instance (rel : String) : Decidable (IsIgnored a root cfg rel) :=
  decidable_of_iff _ (@ignores_iff a root .auto cfg rel)

instance (names : List String) : Decidable (IsPruned a root cfg names) :=
  decidable_of_iff _ (@prunes_iff a root .auto cfg names)

instance (names : List String) : Decidable (IsOpen a root cfg names) := List.decidableBAll _ _

/-- Whether the folders above a place can be looked into, so that listing them shows what is there. -/
def IsListed (a : Access) (root : String) (names : List String) : Prop :=
  ∀ way ∈ names.inits, way ≠ names → a.enter (place root way) = .ok ()

theorem stop?_eq_none_iff (names : List String) :
    (criteria a root dialect cfg).stop? a root names = none ↔
      (names ≠ [] → ¬ IsPruned a root cfg names) ∧ a.enter (place root names) = .ok () := by
  rw [Criteria.stop?]
  simp only [Bool.and_eq_true, prunes_iff, Bool.not_eq_true', List.isEmpty_eq_false_iff]
  split
  · rename_i h
    simp [h.1, h.2]
  · rename_i h
    cases a.enter (place root names) with
    | error f => simp
    | ok u => simpa using h

/-- A scan gets to what listing shows below no pruned directory. -/
theorem isReached_iff (names : List String) :
    IsReached ((criteria a root dialect cfg).stop? a root) names ↔
      IsListed a root names ∧ IsOpen a root cfg names := by
  simp only [IsReached, stop?_eq_none_iff, IsListed, IsOpen]
  constructor
  · intro h
    exact ⟨fun way hw hne => (h way hw hne).2, fun way hw he hne => (h way hw hne).1 he⟩
  · rintro ⟨hl, ho⟩ way hw hne
    exact ⟨fun he => ho way hw he hne, hl way hw hne⟩

/-! ### What is found at an entry -/

variable (a root dialect cfg) in
/-- What a scan takes a file for, whatever stands above it. -/
structure Takes (names : List String) (d : Dialect) : Prop where
  isXml : Path.isXml (place root names) = true
  notExcluded : Glob.matchesAny (cfg.excludeGlobs.getD []) (relativePath names) = false
  notIgnored : ¬ IsIgnored a root cfg (relativePath names)
  sniffed : ∃ content, a.read (place root names) = .ok content ∧ Sniff.classify content dialect = some d

variable (a root dialect cfg) in
/-- A file that a scan selects, as the given candidate. -/
structure Selects (p : Placed) (f : Candidate) : Prop extends Takes a root dialect cfg p.1 f.dialect where
  path : f.path = place root p.1
  notFolder : p.2.isFolder = false
  isOpen : IsOpen a root cfg p.1

variable (root) in
def IsXmlFile (p : Placed) : Prop := p.2.isFolder = false ∧ Path.isXml (place root p.1) = true

variable (a root cfg) in
def IsUnreadable (p : Placed) : Prop :=
  p.2.isFolder = true ∧ ¬ IsPruned a root cfg p.1 ∧ a.enter (place root p.1) ≠ .ok ()

instance (names : List String) : Decidable (IsListed a root names) := List.decidableBAll _ _

instance (p : Placed) : Decidable (IsXmlFile root p) := instDecidableAnd

instance (p : Placed) : Decidable (IsUnreadable a root cfg p) := instDecidableAnd

variable (a root dialect cfg) in
/-- A look at a file gives one candidate, or else counts the file if it has the extension of XML. -/
theorem look_cases (names : List String) :
    (∃ d, Takes a root dialect cfg names d ∧
        ((criteria a root dialect cfg).look a root names).files = [⟨place root names, d⟩] ∧
        ((criteria a root dialect cfg).look a root names).skipped = 0) ∨
      ((∀ d, ¬ Takes a root dialect cfg names d) ∧
        ((criteria a root dialect cfg).look a root names).files = [] ∧
        ((criteria a root dialect cfg).look a root names).skipped =
          if Path.isXml (place root names) = true then 1 else 0) := by
  have hd : (criteria a root dialect cfg).dialect = dialect := rfl
  unfold Criteria.look
  simp only [hd]
  by_cases hx : Path.isXml (place root names) = true
  · rw [if_neg (by simp [hx])]
    by_cases hl : (criteria a root dialect cfg).leavesOut (relativePath names) = true
    · have hn : ∀ d, ¬ Takes a root dialect cfg names d := by
        intro d h
        rcases leavesOut_iff _ |>.mp hl with hg | hi
        · exact absurd (h.notExcluded.symm.trans hg) (by decide)
        · exact h.notIgnored hi
      rw [if_pos hl]
      exact .inr ⟨hn, rfl, by simp [hx]⟩
    · have hl' := (not_congr (leavesOut_iff _)).mp hl
      rw [not_or, Bool.not_eq_true] at hl'
      rw [if_neg hl]
      cases hr : a.read (place root names) with
      | error f => exact .inr ⟨fun d h => by simpa [hr] using h.sniffed, rfl, by simp [hx]⟩
      | ok content =>
        cases hs : Sniff.classify content dialect with
        | none => exact .inr ⟨fun d h => by simpa [hr, hs] using h.sniffed, by simp [hs], by simp [hs, hx]⟩
        | some d => exact .inl ⟨d, ⟨hx, hl'.1, hl'.2, content, hr, hs⟩, by simp [hs], by simp [hs]⟩
  · rw [if_pos (by simp [hx])]
    exact .inr ⟨fun d h => hx h.isXml, rfl, by simp [hx]⟩

theorem Takes.unique {names : List String} {d d' : Dialect} (h : Takes a root dialect cfg names d)
    (h' : Takes a root dialect cfg names d') : d = d' := by
  obtain ⟨content, hr, hs⟩ := h.sniffed
  obtain ⟨content', hr', hs'⟩ := h'.sniffed
  cases hr.symm.trans hr'
  exact Option.some.inj (hs.symm.trans hs')

theorem files_stop? (names : List String) :
    (((criteria a root dialect cfg).stop? a root names).getD {}).files = [] := by
  rw [Criteria.stop?]
  split
  · rfl
  · split <;> rfl

theorem skipped_stop? {names : List String} (hne : names ≠ []) (hroot : place root names ≠ root) :
    (((criteria a root dialect cfg).stop? a root names).getD {}).skipped =
      if ¬ IsPruned a root cfg names ∧ a.enter (place root names) ≠ .ok () then 1 else 0 := by
  have hu : (unreadable root (place root names) true).skipped = 1 := by
    simp [unreadable, hroot, Unreadable.skipped]
  rw [Criteria.stop?]
  by_cases hp : IsPruned a root cfg names
  · rw [if_pos (by simpa [hne] using (prunes_iff names).mpr hp)]
    simp [hp]
  · have hp' := (not_congr (@prunes_iff a root dialect cfg names)).mpr hp
    rw [if_neg (by simpa [hne] using hp')]
    cases a.enter (place root names) with
    | error f => simp [hp, hu]
    | ok u => simp

variable (a root dialect cfg) in
def foundAt (p : Placed) : Found :=
  found ((criteria a root dialect cfg).look a root) ((criteria a root dialect cfg).stop? a root) p

variable {p : Placed}

theorem mem_files_foundAt {f : Candidate} :
    f ∈ (foundAt a root dialect cfg p).files ↔
      p.2.isFolder = false ∧ f.path = place root p.1 ∧ Takes a root dialect cfg p.1 f.dialect := by
  rw [foundAt, found]
  split
  · rename_i h
    simp [files_stop?, h]
  · rename_i h
    obtain ⟨path, d⟩ := f
    rcases look_cases a root dialect cfg p.1 with
      ⟨d', ht, hf, -⟩ | ⟨hn, hf, -⟩
    · rw [hf, List.mem_singleton, Candidate.mk.injEq]
      constructor
      · rintro ⟨rfl, rfl⟩
        exact ⟨by simpa using h, rfl, ht⟩
      · rintro ⟨-, hpath, ht'⟩
        exact ⟨hpath, ht'.unique ht⟩
    · simp [hf, hn]

theorem count_foundAt (hne : p.1 ≠ []) (hroot : place root p.1 ≠ root) :
    (foundAt a root dialect cfg p).files.length + (foundAt a root dialect cfg p).skipped =
      (if IsXmlFile root p then 1 else 0) + if IsUnreadable a root cfg p then 1 else 0 := by
  rw [foundAt, found]
  split
  · rename_i h
    rw [files_stop?, skipped_stop? hne hroot]
    simp [IsXmlFile, IsUnreadable, h]
  · rename_i h
    rcases look_cases a root dialect cfg p.1 with
      ⟨d', ht, hf, hs⟩ | ⟨hn, hf, hs⟩
    · simp [hf, hs, IsXmlFile, IsUnreadable, h, ht.isXml]
    · simp [hf, hs, IsXmlFile, IsUnreadable, h]

theorem paths_foundAt (p : Placed) :
    ((foundAt a root dialect cfg p).files.map Candidate.path).Sublist [place root p.1] := by
  rw [foundAt, found]
  split
  · rw [files_stop?]
    exact List.nil_sublist _
  · rcases look_cases a root dialect cfg p.1 with ⟨d, -, hf, -⟩ | ⟨-, hf, -⟩
    · rw [hf]
      exact List.Sublist.refl _
    · rw [hf]
      exact List.nil_sublist _

theorem paths_flatMap_foundAt (ps : List Placed) :
    ((ps.flatMap fun p => (foundAt a root dialect cfg p).files).map Candidate.path).Sublist
      (ps.map fun p => place root p.1) := by
  induction ps with
  | nil => exact List.nil_sublist _
  | cons p ps ih =>
    rw [List.flatMap_cons, List.map_append, List.map_cons, ← List.singleton_append]
    exact (paths_foundAt p).append ih

theorem count_flatMap_foundAt {ps : List Placed} (h : ∀ p ∈ ps, p.1 ≠ [] ∧ place root p.1 ≠ root) :
    (ps.flatMap fun p => (foundAt a root dialect cfg p).files).length +
        (ps.map fun p => (foundAt a root dialect cfg p).skipped).sum =
      ps.countP (fun p => IsXmlFile root p) + ps.countP (fun p => IsUnreadable a root cfg p) := by
  induction ps with
  | nil => rfl
  | cons p ps ih =>
    rw [List.forall_mem_cons] at h
    have hp := @count_foundAt a root dialect cfg p h.1.1 h.1.2
    have ih := ih h.2
    rw [List.flatMap_cons, List.length_append, List.map_cons, List.sum_cons, List.countP_cons,
      List.countP_cons]
    simp only [decide_eq_true_eq]
    omega

end Judged

/-! ### The selection -/

/-- The entries below a root that listing the folders shows. -/
def listed (a : Access) (root : String) (e : Entry) : List Placed :=
  (e.entries []).filter fun p => IsListed a root p.1

/-- The listed entries below no pruned directory. -/
def visited (a : Access) (root : String) (cfg : Config) (e : Entry) : List Placed :=
  (listed a root e).filter fun p => IsOpen a root cfg p.1

section Selection

variable {a : Access} {root : String} {dialect : Dialect} {cfg : Config} {ms : List (String × Entry)}

/-- A walk from the root finds what the visited entries give one by one. -/
theorem visit_root (hr : Path.isAbsolute root = true) (hc : Path.clean root = root)
    (hroot : a.enter root = .ok ()) (ms : List (String × Entry)) (dialect : Dialect) (cfg : Config) :
    visit ((criteria a root dialect cfg).look a root) ((criteria a root dialect cfg).stop? a root) []
        (.folder ms) =
      Found.total ((visited a root cfg (.folder ms)).map (foundAt a root dialect cfg)) := by
  have hstop : (criteria a root dialect cfg).stop? a root [] = none := by
    rw [stop?_eq_none_iff, place_nil hr hc]
    exact ⟨fun h => absurd rfl h, hroot⟩
  have hfilter : ((Entry.folder ms).entries []).filter
        (fun p => IsReached ((criteria a root dialect cfg).stop? a root) p.1) =
      visited a root cfg (.folder ms) := by
    rw [visited, listed, List.filter_filter]
    refine List.filter_congr fun p _ => ?_
    simp [isReached_iff, Bool.and_comm]
  rw [visit_eq isReached_nil, found, if_pos (by rfl), hstop, Option.getD_none, Found.empty_append, foundAmong,
    hfilter]
  rfl

theorem found_of_survey {e : Entry} {r : Result} (h : survey a root dialect cfg e = .ok r) :
    let c := criteria a root dialect cfg
    let found := visit (c.look a root) (c.stop? a root) [] e
    r.files = found.files.mergeSort (fun f g => Str.le f.path g.path) ∧ r.skipped = found.skipped := by
  unfold survey at h
  split at h
  · cases h
  · cases h
    exact ⟨rfl, rfl⟩

theorem run_eq_survey {d : Disk} {root : String} {e : Entry} (he : d.lstat (d.absolute root) = .ok e) :
    run d root dialect cfg = survey ⟨d.read, d.enter⟩ (d.absolute root) dialect cfg e := by
  simp [run, he, bind, Except.bind]

theorem takes_of_mem_survey {e : Entry} {r : Result} (h : survey a root dialect cfg e = .ok r) {f : Candidate}
    (hf : f ∈ r.files) : ∃ names, f.path = place root names ∧ Takes a root dialect cfg names f.dialect := by
  have hof : ∀ p, f ∈ (foundAt a root dialect cfg p).files →
      ∃ names, f.path = place root names ∧ Takes a root dialect cfg names f.dialect := fun p hp =>
    ⟨p.1, (mem_files_foundAt.mp hp).2⟩
  rw [(found_of_survey h).1, List.mem_mergeSort, visit_eq isReached_nil, Found.append, List.mem_append] at hf
  rcases hf with hf | hf
  · exact hof _ hf
  · rw [foundAmong, Found.files_total, List.mem_flatMap] at hf
    obtain ⟨g, hg, hf⟩ := hf
    obtain ⟨p, -, rfl⟩ := List.mem_map.mp hg
    exact hof p hf

/-- A scan of a root that can be looked into has an outcome, to which every visited entry contributes. -/
theorem survey_folder (hr : Path.isAbsolute root = true) (hc : Path.clean root = root)
    (hroot : a.enter root = .ok ()) (ms : List (String × Entry)) (dialect : Dialect) (cfg : Config) :
    let ps := visited a root cfg (.folder ms)
    ∃ r, survey a root dialect cfg (.folder ms) = .ok r ∧
      r.files = (ps.flatMap fun p => (foundAt a root dialect cfg p).files).mergeSort
        (fun f g => Str.le f.path g.path) ∧
      r.skipped = (ps.map fun p => (foundAt a root dialect cfg p).skipped).sum := by
  obtain ⟨r, hsurvey⟩ : ∃ r, survey a root dialect cfg (.folder ms) = .ok r := by
    unfold survey
    rw [hroot]
    exact ⟨_, rfl⟩
  obtain ⟨hfiles, hskipped⟩ := found_of_survey hsurvey
  rw [visit_root hr hc hroot ms dialect cfg] at hfiles hskipped
  rw [Found.files_total, List.flatMap_map] at hfiles
  rw [Found.skipped_total, List.map_map] at hskipped
  exact ⟨r, hsurvey, hfiles, hskipped⟩

theorem of_mem_listed (hr : Path.isAbsolute root = true) (hc : Path.clean root = root) {e : Entry}
    (ht : e.IsTree) {p : Placed} (hp : p ∈ listed a root e) :
    p.1 ≠ [] ∧ (∀ n ∈ p.1, Path.IsName n) ∧ place root p.1 ≠ root := by
  have hmem := List.mem_of_mem_filter hp
  obtain ⟨rel, hrel, he⟩ := Entry.exists_append_of_mem_entries hmem
  have hne : p.1 ≠ [] := by simpa [he] using hrel
  have hn := Entry.isName_of_mem_entries ht (by simp) hmem
  exact ⟨hne, hn, place_ne_root hr hc hne hn⟩

theorem nodup_places (hr : Path.isAbsolute root = true) (hc : Path.clean root = root) {e : Entry}
    (ht : e.IsTree) : ((listed a root e).map fun p => place root p.1).Nodup := by
  have hn : ((listed a root e).map Prod.fst).Nodup :=
    (List.filter_sublist.map Prod.fst).nodup (Entry.nodup_entries ht)
  rw [List.nodup_iff_pairwise_ne, List.pairwise_map] at hn ⊢
  refine hn.imp_of_mem fun {p q} hp hq hne he => hne ?_
  exact place_injective hr hc (of_mem_listed hr hc ht hp).2.1 (of_mem_listed hr hc ht hq).2.1 he

/-- A scan of a root that can be looked into succeeds. It selects, in the order of their bytes, exactly the
listed files that qualify, and every listed file with the extension of XML below no pruned directory is
selected or counted as skipped, as is every directory that cannot be looked into. -/
theorem survey_selects (hr : Path.isAbsolute root = true) (hc : Path.clean root = root)
    (hroot : a.enter root = .ok ()) (ht : (Entry.folder ms).IsTree) (dialect : Dialect) (cfg : Config) :
    ∃ r, survey a root dialect cfg (.folder ms) = .ok r ∧
      r.files.Pairwise (fun f g => utf8 f.path < utf8 g.path) ∧
      (∀ f, f ∈ r.files ↔ ∃ p ∈ listed a root (.folder ms), Selects a root dialect cfg p f) ∧
      r.files.length + r.skipped =
        (listed a root (.folder ms)).countP (fun p => IsXmlFile root p ∧ IsOpen a root cfg p.1) +
        (listed a root (.folder ms)).countP (fun p => IsUnreadable a root cfg p ∧ IsOpen a root cfg p.1) := by
  obtain ⟨r, hsurvey, hfiles, hskipped⟩ := survey_folder hr hc hroot ms dialect cfg
  have hmem : ∀ p, p ∈ visited a root cfg (.folder ms) ↔
      p ∈ listed a root (.folder ms) ∧ IsOpen a root cfg p.1 := by
    simp [visited]
  refine ⟨r, hsurvey, ?_, ?_, ?_⟩
  · have hplaces : ((visited a root cfg (.folder ms)).map fun p => place root p.1).Nodup :=
      (List.filter_sublist.map _).nodup (nodup_places hr hc ht)
    rw [hfiles]
    exact (pairwise_lt_mergeSort_key Candidate.path ((paths_flatMap_foundAt _).nodup hplaces)).imp utf8_lt_utf8
  · intro f
    rw [hfiles, List.mem_mergeSort, List.mem_flatMap]
    constructor
    · rintro ⟨p, hp, hf⟩
      obtain ⟨hfolder, hpath, htakes⟩ := mem_files_foundAt.mp hf
      obtain ⟨hlisted, hopen⟩ := (hmem p).mp hp
      exact ⟨p, hlisted, htakes, hpath, hfolder, hopen⟩
    · rintro ⟨p, hlisted, hs⟩
      have hp := (hmem p).mpr ⟨hlisted, hs.isOpen⟩
      exact ⟨p, hp, mem_files_foundAt.mpr ⟨hs.notFolder, hs.path, hs.toTakes⟩⟩
  · have hplaces : ∀ p ∈ visited a root cfg (.folder ms), p.1 ≠ [] ∧ place root p.1 ≠ root := by
      intro p hp
      obtain ⟨hne, -, hplace⟩ := of_mem_listed hr hc ht ((hmem p).mp hp).1
      exact ⟨hne, hplace⟩
    rw [hfiles, hskipped, List.length_mergeSort, count_flatMap_foundAt hplaces, visited, List.countP_filter,
      List.countP_filter]
    simp [Bool.decide_and]

/-- A directory excluded by its name with a slash behind it, and one by its path, hide what lies in them. -/
theorem survey_selects_mixed :
    let services := Entry.file (utf8 "<services/>")
    let ms := [("a.XML", services), ("build", .folder [("b.xml", services)]), ("gone", .folder [("f.xml", services)]),
      ("locked", .folder []), ("old", .folder [("c.xml", services), ("d.xml", .socket),
        ("deep", .folder [("g.xml", services)]), ("e.txt", services)])]
    let a : Access :=
      ⟨fun path => if path = "/p/old/d.xml" then .error ⟨"open", path, .noDevice⟩ else .ok (utf8 "<services/>"),
        fun path => if path = "/p/locked" then .error ⟨"open", path, .notFolder⟩ else .ok ()⟩
    let cfg : Config :=
      { excludePaths := some [Text.ofString "gone/", Text.ofString "old/deep"]
        excludeGlobs := some [Text.ofString "old/c.*"], respectGitignore := some false }
    ∃ r, survey a "/p" .auto cfg (.folder ms) = .ok r ∧
      r.files.Pairwise (fun f g => utf8 f.path < utf8 g.path) ∧
      ⟨"/p/a.XML", .service⟩ ∈ r.files ∧
      (∀ f ∈ r.files, f.path ∉ ["/p/gone/f.xml", "/p/old/deep/g.xml"]) ∧ r.files.length + r.skipped = 4 := by
  intro services ms a cfg
  have ht : (Entry.folder ms).IsTree := by decide +kernel
  have hroot : a.enter "/p" = .ok () := rfl
  have hgone : ∀ p ∈ listed a "/p" (.folder ms), IsOpen a "/p" cfg p.1 →
      place "/p" p.1 ∉ ["/p/gone/f.xml", "/p/old/deep/g.xml"] := by decide +kernel
  obtain ⟨r, hr, hsorted, hmem, hcount⟩ := survey_selects (by decide) (by decide) hroot ht .auto cfg
  refine ⟨r, hr, hsorted, (hmem _).mpr ⟨(["a.XML"], services), ?_, ?_⟩, ?_, hcount.trans (by decide +kernel)⟩
  · exact List.mem_filter.mpr ⟨by simp [ms, Entry.entries, Entry.entriesOf], by decide +kernel⟩
  · have hplace : place "/p" ["a.XML"] = "/p/a.XML" := by decide +kernel
    exact {
      isXml := by decide +kernel
      notExcluded := by decide +kernel
      notIgnored := by decide +kernel
      sniffed := ⟨utf8 "<services/>", by rw [hplace]; rfl, by decide +kernel⟩
      path := hplace.symm
      notFolder := rfl
      isOpen := by decide +kernel }
  · intro f hf
    obtain ⟨p, hlisted, hselects⟩ := (hmem f).mp hf
    rw [hselects.path]
    exact hgone p hlisted hselects.isOpen

end Selection

end Scan

end MoquiLint
