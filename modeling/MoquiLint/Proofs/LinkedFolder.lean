import MoquiLint.Proofs.Ancestry
import MoquiLint.Proofs.Incremental
import MoquiLint.Proofs.Reruns
import MoquiLint.Proofs.WatchedTree

/-!
# Folders given through a link

Whether a path is a folder is asked with links followed, but a walk looks at its root itself. So a link to a folder is
scanned as if it was a file, and nothing is found in it.
-/
namespace MoquiLint

/-! ### The path without links -/

namespace Disk

variable {d : Disk}

structure IsLeading (n : String) : Prop where
  proper : IsProper n
  whole : '/' ∉ n.toList

theorem IsLeading.isName {n : String} (h : IsLeading n) : Path.IsName n := by
  have hnamed := h.proper.named
  simp only [Bool.or_eq_true, beq_iff_eq, not_or] at hnamed
  exact ⟨hnamed.1, hnamed.2, by simpa using h.proper.down, h.whole⟩

/-- Whatever links are followed, a path leads to a place by the names of what stands there. -/
theorem names_of_follow {last : Bool} {links : Nat} {place names : List String} {spot : Spot}
    (hplace : ∀ n ∈ place, IsLeading n) (hnames : ∀ n ∈ names, '/' ∉ n.toList)
    (h : d.follow last links place names = .ok spot) : ∀ n ∈ spot.place, IsLeading n := by
  -- on the links that are left, then on the names: a link uses one up and puts new names in front
  induction links using Nat.strong_induction_on generalizing place names with
  | _ links ihl =>
  induction names generalizing place with
  | nil =>
    rw [follow_nil] at h
    cases h
    exact fun n hn => hplace n (List.mem_reverse.mp hn)
  | cons n names ih =>
    obtain ⟨hn, hrest⟩ := List.forall_mem_cons.mp hnames
    have hnext : IsProper n → ∀ m ∈ (n :: place).reverse, IsLeading m := fun hp m hm =>
      (List.mem_cons.mp (List.mem_reverse.mp hm)).elim (fun he => he ▸ ⟨hp, hn⟩) (hplace m)
    cases d.next place n with
    | blank hb =>
      rw [follow_blank hb] at h
      exact ih hplace hrest h
    | up hb hu =>
      rw [follow_up hb hu] at h
      exact ih (fun m hm => hplace m (List.mem_of_mem_tail hm)) hrest h
    | long hb hu hl =>
      rw [follow_long hb hu hl] at h
      cases h
    | none hp hq =>
      rw [follow_none hp _ _ hq] at h
      split at h
      · cases h
        exact hnext hp
      · cases h
    | folder hp ms hq =>
      rw [follow_folder hp _ _ hq] at h
      exact ih (fun m hm => hnext hp m (List.mem_reverse.mpr hm)) hrest h
    | link hp target hq =>
      rw [follow_link hp _ _ hq] at h
      split at h
      · cases h
        exact hnext hp
      · cases links with
        | zero => cases h
        | succ links =>
          refine ihl links (Nat.lt_succ_self links) (fun m hm => ?_) (fun m hm => ?_) h
          · unfold linkStart at hm
            split at hm
            · cases hm
            · exact hplace m hm
          · exact (List.mem_append.mp hm).elim Path.no_slash_of_mem_split (hrest m)
    | other hp f hf hl hq =>
      rw [follow_end hp _ _ hf hl hq] at h
      split at h
      · cases h
        exact hnext hp
      · cases h

/-- The path without links leads to what the path leads to, and there is no link at its end. -/
theorem lstat_realPath {path resolved : String} (habs : Path.isAbsolute path = true)
    (hreal : d.realPath path = some resolved) {ms : List (String × Entry)} (hstat : d.stat path = .ok (.folder ms))
    (hresolved : d.isFolder resolved = true) :
    d.absolute resolved = resolved ∧ d.lstat resolved = .ok (.folder ms) := by
  obtain ⟨place, hplace⟩ := entryAt_eq_ok.mp (fail_eq_ok.mp hstat)
  obtain rfl : Path.spell true place = resolved := by
    rw [realPath, hplace] at hreal
    exact Option.some.inj hreal
  have hne : path ≠ "" := fun he => by
    rw [he] at habs
    exact absurd habs (by decide)
  have hleading : ∀ n ∈ place, IsLeading n := by
    rw [locate_eq d true hne] at hplace
    split at hplace
    · cases hplace
    · rw [habs] at hplace
      exact names_of_follow (fun n hn => absurd hn List.not_mem_nil) (fun n hn => Path.no_slash_of_mem_split hn) hplace
  have hentry : d.root.at? place = some (.folder ms) := (entry_of_locate hplace).symm
  have hclean : Path.IsClean true place := Path.isClean_of_isName true fun n hn => (hleading n hn).isName
  obtain ⟨ms', hms'⟩ := exists_stat_of_isFolder hresolved
  obtain ⟨q, hq⟩ := entryAt_eq_ok.mp (fail_eq_ok.mp hms')
  have hz := areTerminated_of_locate hclean hq
  refine ⟨?_, fail_eq_ok.mpr (entryAt_eq_ok.mpr ⟨place, ?_⟩)⟩
  · rw [absolute, Path.resolve, if_pos (Path.isAbsolute_spell_of_isClean hclean), Path.clean_spell_of_isClean hclean]
  · rw [locate_of_areTerminated hclean hz]
    exact follow_names (fun n hn => (hleading n hn).proper) hentry (by simp)

end Disk

/-- The reports of a batch with their paths as they are from a folder. -/
def BatchReport.below (b : BatchReport) (folder : String) : List FileReport :=
  b.fileList.map fun f => { f with path := (Path.relative? folder f.path).getD f.path }

theorem BatchReport.below_eq_nil_iff {b : BatchReport} {folder : String} : b.below folder = [] ↔ b.fileList = [] :=
  List.map_eq_nil_iff

/-! ### Runs -/

namespace Lint

open Scan (listed Selects)

theorem addNew_nil_eq_nil_iff {cs : List Candidate} : addNew [] cs = [] ↔ cs = [] := by
  refine ⟨fun h => ?_, fun h => by rw [h]; rfl⟩
  cases cs with
  | nil => rfl
  | cons c cs =>
    have hmem : c.path ∈ (addNew [] (c :: cs)).map Candidate.path := mem_path_addNew.mpr (.inr List.mem_cons_self)
    rw [h] at hmem
    cases hmem

section
variable {d : Disk} (path : String) (dialect : Dialect) {cfg : Config}

/-- A scan of a folder finds what it selects of the entries that it lists, and nothing at a link. -/
theorem files_eq_nil_iff {e : Entry} (hfolder : d.isFolder (d.absolute path) = true)
    (he : d.lstat (d.absolute path) = .ok e) {r : Scan.Result}
    (h : Scan.run d (d.absolute path) dialect cfg = .ok r) :
    r.files = [] ↔ ∀ p ∈ listed ⟨d.read, d.enter⟩ (d.absolute path) e, ∀ c,
      ¬ Selects ⟨d.read, d.enter⟩ (d.absolute path) dialect cfg p c := by
  rw [Scan.run_eq_survey (by rw [d.absolute_absolute]; exact he), d.absolute_absolute] at h
  rw [List.eq_nil_iff_forall_not_mem]
  simp only [Scan.mem_survey_iff h, not_exists, not_and]
  constructor
  · intro hnone p hp c hs
    obtain ⟨hmem, hlisted⟩ := List.mem_filter.mp hp
    exact hnone c p (List.mem_cons_of_mem _ hmem) (by simpa using hlisted) hs
  · intro hnone c p hp hlisted hs
    rcases List.mem_cons.mp hp with rfl | hp
    · exact not_selects_root hfolder hs
    · exact hnone p (List.mem_filter.mpr ⟨hp, by simpa using hlisted⟩) c hs

theorem collects_folder (parse : String → Bytes → Except ParseFault Markup.Node)
    (detect : Disk → String → List String → Except Text (List Component)) {project : String}
    (hcfg : Config.load d project = .ok cfg) (hfolder : d.isFolder (d.absolute path) = true) :
    ∃ r, Scan.run d (d.absolute path) (Request.dialectIn ⟨project, [path], dialect⟩ cfg) cfg = .ok r ∧
      Collects ⟨scanDisk, parse, detect⟩ d ⟨project, [path], dialect⟩ cfg (addNew [] r.files) := by
  obtain ⟨ms, hms⟩ := Disk.exists_stat_of_isFolder hfolder
  obtain ⟨r, hr⟩ := Scan.exists_run (d.absolute path) (by rw [d.absolute_absolute]; exact hfolder)
    (Request.dialectIn ⟨project, [path], dialect⟩ cfg) cfg
  refine ⟨r, hr, hcfg, ?_⟩
  rw [collect_eq _ cfg parse detect (List.forall_mem_singleton.mpr ⟨_, hms⟩), List.flatMap_singleton, candidatesAt,
    if_pos hfolder, hr]

end

/-- A folder that is given through a link is not looked into: whatever stands there, the run reports no file. It
reports what a run on the folder itself does, with the paths from there, exactly if a scan of the folder selects
nothing. -/
theorem linked_folder_unscanned (parse : String → Bytes → Except ParseFault Markup.Node)
    (detect : Disk → String → List String → Except Text (List Component)) (cache : Option String) {d : Disk}
    {project given target resolved : String} (dialect : Dialect) {cfg : Config}
    (hcfg : Config.load d project = .ok cfg) (hlink : d.lstat (d.absolute given) = .ok (.link target))
    (hfolder : d.isFolder (d.absolute given) = true) (hreal : d.realPath (d.absolute given) = some resolved)
    (hresolved : d.isFolder resolved = true) :
    let s : Service := ⟨⟨scanDisk, parse, detect⟩, cache, false⟩
    let chosen := Request.dialectIn ⟨project, [resolved], dialect⟩ cfg
    ∃ ms b b', d.stat (d.absolute given) = .ok (.folder ms) ∧ d.lstat resolved = .ok (.folder ms) ∧
      (run s d ⟨project, [given], dialect⟩).report = .ok b ∧
      (run s d ⟨project, [resolved], dialect⟩).report = .ok b' ∧
      b.fileList = [] ∧ b.verdict = some .noDefinitions ∧
      (b.below (d.absolute given) = b'.below resolved ↔
        ∀ p ∈ listed ⟨d.read, d.enter⟩ resolved (.folder ms), ∀ c,
          ¬ Selects ⟨d.read, d.enter⟩ resolved chosen cfg p c) := by
  intro s chosen
  obtain ⟨ms, hms⟩ := Disk.exists_stat_of_isFolder hfolder
  obtain ⟨hself, hthere⟩ := Disk.lstat_realPath (d.isAbsolute_absolute given) hreal hms hresolved
  have hfolder' : d.isFolder (d.absolute resolved) = true := by rw [hself, hresolved]
  have hthere' : d.lstat (d.absolute resolved) = .ok (.folder ms) := by rw [hself, hthere]
  obtain ⟨r, hr, hcollects⟩ := collects_folder given dialect parse detect hcfg hfolder
  obtain ⟨r', hr', hcollects'⟩ := collects_folder resolved dialect parse detect hcfg hfolder'
  have hnothing : r.files = [] :=
    (files_eq_nil_iff given _ hfolder hlink hr).mpr (by simp [listed, Entry.entries])
  rw [hnothing] at hcollects
  have hselected := files_eq_nil_iff resolved _ hfolder' hthere' hr'
  rw [hself] at hselected
  refine ⟨ms, _, _, hms, hthere, hcollects.report rfl, hcollects'.report rfl, rfl, rfl, ?_⟩
  rw [← hselected, ← addNew_nil_eq_nil_iff]
  constructor
  · intro h
    have hnone := BatchReport.below_eq_nil_iff.mp h.symm
    rw [fileList_batch] at hnone
    exact List.map_eq_nil_iff.mp hnone
  · intro h
    rw [h]
    exact (BatchReport.below_eq_nil_iff.mpr rfl).trans (BatchReport.below_eq_nil_iff.mpr rfl).symm

/-- The link leads to the folder through another link. -/
theorem linked_folder_unscanned_twice :
    let d : Disk := { root := .folder [("p", .folder [("l", .link "m"), ("m", .link "../p/t"),
      ("t", .folder [("a.xml", .file (utf8 "<entities/>"))])])] }
    d.isFolder "/p/l" = true ∧ d.realPath "/p/l" = some "/p/t" ∧
      ∃ b b', (run {} d ⟨"/p", ["/p/l"], .auto⟩).report = .ok b ∧ (run {} d ⟨"/p", ["/p/t"], .auto⟩).report = .ok b' ∧
        b.fileList = [] ∧ b.verdict = some .noDefinitions ∧ b.below "/p/l" ≠ b'.below "/p/t" := by
  intro d
  have hfolder : d.isFolder "/p/l" = true := by decide +kernel
  have hreal : d.realPath "/p/l" = some "/p/t" := by decide +kernel
  have habs : d.absolute "/p/l" = "/p/l" := by decide +kernel
  have hlink : d.lstat "/p/l" = .ok (.link "m") := rfl
  have hfound : (run {} d ⟨"/p", ["/p/t"], .auto⟩).report.map (fun b => (b.below "/p/t").map FileReport.path) =
      .ok ["a.xml"] := by decide +kernel
  have hok : (Config.load d "/p").isOk := by decide +kernel
  cases hcfg : Config.load d "/p" with
  | error f =>
    rw [hcfg] at hok
    cases hok
  | ok cfg =>
    obtain ⟨-, b, b', -, -, hb, hb', hnone, hverdict, -⟩ := linked_folder_unscanned parseDocument
      Parts.standard.detect none .auto hcfg (habs.symm ▸ hlink) (habs.symm ▸ hfolder) (habs.symm ▸ hreal)
      (by decide +kernel)
    refine ⟨hfolder, hreal, b, b', hb, hb', hnone, hverdict, fun hsame => ?_⟩
    rw [BatchReport.below_eq_nil_iff.mpr hnone] at hsame
    have hfound : b'.below "/p/t" ≠ [] := fun hempty => by
      have hb' : (run {} d ⟨"/p", ["/p/t"], .auto⟩).report = .ok b' := hb'
      rw [hb', Except.map, hempty] at hfound
      cases hfound
    exact hfound hsame.symm

/-- The run on the link finds nothing, the run on the folder finds its file. -/
theorem linked_folder_fails :
    let d : Disk := { root := .folder [("p", .folder [("l", .link "t"),
      ("t", .folder [("a.xml", .file (utf8 "<entities/>"))])])] }
    d.isFolder "/p/l" = true ∧ d.realPath "/p/l" = some "/p/t" ∧
      (run {} d ⟨"/p", ["/p/l"], .auto⟩).report.map (fun b => (b.below "/p/l").map FileReport.path) = .ok [] ∧
      (run {} d ⟨"/p", ["/p/t"], .auto⟩).report.map (fun b => (b.below "/p/t").map FileReport.path) =
        .ok ["a.xml"] := by
  decide +kernel

end Lint

end MoquiLint
