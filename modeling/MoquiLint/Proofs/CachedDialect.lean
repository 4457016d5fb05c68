import MoquiLint.Proofs.FilledCache
import MoquiLint.Proofs.ScannedReport

/-!
# The dialect of a cached report

An evaluation shows the dialect of the root element, a result from the cache the dialect that the first bytes show.
So a run that finds its files as the run before left them may report another dialect, for files whose first bytes do
not show the dialect of the root element. Otherwise it differs from that run in the marks of the cache alone.
-/
namespace MoquiLint

/-- The report without the mark of the cache. -/
def FileReport.unmarked (f : FileReport) : FileReport := { f with cached := false }

def BatchReport.unmarked (b : BatchReport) : BatchReport := { b with files := b.files.map (·.map FileReport.unmarked) }

theorem FileReport.unmarked_eq_iff {f g : FileReport} (h : f.gist = g.gist) :
    f.unmarked = g.unmarked ↔ f.dialect = g.dialect := by
  cases f
  cases g
  simp only [gist, mk.injEq] at h
  simp [unmarked, h]

theorem BatchReport.unmarked_eq_iff {b b' : BatchReport} (hdialect : b.dialect = b'.dialect)
    (hpassed : b.passed = b'.passed) (htotals : b.totals = b'.totals) (hcomponents : b.components = b'.components)
    (hcommit : b.commitHash = b'.commitHash) :
    b.unmarked = b'.unmarked ↔ b.files.map (·.map FileReport.unmarked) = b'.files.map (·.map FileReport.unmarked) := by
  simp [unmarked, hdialect, hpassed, htotals, hcomponents, hcommit]

/-- The share of a component does not depend on the dialects and the marks of the reports on its files. -/
theorem Component.share_eq_of_gist {cs : List Candidate} {report report' : Candidate → FileReport}
    (hpath : ∀ c, (report c).path = c.path) (hpath' : ∀ c, (report' c).path = c.path)
    (h : ∀ c ∈ cs, (report c).gist = (report' c).gist) (k : Component) :
    share (cs.map report) k = share (cs.map report') k := by
  have hgists : ((candidates cs k).map report).map FileReport.gist =
      ((candidates cs k).map report').map FileReport.gist := by
    rw [List.map_map, List.map_map]
    exact List.map_congr_left fun c hc => h c (mem_of_mem_candidates hc)
  have htotals : (BatchReport.ofFiles (some ((candidates cs k).map report))).totals =
      (BatchReport.ofFiles (some ((candidates cs k).map report'))).totals := by
    rw [← BatchReport.totals_map_gist, hgists, BatchReport.totals_map_gist]
  have hpassed : (BatchReport.ofFiles (some ((candidates cs k).map report))).passed =
      (BatchReport.ofFiles (some ((candidates cs k).map report'))).passed := by
    rw [← BatchReport.passed_map_gist, hgists, BatchReport.passed_map_gist]
  simp only [share, reports_map hpath, reports_map hpath', htotals, hpassed]

namespace Lint

/-! ### One file -/

/-- The dialect on a report, as far as the file can be read and parsed. -/
def shownDialect (p : Parts) (d : Disk) (c : Candidate) (cached : Bool) : Dialect :=
  match d.read c.path with
  | .error _ => c.dialect
  | .ok data =>
    settle c.dialect <|
      match p.parse c.path data with
      | .error _ => Sniff.detect data
      | .ok root => if cached then Sniff.detect data else Dialect.forRoot? root.tag

/-- If the choice is left to the document, its first bytes show the dialect of its root element. -/
def ShowsRoot (p : Parts) (d : Disk) (c : Candidate) : Prop :=
  c.dialect = .auto → ∀ data root, d.read c.path = .ok data → p.parse c.path data = .ok root →
    Sniff.detect data = Dialect.forRoot? root.tag

theorem showsRoot_iff {p : Parts} {d : Disk} {c : Candidate} {data : Bytes} {root : Markup.Node}
    (hread : d.read c.path = .ok data) (hparse : p.parse c.path data = .ok root) :
    ShowsRoot p d c ↔ (c.dialect = .auto → Sniff.detect data = Dialect.forRoot? root.tag) := by
  constructor
  · exact fun h hauto => h hauto data root hread hparse
  · intro h hauto data' root' hread' hparse'
    obtain rfl := Except.ok.inj (hread.symm.trans hread')
    obtain rfl := Except.ok.inj (hparse.symm.trans hparse')
    exact h hauto

theorem dialect_judge (p : Parts) (d : Disk) (skip : List String) (k : Option ResultCache) (c : Candidate) :
    (judge p d skip k c).report.dialect = shownDialect p d c (judge p d skip k c).report.cached := by
  unfold judge shownDialect
  cases d.read c.path with
  | error f => rfl
  | ok data =>
    cases hl : k.bind fun k => k.lookup c.path (contentHash data) c.dialect with
    | some result =>
      simp only [hl]
      cases p.parse c.path data <;> rfl
    | none =>
      simp only [hl]
      cases p.parse c.path data <;> rfl

theorem settle_eq_iff {d : Dialect} {shown other : Option Dialect} (hs : shown ≠ some .auto) (ho : other ≠ some .auto) :
    settle d shown = settle d other ↔ (d = .auto → shown = other) := by
  unfold settle
  split
  · rename_i hd
    subst hd
    cases shown <;> cases other <;> simp_all [eq_comm]
  · rename_i hd
    simp [hd]

theorem detect_ne_auto (data : Bytes) : Sniff.detect data ≠ some .auto := by
  intro h
  rcases Sniff.detect_cases h with h | h <;> exact absurd h (by decide)

theorem forRoot?_ne_auto (tag : String) : Dialect.forRoot? tag ≠ some .auto := by
  intro h
  obtain ⟨kind, -, h⟩ := Option.map_eq_some_iff.mp h
  cases kind <;> exact absurd h (by decide)

/-- A result from the cache is shown under the dialect of its evaluation if the first bytes show that of the root. -/
theorem shownDialect_eq_iff (p : Parts) (d : Disk) (c : Candidate) :
    shownDialect p d c true = shownDialect p d c false ↔ ShowsRoot p d c := by
  cases hr : d.read c.path with
  | error f =>
    refine iff_of_true (by simp [shownDialect, hr]) fun _ data root hr' => ?_
    rw [hr] at hr'
    cases hr'
  | ok data =>
    cases hp : p.parse c.path data with
    | error e =>
      refine iff_of_true (by simp [shownDialect, hr, hp]) fun _ data' root hr' hp' => ?_
      obtain rfl := Except.ok.inj (hr.symm.trans hr')
      rw [hp] at hp'
      cases hp'
    | ok root =>
      rw [showsRoot_iff hr hp, ← settle_eq_iff (detect_ne_auto data) (forRoot?_ne_auto root.tag)]
      simp [shownDialect, hr, hp]

/-- Reports with the same findings differ in the mark of the cache alone if they agree about the cache or the first
bytes of the file show the dialect of its root element. -/
theorem unmarked_eq_iff {p : Parts} {d : Disk} {skip : List String} {k k' : Option ResultCache} {c : Candidate}
    (h : (judge p d skip k c).report.gist = (judge p d skip k' c).report.gist) :
    (judge p d skip k c).report.unmarked = (judge p d skip k' c).report.unmarked ↔
      ((judge p d skip k c).report.cached ≠ (judge p d skip k' c).report.cached → ShowsRoot p d c) := by
  rw [FileReport.unmarked_eq_iff h, dialect_judge, dialect_judge, ← shownDialect_eq_iff]
  cases (judge p d skip k c).report.cached <;> cases (judge p d skip k' c).report.cached <;> simp [eq_comm]

/-! ### Two runs -/

/-- After a run nothing that it looked at has changed, and its cache is as the run left it. -/
structure Unchanged (s : Service) (r : Request) (cfg : Config) (d d' : Disk) : Prop
    extends SameInput s r (r.dialectIn cfg) cfg d d' where
  config : Config.load d' r.project = Config.load d r.project
  cache : ResultCache.load d' r.project = ResultCache.load (run s d r).disk r.project

section
variable {s : Service} {r : Request} {cfg : Config} {d d' : Disk} {cs : List Candidate}

theorem Unchanged.collects (h : Unchanged s r cfg d d') (hc : Collects s.parts d r cfg cs) :
    Collects s.parts d' r cfg cs :=
  ⟨h.config.trans hc.loaded, h.candidates.trans hc.collected⟩

theorem Unchanged.digested_eq (h : Unchanged s r cfg d d') (hc : Collects s.parts d r cfg cs) :
    digested s.parts d' r = digested s.parts d r := by
  have hcontents : (cs.filterMap fun c => (d'.read c.path).toOption) =
      cs.filterMap fun c => (d.read c.path).toOption :=
    List.filterMap_congr fun c hmem => by rw [h.contents cs hc.collected c hmem]
  unfold digested
  simp only [(h.collects hc).loaded, (h.collects hc).collected, hc.loaded, hc.collected, hcontents]

/-- Nothing has changed on the disk that a run leaves behind if the candidates with their contents are found there
again, and the next run, which saves the cache once more, finds the same components. -/
theorem unchanged_of_run (hd' : d' = (run s d r).disk) (hc : Collects s.parts d r cfg cs)
    (hc' : Collects s.parts d' r cfg cs) (hne : cs ≠ []) (hcancel : s.canceled = false) {version : String}
    (hs : s.cache = some version) (hbefore : ResultCache.load d r.project = .ok none)
    (hafter : ResultCache.load d' r.project ≠ .ok none) (hread : ∀ c ∈ cs, d'.read c.path = d.read c.path)
    (hdetect : s.parts.detect (closeCache d' (recordAll (s.filled d r cfg cs version) cs
        (cs.map (judge s.parts d' cfg.skipped (some (s.filled d r cfg cs version)))))).1 r.project
          (cs.map Candidate.path) =
      s.parts.detect d' r.project (cs.map Candidate.path)) : Unchanged s r cfg d d' := by
  subst hd'
  obtain ⟨version', hs', hdisk⟩ := disk_again hc hcancel hbefore hafter rfl hc' hne
  obtain rfl : version = version' := Option.some.inj (hs.symm.trans hs')
  rw [← hdisk] at hdetect
  exact ⟨sameInput_of_collected hc.collected hc'.collected hread hdetect, hc'.loaded.trans hc.loaded.symm, rfl⟩

/-- A cache that was trusted is trusted again after a run. -/
theorem Unchanged.isTrusted (h : Unchanged s r cfg d d') (hc : Collects s.parts d r cfg cs) (ht : IsTrusted s d r) :
    IsTrusted s d' r := by
  intro hcache
  obtain ⟨version, hversion⟩ := Option.ne_none_iff_exists'.mp hcache
  obtain ⟨bs, hreached, hinj⟩ := ht hcache
  have hrun : run s d r = run ⟨s.parts, some version, s.canceled⟩ d r := by rw [← hversion]
  have hagain := (hreached.run r rfl version s.canceled).edit (hrun ▸ h.cache)
  refine ⟨_, hagain, hinj.mono fun b hb => ?_⟩
  rw [h.digested_eq hc] at hb
  simpa using hb

theorem Unchanged.gist_eq (h : Unchanged s r cfg d d') (hc : Collects s.parts d r cfg cs) (ht : IsTrusted s d r)
    {c : Candidate} (hmem : c ∈ cs) : (s.reportOn d' r cfg c).gist = (s.reportOn d r cfg c).gist := by
  rw [gist_reportOn (h.isTrusted hc ht) (h.collects hc) hmem, gist_reportOn ht hc hmem,
    judge_of_read (h.contents cs hc.collected c hmem)]

theorem Unchanged.unmarked_reportOn_iff (h : Unchanged s r cfg d d') (hc : Collects s.parts d r cfg cs)
    (ht : IsTrusted s d r) {c : Candidate} (hmem : c ∈ cs) :
    (s.reportOn d' r cfg c).unmarked = (s.reportOn d r cfg c).unmarked ↔
      ((s.reportOn d' r cfg c).cached ≠ (s.reportOn d r cfg c).cached → ShowsRoot s.parts d c) := by
  have hg := h.gist_eq hc ht hmem
  unfold Service.reportOn at hg ⊢
  rw [judge_of_read (h.contents cs hc.collected c hmem)] at hg ⊢
  exact unmarked_eq_iff hg

theorem Unchanged.summary_eq (h : Unchanged s r cfg d d') (hc : Collects s.parts d r cfg cs) (ht : IsTrusted s d r) :
    (s.batch d' r cfg cs).gist = (s.batch d r cfg cs).gist ∧
      (s.batch d' r cfg cs).components = (s.batch d r cfg cs).components := by
  have hgist : ∀ c ∈ cs, (s.reportOn d' r cfg c).gist = (s.reportOn d r cfg c).gist :=
    fun c hmem => h.gist_eq hc ht hmem
  constructor
  · cases cs with
    | nil => rfl
    | cons c cs =>
      have hfiles : ((c :: cs).map (s.reportOn d' r cfg)).map FileReport.gist =
          ((c :: cs).map (s.reportOn d r cfg)).map FileReport.gist := by
        simpa using hgist
      exact BatchReport.gist_ofFiles hfiles _ _ _
  · have hshare : Component.share (cs.map (s.reportOn d' r cfg)) = Component.share (cs.map (s.reportOn d r cfg)) :=
      funext (Component.share_eq_of_gist path_reportOn path_reportOn hgist)
    rw [components_batch, components_batch, h.components cs hc.collected, hshare]

theorem Unchanged.unmarked_batch_iff (h : Unchanged s r cfg d d') (hc : Collects s.parts d r cfg cs)
    (ht : IsTrusted s d r) :
    (s.batch d' r cfg cs).unmarked = (s.batch d r cfg cs).unmarked ↔
      ∀ c ∈ cs, (s.reportOn d' r cfg c).unmarked = (s.reportOn d r cfg c).unmarked := by
  obtain ⟨hsame, hcomponents⟩ := h.summary_eq hc ht
  simp only [BatchReport.gist, Prod.mk.injEq] at hsame
  obtain ⟨-, htotals, hpassed, -⟩ := hsame
  cases cs with
  | nil => simp [Service.batch]
  | cons c cs =>
    have hdialect : (s.batch d' r cfg (c :: cs)).dialect = (s.batch d r cfg (c :: cs)).dialect := rfl
    rw [BatchReport.unmarked_eq_iff hdialect hpassed htotals hcomponents rfl]
    simp [Service.batch, BatchReport.ofFiles]

end

/-- A result from the cache is shown under the dialect of its evaluation if the choice is not left to the document or
its first bytes show the dialect of its root element. A second run on unchanged files says the same of their findings,
the components and in the end. It says the same in all but the marks of the cache if the first bytes show the dialect
of the root element in the files whose results only one of the runs has from the cache, which are all that can be
parsed if there was no cache before. -/
theorem cached_dialect_iff (p : Parts) :
    (∀ (d : Disk) (skip : List String) (k : ResultCache) (c : Candidate) (data : Bytes) (root : Markup.Node)
        (result : Findings), d.read c.path = .ok data → p.parse c.path data = .ok root →
      k.lookup c.path (contentHash data) c.dialect = some result →
        (judge p d skip (some k) c).report.cached = true ∧ (judge p d skip none c).report.cached = false ∧
        ((judge p d skip (some k) c).report.dialect = (judge p d skip none c).report.dialect ↔
          (c.dialect = .auto → Sniff.detect data = Dialect.forRoot? root.tag))) ∧
    ∀ (cache : Option String) (d d' : Disk) (r : Request) (cfg : Config) (cs : List Candidate),
      let s : Service := ⟨p, cache, false⟩
      Collects p d r cfg cs → IsTrusted s d r → Unchanged s r cfg d d' →
        ∃ b b', (run s d r).report = .ok b ∧ (run s d' r).report = .ok b' ∧
          b.fileList = cs.map (s.reportOn d r cfg) ∧ b'.fileList = cs.map (s.reportOn d' r cfg) ∧
          b'.gist = b.gist ∧ b'.components = b.components ∧
          (b'.unmarked = b.unmarked ↔
            ∀ c ∈ cs, (s.reportOn d' r cfg c).cached ≠ (s.reportOn d r cfg c).cached → ShowsRoot p d c) ∧
          (ResultCache.load d r.project = .ok none → ResultCache.load (run s d r).disk r.project ≠ .ok none →
            (b'.unmarked = b.unmarked ↔ ∀ c ∈ cs, ShowsRoot p d c)) := by
  constructor
  · intro d skip k c data root result hread hparse hlookup
    have hkept : (judge p d skip (some k) c).report.cached = true := by
      simp [judge, hread, hlookup]
    have hanew : (judge p d skip none c).report.cached = false := (judge_anew hread hparse rfl).2
    refine ⟨hkept, hanew, ?_⟩
    rw [dialect_judge, dialect_judge, hkept, hanew, shownDialect_eq_iff, showsRoot_iff hread hparse]
  · intro cache d d' r cfg cs s hc ht h
    obtain ⟨hgist, hcomponents⟩ := h.summary_eq hc ht
    have hiff : (s.batch d' r cfg cs).unmarked = (s.batch d r cfg cs).unmarked ↔
        ∀ c ∈ cs, (s.reportOn d' r cfg c).cached ≠ (s.reportOn d r cfg c).cached → ShowsRoot p d c := by
      rw [h.unmarked_batch_iff hc ht]
      exact forall₂_congr fun c hmem => h.unmarked_reportOn_iff hc ht hmem
    refine ⟨_, _, hc.report rfl, (h.collects hc).report rfl, fileList_batch, fileList_batch, hgist, hcomponents, hiff, ?_⟩
    intro hbefore hafter
    rw [hiff]
    refine forall₂_congr fun c hmem => ⟨?_, fun hshows _ => hshows⟩
    -- only a file that can be parsed has a root element, and then the two reports differ in their marks
    intro hshows hauto data root hr hp
    have hr' : d'.read c.path = .ok data := (h.contents cs hc.collected c hmem).trans hr
    obtain ⟨hfirst, hagain⟩ := cached_again hc rfl hbefore hafter h.cache hmem hr hr' hp
    have hdiffer : (s.reportOn d' r cfg c).cached ≠ (s.reportOn d r cfg c).cached := by simp [hfirst, hagain]
    exact hshows hdiffer hauto data root hr hp

/-- A run with a cache on a file of services fills the cache and leaves everything else as it was. -/
theorem unchanged_services :
    let d : Disk := { root := .folder [("p", .folder [("a.xml", .file (utf8 "<services/>"))])] }
    let r : Request := { project := "/p", paths := ["/p/a.xml"], dialect := .auto }
    let s : Service := { cache := some "1" }
    let d' := (run s d r).disk
    Collects s.parts d r .standard [⟨"/p/a.xml", .auto⟩] ∧ IsTrusted s d r ∧ Unchanged s r .standard d d' ∧
      ResultCache.load d r.project = .ok none ∧ ResultCache.load d' r.project ≠ .ok none ∧
      d.read "/p/a.xml" = .ok (utf8 "<services/>") := by
  intro d r s d'
  let c : Candidate := ⟨"/p/a.xml", .auto⟩
  have hc : Collects s.parts d r .standard [c] := ⟨by decide +kernel, by decide +kernel⟩
  have hbefore : ResultCache.load d r.project = .ok none := by decide +kernel
  have hdigests : ∀ a ∈ digested s.parts d r, ∀ b ∈ digested s.parts d r,
      Digest.Sha256.hash a = Digest.Sha256.hash b → a = b := by decide +kernel
  -- the cache that the first run fills, and the disk after the second one has saved it again
  let filled := s.filled d r .standard [c] "1"
  let last := (closeCache d' (recordAll filled [c] ([c].map (judge s.parts d' Config.standard.skipped (some filled))))).1
  obtain ⟨hloaded, hcollected, hread, hwritten, hdetect⟩ : Config.load d' r.project = .ok .standard ∧
      (collect s.parts d' (r.dialectIn .standard) .standard [] r.paths).1 = .ok [c] ∧
      (∀ f ∈ [c], d'.read f.path = d.read f.path) ∧ d'.read? (ResultCache.file r.project) ≠ .ok none ∧
      Component.detect last r.project [c.path] = Component.detect d' r.project [c.path] := by decide +kernel
  have hafter : ResultCache.load d' r.project ≠ .ok none := fun h => hwritten (ResultCache.read?_of_load_eq_none h)
  have hunchanged : Unchanged s r .standard d d' :=
    unchanged_of_run rfl hc ⟨hloaded, hcollected⟩ (List.cons_ne_nil c []) rfl rfl hbefore hafter hread
      (congrArg Except.ok hdetect)
  exact ⟨hc, fun _ => ⟨[], .start hbefore, hdigests⟩, hunchanged, hbefore, hafter, by decide +kernel⟩

theorem cached_dialect_iff_services :
    let d : Disk := { root := .folder [("p", .folder [("a.xml", .file (utf8 "<services/>"))])] }
    let r : Request := { project := "/p", paths := ["/p/a.xml"], dialect := .auto }
    let s : Service := { cache := some "1" }
    let d' := (run s d r).disk
    ∃ b b', (run s d r).report = .ok b ∧ (run s d' r).report = .ok b' ∧
      b.fileList.map FileReport.cached = [false] ∧ b'.fileList.map FileReport.cached = [true] ∧
      b'.unmarked = b.unmarked := by
  intro d r s d'
  let c : Candidate := ⟨"/p/a.xml", .auto⟩
  obtain ⟨hc, htrusted, hunchanged, hbefore, hafter, hread⟩ := unchanged_services
  have hread' : d'.read c.path = .ok (utf8 "<services/>") :=
    (hunchanged.contents [c] hc.collected c List.mem_cons_self).trans hread
  have htag : (s.parts.parse c.path (utf8 "<services/>")).toOption.map Markup.Node.tag = some "services" := by
    decide +kernel
  cases hparse : s.parts.parse c.path (utf8 "<services/>") with
  | error e => simp [hparse, Except.toOption] at htag
  | ok root =>
    have hroot : root.tag = "services" := by simpa [hparse, Except.toOption] using htag
    obtain ⟨b, b', hb, hb', hfiles, hfiles', -, -, -, hiff⟩ :=
      (cached_dialect_iff s.parts).2 s.cache d d' r .standard [c] hc htrusted hunchanged
    obtain ⟨hfresh, hcached⟩ := cached_again hc rfl hbefore hafter rfl List.mem_cons_self hread hread' hparse
    refine ⟨b, b', hb, hb', ?_, ?_, (hiff hbefore hafter).mpr fun c' hmem => ?_⟩
    · rw [hfiles]
      exact congrArg (fun cached => [cached]) hfresh
    · rw [hfiles']
      exact congrArg (fun cached => [cached]) hcached
    · obtain rfl := List.mem_singleton.mp hmem
      rw [showsRoot_iff hread hparse, hroot]
      decide +kernel

/-- A comment that names the other root element shows in the report as soon as its result is kept. -/
theorem cached_comment_dialect :
    let content := utf8 ("<!-- <entities> --><services " ++
      "xsi:noNamespaceSchemaLocation='http://moqui.org/xsd/service-definition-3.xsd'/>")
    let d : Disk := { root := .folder [("p", .folder [("a.xml", .file content)])] }
    let c : Candidate := ⟨"/p/a.xml", .auto⟩
    let first := judge .standard d [] none c
    let kept := record (emptyCache "/p" "1" .standard) c first
    let again := judge .standard d [] (some kept) c
    (first.report.dialect, first.report.cached, first.report.passed) = (.service, false, true) ∧
      (again.report.dialect, again.report.cached, again.report.passed) = (.entity, true, true) ∧
      again.report.unmarked ≠ first.report.unmarked := by
  decide +kernel

end Lint

end MoquiLint
