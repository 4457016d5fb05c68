import MoquiLint.Proofs.Reruns

/-!
# Skipped rules

To leave out rules is to filter both lists of findings by the set of their names. So it does not matter in what
order, how often or in how many steps rules are left out, and what passes with some rules left out passes with more
of them left out: a file, and by that a batch and a component.
-/
namespace MoquiLint

namespace Findings

variable {r r' r'' : Findings} {s t : List String}

/-- The same findings in the same order, whether or not an empty list is absent. -/
structure Same (r r' : Findings) : Prop where
  issues : r.issueList = r'.issueList
  suggestions : r.suggestionList = r'.suggestionList

theorem Same.symm (h : Same r r') : Same r' r := ⟨h.issues.symm, h.suggestions.symm⟩

theorem Same.trans (h : Same r r') (h' : Same r' r'') : Same r r'' :=
  ⟨h.issues.trans h'.issues, h.suggestions.trans h'.suggestions⟩

theorem Same.passed_eq (h : Same r r') : r.passed = r'.passed := by rw [passed, passed, h.issues]

theorem same_without_append (r : Findings) (s t : List String) : Same ((r.without s).without t) (r.without (s ++ t)) := by
  have hkeep : ∀ fs : List Finding, (fs.filter fun f => !s.contains f.rule).filter (fun f => !t.contains f.rule) =
      fs.filter fun f => !(s ++ t).contains f.rule := by
    intro fs
    rw [List.filter_filter]
    refine List.filter_congr fun f _ => ?_
    rw [List.contains_append, Bool.not_or, Bool.and_comm]
  constructor
  · rw [issueList_without, issueList_without, issueList_without, hkeep]
  · rw [suggestionList_without, suggestionList_without, suggestionList_without, hkeep]

theorem without_congr (r : Findings) (h : ∀ id, id ∈ s ↔ id ∈ t) : r.without s = r.without t := by
  have hempty : s.isEmpty = t.isEmpty := by
    rw [Bool.eq_iff_iff, List.isEmpty_iff, List.isEmpty_iff, List.eq_nil_iff_forall_not_mem,
      List.eq_nil_iff_forall_not_mem]
    simp only [h]
  have hkeep : ∀ id, s.contains id = t.contains id := by
    intro id
    rw [Bool.eq_iff_iff, List.contains_iff_mem, List.contains_iff_mem, h]
  unfold without
  simp only [hempty, hkeep]

theorem same_without_comm (r : Findings) (s t : List String) :
    Same ((r.without s).without t) ((r.without t).without s) := by
  have hset : ∀ id, id ∈ s ++ t ↔ id ∈ t ++ s := by simp [or_comm]
  refine (same_without_append r s t).trans ?_
  rw [r.without_congr hset]
  exact (same_without_append r t s).symm

/-- Rules that are left out in addition are left out of what is left. -/
theorem same_without_of_subset (r : Findings) (h : s ⊆ t) : Same (r.without t) ((r.without s).without t) := by
  have hset : ∀ id, id ∈ t ↔ id ∈ s ++ t := by
    intro id
    rw [List.mem_append, or_iff_right_of_imp fun hs => h hs]
  rw [r.without_congr hset]
  exact (same_without_append r s t).symm

theorem passed_without (h : r.passed = true) (s : List String) : (r.without s).passed = true := by
  rw [passed_iff] at h ⊢
  rw [issueList_without, h, List.filter_nil]

theorem passed_without_of_subset (h : s ⊆ t) (hp : (r.without s).passed = true) : (r.without t).passed = true := by
  rw [(same_without_of_subset r h).passed_eq]
  exact passed_without hp t

end Findings

theorem BatchReport.passed_map_of_imp {cs : List Candidate} {report report' : Candidate → FileReport}
    (h : ∀ c ∈ cs, (report c).passed = true → (report' c).passed = true)
    (hp : (ofFiles (some (cs.map report))).passed = true) : (ofFiles (some (cs.map report'))).passed = true := by
  rw [passed_ofFiles_iff] at hp ⊢
  obtain ⟨hne, hall⟩ := hp
  refine ⟨by simpa using hne, ?_⟩
  rw [List.forall_mem_map] at hall ⊢
  exact fun c hc => h c hc (hall c hc)

namespace Lint

/-! ### Runs -/

/-- The rules that are left out are filtered from findings that do not depend on them. -/
theorem exists_judged (p : Parts) (d : Disk) (c : Candidate) :
    ∃ (found : Findings) (error : Text), ∀ skip, (judge p d skip none c).report.result = found.without skip ∧
      (judge p d skip none c).report.parseError = error := by
  have hnone : ∀ skip, ({} : Findings) = Findings.without {} skip := by
    intro skip
    cases skip <;> rfl
  unfold judge
  cases hr : d.read c.path with
  | error f => exact ⟨{}, _, fun skip => ⟨hnone skip, rfl⟩⟩
  | ok data =>
    cases hp : p.parse c.path data with
    | error e => exact ⟨{}, e.detail, fun skip => by simp [hp, ← hnone]⟩
    | ok root => exact ⟨Rules.evaluate (some root) c.dialect, [], fun skip => by simp [hp]⟩

theorem passed_judge_of_subset {p : Parts} {d : Disk} {skip skip' : List String} {c : Candidate} (h : skip ⊆ skip')
    (hp : (judge p d skip none c).report.passed = true) : (judge p d skip' none c).report.passed = true := by
  obtain ⟨found, error, hj⟩ := exists_judged p d c
  rw [FileReport.passed, (hj skip).1, (hj skip).2, Bool.and_eq_true] at hp
  rw [FileReport.passed, (hj skip').1, (hj skip').2, Bool.and_eq_true]
  exact ⟨hp.1, Findings.passed_without_of_subset h hp.2⟩

section
variable {s : Service} {d d' : Disk} {r : Request} {cfg cfg' : Config} {cs : List Candidate}

/-- Two runs on the same candidates, where the second one leaves out all rules that the first one does. -/
structure SkipsMore (s : Service) (d d' : Disk) (r : Request) (cfg cfg' : Config) (cs : List Candidate) : Prop where
  collects : Collects s.parts d r cfg cs
  collects' : Collects s.parts d' r cfg' cs
  trusted : IsTrusted s d r
  trusted' : IsTrusted s d' r
  contents : ∀ c ∈ cs, d'.read c.path = d.read c.path
  skipped : cfg.skipped ⊆ cfg'.skipped

theorem passed_reportOn (ht : IsTrusted s d r) (h : Collects s.parts d r cfg cs) {c : Candidate} (hc : c ∈ cs) :
    (s.reportOn d r cfg c).passed = (judge s.parts d cfg.skipped none c).report.passed := by
  have hgist : ∀ f : FileReport, f.gist.passed = f.passed := fun _ => rfl
  rw [← hgist, gist_reportOn ht h hc, hgist]

theorem SkipsMore.passed_reportOn (h : SkipsMore s d d' r cfg cfg' cs) {c : Candidate} (hc : c ∈ cs)
    (hp : (s.reportOn d r cfg c).passed = true) : (s.reportOn d' r cfg' c).passed = true := by
  rw [Lint.passed_reportOn h.trusted h.collects hc] at hp
  rw [Lint.passed_reportOn h.trusted' h.collects' hc, judge_of_read (h.contents c hc)]
  exact passed_judge_of_subset h.skipped hp

theorem SkipsMore.passed_batch (h : SkipsMore s d d' r cfg cfg' cs) (hp : (s.batch d r cfg cs).passed = true) :
    (s.batch d' r cfg' cs).passed = true := by
  rw [Lint.passed_batch] at hp ⊢
  exact BatchReport.passed_map_of_imp (fun c hc => h.passed_reportOn hc) hp

theorem SkipsMore.passed_share (h : SkipsMore s d d' r cfg cfg' cs) {k : Component}
    (hp : (Component.share (cs.map (s.reportOn d r cfg)) k).passed = true) :
    (Component.share (cs.map (s.reportOn d' r cfg')) k).passed = true := by
  simp only [Component.share, Component.reports_map path_reportOn] at hp ⊢
  exact BatchReport.passed_map_of_imp (fun c hc => h.passed_reportOn (Component.mem_of_mem_candidates hc)) hp

theorem survey_skipRules (a : Scan.Access) (root : String) (dialect : Dialect) (cfg : Config)
    (rules : Option (List Text)) (e : Entry) :
    Scan.survey a root dialect { cfg with skipRules := rules } e = Scan.survey a root dialect cfg e := by
  have hcriteria : Scan.criteria a root dialect { cfg with skipRules := rules } = Scan.criteria a root dialect cfg := rfl
  unfold Scan.survey
  rw [hcriteria]

theorem scanDisk_skipRules (d : Disk) (root : String) (dialect : Dialect) (cfg : Config) (rules : Option (List Text)) :
    scanDisk d root dialect { cfg with skipRules := rules } = scanDisk d root dialect cfg := by
  have hrun : Scan.run d root dialect { cfg with skipRules := rules } = Scan.run d root dialect cfg := by
    unfold Scan.run
    simp only [survey_skipRules]
  unfold scanDisk
  rw [hrun]

theorem collect_congr {p : Parts} {d : Disk} {dialect : Dialect} {cfg cfg' : Config}
    (h : ∀ root, p.scan d root dialect cfg' = p.scan d root dialect cfg) (known : List Candidate) (paths : List String) :
    collect p d dialect cfg' known paths = collect p d dialect cfg known paths := by
  have hone : ∀ path, candidatesOf p d dialect cfg' path = candidatesOf p d dialect cfg path := by
    intro path
    unfold candidatesOf
    simp only [h]
  induction paths generalizing known with
  | nil => rfl
  | cons path paths ih =>
    rw [collect_cons, collect_cons, hone]
    simp only [ih]

theorem SkipsMore.files (h : SkipsMore s d d' r cfg cfg' cs) :
    List.Forall₂ (fun f f' : FileReport => f'.path = f.path ∧ (f.passed = true → f'.passed = true))
      (s.batch d r cfg cs).fileList (s.batch d' r cfg' cs).fileList := by
  rw [fileList_batch, fileList_batch, List.forall₂_map_left_iff, List.forall₂_map_right_iff, List.forall₂_same]
  exact fun c hc => ⟨(path_reportOn c).trans (path_reportOn c).symm, h.passed_reportOn hc⟩

theorem SkipsMore.components (h : SkipsMore s d d' r cfg cfg' cs)
    (hsame : s.parts.detect (run s d' r).disk r.project (cs.map Candidate.path) =
      s.parts.detect (run s d r).disk r.project (cs.map Candidate.path)) :
    List.Forall₂ (fun k k' : ComponentSummary => k'.name = k.name ∧ k'.path = k.path ∧
        (k.passed = true → k'.passed = true))
      (s.batch d r cfg cs).components (s.batch d' r cfg' cs).components := by
  rw [components_batch, components_batch, hsame]
  cases s.parts.detect (run s d r).disk r.project (cs.map Candidate.path) with
  | error e => exact .nil
  | ok ks =>
    have hname : ∀ files k, (Component.share files k).name = k.name := fun _ _ => rfl
    have hpath : ∀ files k, (Component.share files k).path = k.path := fun _ _ => rfl
    simp only [List.forall₂_map_left_iff, List.forall₂_map_right_iff, List.forall₂_same, hname, hpath, true_and]
    exact fun k _ => h.passed_share

end

/-- To leave out rules is to filter by the set of their names, in one step or in several. No file, batch or component
that passes fails because more rules are left out. -/
theorem skipped_rules_filter :
    (∀ (r : Findings) (s t : List String),
      ((r.without s).without t).Same (r.without (s ++ t)) ∧
      ((r.without s).without t).Same ((r.without t).without s) ∧
      ((∀ id, id ∈ s ↔ id ∈ t) → r.without s = r.without t) ∧ r.without [] = r ∧
      (r.without s).issueList = r.issueList.filter (fun f => f.rule ∉ s) ∧
      (r.without s).suggestionList = r.suggestionList.filter (fun f => f.rule ∉ s) ∧
      (s ⊆ t → (r.without s).passed = true → (r.without t).passed = true)) ∧
    ∀ (parse : String → Bytes → Except ParseFault Markup.Node)
      (detect : Disk → String → List String → Except Text (List Component)) (cache : Option String) (d d' : Disk)
      (r : Request) (cfg : Config) (rules : Option (List Text)) (b : BatchReport),
      let s : Service := ⟨⟨scanDisk, parse, detect⟩, cache, false⟩
      let more : Config := { cfg with skipRules := rules }
      Config.load d r.project = .ok cfg → Config.load d' r.project = .ok more → cfg.skipped ⊆ more.skipped →
      SameInput s r (r.dialectIn cfg) cfg d d' → IsTrusted s d r → IsTrusted s d' r →
      (run s d r).report = .ok b →
        ∃ b', (run s d' r).report = .ok b' ∧
          List.Forall₂ (fun f f' => f'.path = f.path ∧ (f.passed = true → f'.passed = true)) b.fileList b'.fileList ∧
          (b.passed = true → b'.passed = true) ∧
          List.Forall₂ (fun k k' => k'.name = k.name ∧ k'.path = k.path ∧ (k.passed = true → k'.passed = true))
            b.components b'.components := by
  constructor
  · intro r s t
    have hkeep : (fun f : Finding => !s.contains f.rule) = fun f => decide (f.rule ∉ s) := by
      funext f
      simp
    refine ⟨r.same_without_append s t, r.same_without_comm s t, r.without_congr, rfl, ?_, ?_,
      Findings.passed_without_of_subset⟩
    · rw [Findings.issueList_without, hkeep]
    · rw [Findings.suggestionList_without, hkeep]
  · intro parse detect cache d d' r cfg rules b s more hload hload' hskipped hsame ht ht' hb
    obtain ⟨cfg₀, cs, hc, rfl⟩ := exists_collects rfl hb
    obtain rfl : cfg₀ = cfg := Except.ok.inj (hc.loaded.symm.trans hload)
    have hscanned : collect s.parts d' (r.dialectIn more) more [] r.paths =
        collect s.parts d' (r.dialectIn cfg₀) cfg₀ [] r.paths :=
      collect_congr (fun root => scanDisk_skipRules d' root _ cfg₀ rules) [] r.paths
    have hcollected : (collect s.parts d' (r.dialectIn more) more [] r.paths).1 = .ok cs := by
      rw [hscanned, hsame.candidates, hc.collected]
    have h : SkipsMore s d d' r cfg₀ more cs :=
      ⟨hc, ⟨hload', hcollected⟩, ht, ht', hsame.contents cs hc.collected, hskipped⟩
    exact ⟨_, h.collects'.report rfl, h.files, h.passed_batch, h.components (hsame.components cs hc.collected)⟩

theorem skipped_rules_filter_actions :
    let document := Entry.file (utf8 "<services><service verb='get' noun='Order'/></services>")
    let d : Disk := { root := .folder [("p", .folder [
      (".moqlint.yaml", .file (utf8 "skip_rules: [actions-required]")), ("a.xml", document)])] }
    let d' : Disk := { root := .folder [("p", .folder [
      (".moqlint.yaml", .file (utf8 "skip_rules: [service-namespace, actions-required]")), ("a.xml", document)])] }
    let r : Request := { project := "/p", paths := ["/p"], dialect := .auto }
    let found : Findings := ⟨some [⟨.issue, "actions-required", "", "missing actions section"⟩], none⟩
    (found.without ["actions-required"]).passed = true ∧
      (found.without ["service-namespace", "actions-required"]).passed = true ∧
      ∃ b b', (run {} d r).report = .ok b ∧ (run {} d' r).report = .ok b' ∧ b.passed = true ∧ b'.passed = true := by
  intro document d d' r found
  have hfound : (found.without ["actions-required"]).passed = true := by decide
  have hsubset : ["actions-required"] ⊆ ["service-namespace", "actions-required"] := by decide
  refine ⟨hfound, (skipped_rules_filter.1 found _ _).2.2.2.2.2.2 hsubset hfound, ?_⟩
  let s : Service := {}
  let c : Candidate := ⟨"/p/a.xml", .service⟩
  let cfg : Config := { Config.standard with skipRules := some [Text.ofString "actions-required"] }
  let rules : Option (List Text) := some [Text.ofString "service-namespace", Text.ofString "actions-required"]
  have hskipped : cfg.skipped ⊆ ({ cfg with skipRules := rules } : Config).skipped := by
    simp [cfg, rules, Config.skipped]
  obtain ⟨hload, hscan, howned, hpassed⟩ : Config.load d r.project = .ok cfg ∧
      (collect s.parts d (r.dialectIn cfg) cfg [] r.paths).1 = .ok [c] ∧
      Component.detect d r.project [c.path] = [⟨"p", ".", [], ["/p/a.xml"]⟩] ∧
      (s.batch d r cfg [c]).passed = true := by decide +kernel
  obtain ⟨hload', hscan', howned'⟩ : Config.load d' r.project = .ok { cfg with skipRules := rules } ∧
      (collect s.parts d' (r.dialectIn cfg) cfg [] r.paths).1 = .ok [c] ∧
      Component.detect d' r.project [c.path] = [⟨"p", ".", [], ["/p/a.xml"]⟩] := by decide +kernel
  have hread : ∀ k ∈ [c], d'.read k.path = d.read k.path := by decide +kernel
  have hdetect : ∀ d root files, s.parts.detect d root files = .ok (Component.detect d root files) := fun _ _ _ => rfl
  have hdisk : ∀ d, (run s d r).disk = d := fun _ => disk_run rfl
  -- from here on it does not matter what is on the disks
  clear_value d d'
  have hsame : SameInput s r (r.dialectIn cfg) cfg d d' := by
    refine sameInput_of_collected hscan hscan' hread ?_
    rw [hdetect, hdetect, hdisk, hdisk]
    exact congrArg Except.ok (howned'.trans howned.symm)
  have htrusted : ∀ d, IsTrusted s d r := fun d h => absurd rfl h
  have hb : (run s d r).report = .ok (s.batch d r cfg [c]) := Collects.report ⟨hload, hscan⟩ rfl
  obtain ⟨b', hb', -, hverdict, -⟩ := skipped_rules_filter.2 s.parts.parse s.parts.detect none d d' r cfg rules _
    hload hload' hskipped hsame (htrusted d) (htrusted d') hb
  exact ⟨_, b', hb, hb', hpassed, hverdict hpassed⟩

end Lint

end MoquiLint
