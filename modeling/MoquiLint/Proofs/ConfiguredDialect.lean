import MoquiLint.Proofs.Candidates

/-!
# The configured dialect

A configuration may name its dialect in any case and with blanks around it, but a run takes the name as it
is written. Only the plain name means the dialect; under any other spelling there is no catalog for a file.
-/
namespace MoquiLint

/-- A text where nothing has to be replaced is the text of its string. -/
theorem Text.ofString_toString {t : Text} (h : Symbol.replacement ∉ codes t) :
    ofString (Text.toString t) = t := by
  refine ofString_toString_of_valid fun s hs => ?_
  cases s with
  | char c => rfl
  | stray b => exact absurd (List.mem_map.mpr ⟨_, hs, rfl⟩) h

namespace Dialect

theorem mem_valid_of_parse {t : Text} {d : Dialect} (h : parse t = .ok d) : d ∈ valid := by
  unfold parse at h
  simp only at h
  split_ifs at h
  all_goals
    cases h
    decide

theorem parse_name : ∀ d ∈ valid, parse (Text.ofString d.name) = .ok d := by
  decide +kernel

/-- The spelling of a dialect, unless it is the plain name, is not the name of any. -/
theorem not_mem_valid {t : Text} {d : Dialect} (h : parse t = .ok d) (ht : t ≠ Text.ofString d.name) :
    (⟨Text.toString t⟩ : Dialect) ∉ valid := by
  intro hv
  have hplain : ∀ d ∈ valid, Symbol.replacement ∉ d.name.toList := by decide
  have hcodes : Symbol.replacement ∉ Text.codes t := by
    have hn := hplain _ hv
    rwa [Text.toString, String.toList_ofList] at hn
  have hp := parse_name _ hv
  rw [Text.ofString_toString hcodes, h] at hp
  obtain rfl := Except.ok.inj hp
  exact ht (Text.ofString_toString hcodes).symm

theorem kind?_eq_none {d : Dialect} (h : d ∉ valid) : d.kind? = none := by
  simp only [valid, List.mem_cons, List.not_mem_nil, or_false, not_or] at h
  rw [kind?, if_neg h.2.1, if_neg h.2.2]

theorem isOpen_eq_false {d : Dialect} (h : d ∉ valid) (hn : d ≠ unset) : d.isOpen = false := by
  have ha : d ≠ auto := by
    rintro rfl
    exact h (by decide)
  simp [isOpen, ha, hn]

end Dialect

/-- A closed request classifies a document as what was requested. -/
theorem Sniff.eq_of_classify {data : Bytes} {requested d : Dialect} (h : classify data requested = some d)
    (ho : requested.isOpen = false) : d = requested := by
  unfold classify at h
  split at h
  · rename_i shown _
    rw [ho, Bool.false_or] at h
    split at h
    · rename_i he
      rw [eq_of_beq he]
      exact (Option.some.inj h).symm
    · cases h
  · rw [ho, if_neg Bool.false_ne_true] at h
    split at h
    · exact (Option.some.inj h).symm
    · cases h

theorem Rules.evaluate_unsupported (root : Option Markup.Node) {d : Dialect} (ho : d.isOpen = false)
    (hk : d.kind? = none) : evaluate root d = rootIssue ("unsupported dialect " ++ Str.quote d.name) := by
  simp [evaluate, ho, hk]

namespace Lint

theorem settle_of_isOpen_eq_false {d : Dialect} (h : d.isOpen = false) (shown : Option Dialect) :
    settle d shown = d := by
  have ha : d ≠ .auto := by
    rintro rfl
    cases h
  rw [settle, if_neg ha]

theorem judge_unsupported {d : Disk} {skip : List String} {c : Candidate} (ho : c.dialect.isOpen = false)
    (hk : c.dialect.kind? = none) {f : FileReport} (hf : f = (judge .standard d skip none c).report) :
    f.dialect = c.dialect ∧
      ∀ data root, d.read f.path = .ok data → Markup.parse f.path data = .ok root →
        f.result = (Rules.rootIssue ("unsupported dialect " ++ Str.quote c.dialect.name)).without skip := by
  obtain ⟨e, hr, h⟩ | ⟨data, e, hr, hp, h⟩ | ⟨data, root, hr, hp, h⟩ := judge_cases .standard d skip c
  · rw [hf, h]
    refine ⟨rfl, fun data root hr' _ => ?_⟩
    rw [hr] at hr'
    cases hr'
  · rw [hf, h, settle_of_isOpen_eq_false ho]
    refine ⟨rfl, fun data' root hr' hp' => ?_⟩
    obtain rfl := Except.ok.inj (hr.symm.trans hr')
    simp only [Parts.standard, parseDocument, hp'] at hp
    cases hp
  · rw [hf, h, settle_of_isOpen_eq_false ho, Rules.evaluate_unsupported (some root) ho hk]
    exact ⟨rfl, fun _ _ _ _ => rfl⟩

theorem dialect_of_mem_collect {d : Disk} {dialect : Dialect} (ho : dialect.isOpen = false) {cfg : Config}
    {paths : List String} {cs : List Candidate} (h : (collect .standard d dialect cfg [] paths).1 = .ok cs)
    {c : Candidate} (hc : c ∈ cs) : c.dialect = dialect := by
  rcases candidate_cases h hc with ⟨path, -, -, rfl⟩ | ⟨path, -, names, data, -, -, hs⟩
  · rfl
  · exact Sniff.eq_of_classify hs ho

theorem dialectIn_of_unset {r : Request} (h : r.dialect = .unset) (cfg : Config) :
    r.dialectIn cfg = ⟨Text.toString cfg.dialect⟩ := by
  rw [Request.dialectIn, if_pos h]

/-- The plain name of a dialect in the configuration is as good as a request for it. -/
theorem run_plain_name (s : Service) {d : Disk} {r : Request} {cfg : Config}
    (hcfg : Config.load d r.project = .ok cfg) (hr : r.dialect = .unset) {dialect : Dialect}
    (hv : dialect ∈ Dialect.valid) (hname : cfg.dialect = Text.ofString dialect.name) :
    run s d r = run s d { r with dialect := dialect } := by
  have hset : dialect ≠ .unset := by
    rintro rfl
    exact absurd hv (by decide)
  have hin : r.dialectIn cfg = dialect := by
    rw [dialectIn_of_unset hr, hname, Text.toString_ofString]
  have hin' : ({ r with dialect := dialect } : Request).dialectIn cfg = dialect := if_neg hset
  unfold run prepare
  simp only [hcfg, hin, hin']

theorem report_other_spelling {canceled : Bool} {d : Disk} {r : Request} {cfg : Config}
    (hcfg : Config.load d r.project = .ok cfg) (hr : r.dialect = .unset)
    (hv : (⟨Text.toString cfg.dialect⟩ : Dialect) ∉ Dialect.valid) {b : BatchReport}
    (hb : (run ⟨.standard, none, canceled⟩ d r).report = .ok b) {f : FileReport} (hf : f ∈ b.fileList) :
    f.dialect.name = Text.toString cfg.dialect ∧
      ∀ data root, d.read f.path = .ok data → Markup.parse f.path data = .ok root →
        f.result = (Rules.rootIssue
          ("unsupported dialect " ++ Str.quote (Text.toString cfg.dialect))).without cfg.skipped := by
  obtain ⟨hne, -⟩ := Config.parse_of_load hcfg
  have hu : (⟨Text.toString cfg.dialect⟩ : Dialect) ≠ .unset := by
    intro he
    have hc : Text.codes cfg.dialect = [] := by
      simpa [Text.toString, Dialect.unset] using congrArg Dialect.name he
    exact hne (List.map_eq_nil_iff.mp hc)
  have ho := Dialect.isOpen_eq_false hv hu
  obtain ⟨cfg', cs, hcfg', hcs, c, hc, hj⟩ := mem_fileList_run hb hf
  obtain rfl := Except.ok.inj (hcfg.symm.trans hcfg')
  rw [dialectIn_of_unset hr] at hcs
  have hd := dialect_of_mem_collect ho hcs hc
  obtain ⟨hdialect, hresult⟩ := judge_unsupported (hd ▸ ho) (hd ▸ Dialect.kind?_eq_none hv) hj
  rw [hd] at hdialect hresult
  exact ⟨congrArg Dialect.name hdialect, hresult⟩

/-- What the dialect of a configuration means for a run that is asked for none: the one it names if it is
given by its plain name, and else an unsupported one. -/
theorem run_configured_dialect {d : Disk} {r : Request} {cfg : Config} (hcfg : Config.load d r.project = .ok cfg)
    (hr : r.dialect = .unset) :
    ∃ dialect ∈ Dialect.valid, Dialect.parse cfg.dialect = .ok dialect ∧
      (cfg.dialect = Text.ofString dialect.name → ∀ s, run s d r = run s d { r with dialect := dialect }) ∧
      (cfg.dialect ≠ Text.ofString dialect.name → ∀ canceled b,
        (run ⟨.standard, none, canceled⟩ d r).report = .ok b → ∀ f ∈ b.fileList,
          f.dialect.name = Text.toString cfg.dialect ∧
            ∀ data root, d.read f.path = .ok data → Markup.parse f.path data = .ok root →
              f.result = (Rules.rootIssue
                ("unsupported dialect " ++ Str.quote (Text.toString cfg.dialect))).without cfg.skipped) := by
  obtain ⟨-, dialect, hp⟩ := Config.parse_of_load hcfg
  have hv := Dialect.mem_valid_of_parse hp
  refine ⟨dialect, hv, hp, ?_, ?_⟩
  · intro hname s
    exact run_plain_name s hcfg hr hv hname
  · intro hother canceled b hb f hf
    exact report_other_spelling hcfg hr (Dialect.not_mem_valid hp hother) hb hf

theorem run_configured_capital :
    let d : Disk := { root := .folder [("p", .folder [(".moqlint.yaml", .file (utf8 "dialect: Entity")),
      ("a.xml", .file (utf8 "<entities/>"))])] }
    let r : Request := { project := "/p", paths := ["/p/a.xml"] }
    Config.load d "/p" = .ok { dialect := Text.ofString "Entity" } ∧
      ∀ b, (run {} d r).report = .ok b → ∀ f ∈ b.fileList, f.dialect.name = "Entity" := by
  intro d r
  have hcfg : Config.load d r.project = .ok { dialect := Text.ofString "Entity" } := by decide +kernel
  obtain ⟨dialect, -, hp, -, hother⟩ := run_configured_dialect hcfg rfl
  have hd : dialect = .entity := Except.ok.inj (hp.symm.trans (by decide +kernel))
  refine ⟨hcfg, fun b hb f hf => ?_⟩
  exact (hother (by rw [hd]; decide) false b hb f hf).1

/-- A run does not take the spelling of a configured dialect for the dialect itself. -/
theorem configured_capital_fails :
    let namespaced := "<entities xsi:noNamespaceSchemaLocation='http://moqui.org/xsd/entity-definition-3.xsd'/>"
    let d : Disk := { root := .folder [("p", .folder [(".moqlint.yaml", .file (utf8 "dialect: Entity")),
      ("a.xml", .file (utf8 namespaced))])] }
    let r : Request := { project := "/p", paths := ["/p/a.xml"] }
    Config.load d "/p" = .ok { dialect := Text.ofString "Entity" } ∧
      Dialect.parse (Text.ofString "Entity") = .ok .entity ∧
      (run {} d r).report.map (·.passed) = .ok false ∧
      (run {} d { r with dialect := .entity }).report.map (·.passed) = .ok true := by
  decide +kernel

end Lint

end MoquiLint
