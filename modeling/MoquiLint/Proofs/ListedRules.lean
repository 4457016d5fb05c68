import Mathlib.Data.List.Nodup
import MoquiLint.Config
import MoquiLint.Proofs.EntityTable
import MoquiLint.Proofs.ServiceTable

/-!
# Every finding is of a listed rule

A document is evaluated with the rules of one kind of document, or it has one issue about its root element.
The identifiers of the rules differ from each other and from that of the root check, and all of them are known
to configurations, so each finding can be looked up and can be left out.
-/
namespace MoquiLint

namespace Findings

def all (r : Findings) : List Finding := r.issueList ++ r.suggestionList

theorem issueList_filed (fs : List Finding) :
    (filed fs).issueList = fs.filter fun f => f.severity = .issue := getD_present _

theorem suggestionList_filed (fs : List Finding) :
    (filed fs).suggestionList = fs.filter fun f => f.severity = .suggestion := getD_present _

theorem mem_of_mem_all_filed {fs : List Finding} {f : Finding} (h : f ∈ (filed fs).all) : f ∈ fs := by
  rw [all, issueList_filed, suggestionList_filed, List.mem_append] at h
  rcases h with h | h
  · exact List.mem_of_mem_filter h
  · exact List.mem_of_mem_filter h

theorem without_eq_empty {r : Findings} {skip : List String} (hs : skip ≠ [])
    (h : ∀ f ∈ r.all, f.rule ∈ skip) : r.without skip = {} := by
  have hnone : ∀ fs : List Finding, (∀ f ∈ fs, f.rule ∈ skip) →
      (fs.filter fun f => !skip.contains f.rule) = [] := by
    intro fs hfs
    exact List.filter_eq_nil_iff.mpr fun f hf => by simp [hfs f hf]
  have hissues := hnone r.issueList fun f hf => h f (List.mem_append_left _ hf)
  have hsuggestions := hnone r.suggestionList fun f hf => h f (List.mem_append_right _ hf)
  simp only [without, List.isEmpty_iff, hs, ↓reduceIte, hissues, hsuggestions]
  rfl

end Findings

theorem DocKind.ofRootTag?_eq_some {tag : String} {kind : DocKind} :
    ofRootTag? tag = some kind ↔ tag = kind.rootTag := by
  unfold ofRootTag?
  cases kind <;> simp only [rootTag, beq_iff_eq] <;> split_ifs <;> simp_all

theorem Dialect.kind?_eq_some {d : Dialect} {kind : DocKind} : d.kind? = some kind ↔ d = .ofKind kind := by
  have hne : entity ≠ service := by decide
  unfold kind?
  cases kind <;> simp only [ofKind] <;> split_ifs <;> simp_all

theorem Dialect.isOpen_iff {d : Dialect} : d.isOpen = true ↔ d = .auto ∨ d = .unset := by
  simp [isOpen]

namespace Rules

open Markup (Node)

/-! ### Documents of a dialect -/

/-- The dialects that take a kind of document: its own, and those that leave the choice open. -/
def takers (kind : DocKind) : List Dialect := [.ofKind kind, .auto, .unset]

/-- The kind that a document is evaluated for is the one its root element has if the dialect takes that kind. -/
theorem kind_eq_some_iff {tag : String} {kind : DocKind} (ht : tag = kind.rootTag) (d : Dialect) :
    (if d.isOpen then DocKind.ofRootTag? tag else d.kind?) = some kind ↔ d ∈ takers kind := by
  simp only [takers, List.mem_cons, List.not_mem_nil, or_false, ← Dialect.isOpen_iff]
  cases ho : d.isOpen with
  | true => simp [DocKind.ofRootTag?_eq_some, ht]
  | false => simp [Dialect.kind?_eq_some]

theorem severity_of_mem_catalog (kind : DocKind) :
    ∀ r ∈ (catalogOf kind).rules, r.severity = .issue ∨ r.severity = .suggestion := by
  cases kind with
  | entity => exact EntityTable.severity_of_mem_rules
  | service => exact ServiceTable.severity_of_mem_rules

/-- A document is evaluated with the rules of its kind if the dialect takes this kind. Anything else has one
issue, about its root element. -/
theorem evaluate_cases (root : Option Node) (d : Dialect) :
    (∃ n kind, root = some n ∧ n.tag = kind.rootTag ∧ d ∈ takers kind ∧
        evaluate root d = Findings.filed ((catalogOf kind).findings n)) ∨
      (∀ kind, root.map Node.tag = some kind.rootTag → d ∉ takers kind) ∧
        ∃ message, evaluate root d = rootIssue message := by
  cases root with
  | none =>
    refine .inr ⟨by simp, ?_⟩
    unfold evaluate
    simp only
    split
    · split <;> exact ⟨_, rfl⟩
    · exact ⟨_, rfl⟩
  | some n =>
    unfold evaluate
    simp only [Option.map_some, Option.getD_some]
    cases hkind : if d.isOpen then DocKind.ofRootTag? n.tag else d.kind? with
    | none =>
      refine .inr ⟨fun kind ht hd => ?_, ?_⟩
      · rw [(kind_eq_some_iff (Option.some.inj ht) d).mpr hd] at hkind
        cases hkind
      · simp only
        split <;> exact ⟨_, rfl⟩
    | some kind =>
      simp only [beq_iff_eq]
      split
      · rename_i ht
        exact .inl ⟨n, kind, rfl, ht, (kind_eq_some_iff ht d).mp hkind,
          evaluate_eq_filed (severity_of_mem_catalog kind) n⟩
      · rename_i hne
        refine .inr ⟨fun kind' ht hd => ?_, _, rfl⟩
        -- a kind that fits both the dialect and the root element is the one that was chosen
        rw [(kind_eq_some_iff (Option.some.inj ht) d).mpr hd] at hkind
        exact hne (Option.some.inj hkind ▸ Option.some.inj ht)

/-! ### Lists of rules -/

/-- The rules of a catalog have different identifiers, known to configurations, and none is that of the root
check. -/
theorem ruleIds_of_catalog (kind : DocKind) :
    ((catalogOf kind).rules.map Rule.id).Nodup ∧
      ∀ r ∈ (catalogOf kind).rules, r.id ∈ Config.ruleIds ∧ r.id ≠ rootRule := by
  cases kind <;> decide

theorem infos_ofKind (kind : DocKind) : infos (.ofKind kind) = rootInfo :: (catalogOf kind).infos := by
  cases kind <;> rfl

theorem nodup_infos (kind : DocKind) : ((infos (.ofKind kind)).map Info.id).Nodup := by
  obtain ⟨hn, hr⟩ := ruleIds_of_catalog kind
  have hids : (catalogOf kind).infos.map Info.id = (catalogOf kind).rules.map Rule.id := by
    rw [Catalog.infos, List.map_map]
    rfl
  rw [infos_ofKind, List.map_cons, hids, List.nodup_cons]
  refine ⟨fun hroot => ?_, hn⟩
  obtain ⟨r, hmem, hid⟩ := List.mem_map.mp hroot
  exact (hr r hmem).2 hid

/-- The list of rules for a dialect has the rule of the finding, and no other entry under its identifier. -/
def IsListed (d : Dialect) (f : Finding) : Prop :=
  ∃ i ∈ infos d, (i.id = f.rule ∧ i.severity = f.severity) ∧ ∀ j ∈ infos d, j.id = f.rule → j = i

theorem isListed_of_isOf {kind : DocKind} {f : Finding} (h : IsOf (catalogOf kind).rules f) :
    IsListed (.ofKind kind) f ∧ f.rule ∈ Config.ruleIds ∧ f.rule ≠ rootRule := by
  obtain ⟨r, hr, hrule, hseverity⟩ := h
  have hmem : (⟨r.id, .ofKind (catalogOf kind).kind, r.severity, r.target.name, r.description⟩ : Info) ∈
      infos (.ofKind kind) := by
    rw [infos_ofKind]
    exact List.mem_cons_of_mem _ (List.mem_map_of_mem hr)
  rw [IsListed, hrule, hseverity]
  exact ⟨⟨_, hmem, ⟨rfl, rfl⟩, fun j hj hid => List.inj_on_of_nodup_map (nodup_infos kind) hj hmem hid⟩,
    (ruleIds_of_catalog kind).2 r hr⟩

/-! ### Findings -/

section
variable {root : Option Node} {d : Dialect} {f : Finding}

theorem all_rootIssue (message : String) : (rootIssue message).all = [⟨.issue, rootRule, "", message⟩] := rfl

/-- A finding is that of the root check, and then the only one, or of a rule for the kind of the document. -/
theorem mem_all_evaluate (h : f ∈ (evaluate root d).all) :
    (f.rule = rootRule ∧ (evaluate root d).all = [f] ∧
        ∀ kind, root.map Node.tag = some kind.rootTag → d ∉ takers kind) ∨
      ∃ n kind, root = some n ∧ n.tag = kind.rootTag ∧ d ∈ takers kind ∧ IsOf (catalogOf kind).rules f := by
  obtain ⟨n, kind, hn, ht, hd, he⟩ | ⟨hother, message, he⟩ := evaluate_cases root d
  · rw [he] at h
    exact .inr ⟨n, kind, hn, ht, hd, isOf_of_mem_findings (Findings.mem_of_mem_all_filed h)⟩
  · rw [he, all_rootIssue] at h ⊢
    obtain rfl := List.mem_singleton.mp h
    exact .inl ⟨rfl, rfl, hother⟩

theorem rule_mem_ruleIds (h : f ∈ (evaluate root d).all) : f.rule ∈ Config.ruleIds := by
  obtain ⟨hroot, -⟩ | ⟨n, kind, -, -, -, hof⟩ := mem_all_evaluate h
  · rw [hroot]
    decide
  · exact (isListed_of_isOf hof).2.1

theorem isListed_of_mem_all (h : f ∈ (evaluate root d).all) (hne : f.rule ≠ rootRule) :
    ∃ n shown, root = some n ∧ Dialect.forRoot? n.tag = some shown ∧ IsListed shown f := by
  obtain ⟨hroot, -⟩ | ⟨n, kind, hn, ht, -, hof⟩ := mem_all_evaluate h
  · exact absurd hroot hne
  · refine ⟨n, .ofKind kind, hn, ?_, (isListed_of_isOf hof).1⟩
    rw [Dialect.forRoot?, DocKind.ofRootTag?_eq_some.mpr ht, Option.map_some]

/-- Findings are filed by their severity. -/
theorem severity_of_mem_evaluate (root : Option Node) (d : Dialect) :
    (∀ f ∈ (evaluate root d).issueList, f.severity = .issue) ∧
      ∀ f ∈ (evaluate root d).suggestionList, f.severity = .suggestion := by
  obtain ⟨n, kind, -, -, -, he⟩ | ⟨-, message, he⟩ := evaluate_cases root d
  · rw [he, Findings.issueList_filed, Findings.suggestionList_filed]
    exact ⟨fun f hf => of_decide_eq_true (List.mem_filter.mp hf).2,
      fun f hf => of_decide_eq_true (List.mem_filter.mp hf).2⟩
  · rw [he]
    exact ⟨List.forall_mem_singleton.mpr rfl, List.forall_mem_nil _⟩

theorem rootRule_absent_iff (root : Option Node) (d : Dialect) :
    (∀ f ∈ (evaluate root d).all, f.rule ≠ rootRule) ↔
      ∃ kind, root.map Node.tag = some kind.rootTag ∧ d ∈ takers kind := by
  obtain ⟨n, kind, hn, ht, hd, he⟩ | ⟨hother, message, he⟩ := evaluate_cases root d
  · refine ⟨fun _ => ⟨kind, by rw [hn, Option.map_some, ht], hd⟩, fun _ f hf => ?_⟩
    rw [he] at hf
    exact (isListed_of_isOf (isOf_of_mem_findings (Findings.mem_of_mem_all_filed hf))).2.2
  · rw [he, all_rootIssue, List.forall_mem_singleton]
    exact ⟨fun hne => absurd rfl hne, fun ⟨kind, ht, hd⟩ => absurd hd (hother kind ht)⟩

theorem eq_singleton_of_rootRule (h : f ∈ (evaluate root d).all) (hroot : f.rule = rootRule) :
    (evaluate root d).all = [f] := by
  obtain ⟨-, hall, -⟩ | ⟨n, kind, -, -, -, hof⟩ := mem_all_evaluate h
  · exact hall
  · exact absurd hroot (isListed_of_isOf hof).2.2

end

/-- Every finding has a known rule, and unless it is about the root element, this rule is listed for the dialect of
the root element with the severity of the finding. Issues and suggestions are filed apart; the check of the root
element reports exactly on documents that the dialect does not take, and then alone; and nothing is left without
the known rules. -/
theorem findings_listed (root : Option Node) (d : Dialect) :
    (∀ f ∈ (evaluate root d).all, f.rule ∈ Config.ruleIds ∧
      (f.rule ≠ rootRule →
        ∃ n shown, root = some n ∧ Dialect.forRoot? n.tag = some shown ∧ IsListed shown f) ∧
      (f.rule = rootRule → (evaluate root d).all = [f])) ∧
    (∀ f ∈ (evaluate root d).issueList, f.severity = .issue) ∧
    (∀ f ∈ (evaluate root d).suggestionList, f.severity = .suggestion) ∧
    ((∀ f ∈ (evaluate root d).all, f.rule ≠ rootRule) ↔
      root.map Node.tag = some "entities" ∧ d ∈ [.entity, .auto, .unset] ∨
        root.map Node.tag = some "services" ∧ d ∈ [.service, .auto, .unset]) ∧
    (evaluate root d).without Config.ruleIds = {} := by
  obtain ⟨hissues, hsuggestions⟩ := severity_of_mem_evaluate root d
  refine ⟨fun f hf => ⟨rule_mem_ruleIds hf, isListed_of_mem_all hf, eq_singleton_of_rootRule hf⟩, hissues,
    hsuggestions, ?_, Findings.without_eq_empty (by decide) fun f hf => rule_mem_ruleIds hf⟩
  rw [rootRule_absent_iff]
  constructor
  · rintro ⟨kind, h⟩
    cases kind with
    | entity => exact .inl h
    | service => exact .inr h
  · rintro (h | h)
    · exact ⟨.entity, h⟩
    · exact ⟨.service, h⟩

/-- A suggestion about a noun, and the issue about a document that is taken for another dialect. -/
theorem findings_listed_noun :
    let service : Node := ⟨"service", [⟨"verb", "get"⟩, ⟨"noun", "order"⟩], [], "", 2⟩
    let root : Node := ⟨"services", [], [service], "", 1⟩
    let f : Finding :=
      ⟨.suggestion, "noun-pascal-case", "Service 'get#order'", "consider PascalCase for noun ('Order')"⟩
    (f ∈ (evaluate (some root) .auto).all ∧ f.rule ∈ Config.ruleIds ∧
        ∃ n shown, some root = some n ∧ Dialect.forRoot? n.tag = some shown ∧ IsListed shown f) ∧
      ¬∀ g ∈ (evaluate (some root) .entity).all, g.rule ≠ rootRule := by
  intro service root f
  have hf : f ∈ (evaluate (some root) .auto).all := by decide +kernel
  obtain ⟨hrule, hlisted, -⟩ := (findings_listed (some root) .auto).1 f hf
  refine ⟨⟨hf, hrule, hlisted (by decide)⟩, ?_⟩
  rw [(findings_listed (some root) .entity).2.2.2.1]
  decide

end Rules

end MoquiLint
