import MoquiLint.Proofs.Rows

/-!
# The table of service rules

As for entities: the documented table is written down row by row, and evaluation with the service catalog
is proved to file exactly the findings of the table. Parameters are those of the first `in-parameters`
alone, and only the first `actions` counts.
-/
namespace MoquiLint.Rules

open Markup (Node)

namespace ServiceTable

def documentRows (root : Node) : List Finding :=
  row (¬∃ a ∈ root.attrs, Service.schema.toList <:+: a.name.toList ∨
      Service.schema.toList <:+: a.value.toList)
    ⟨.suggestion, "service-namespace", "",
      "Consider adding XSD namespace: xmlns:xsi='http://www.w3.org/2001/XMLSchema-instance' " ++
        "xsi:noNamespaceSchemaLocation='" ++ Service.schema ++ "'"⟩

def Unnamed (s : Node) : Prop := Lacks s "verb" ∨ Lacks s "noun"

instance (s : Node) : Decidable (Unnamed s) := inferInstanceAs (Decidable (_ ∨ _))

def title (s : Node) : String :=
  if Unnamed s then "unnamed service" else s.value "verb" ++ "#" ++ s.value "noun"

def subject (s : Node) : String := "Service '" ++ title s ++ "'"

/-- The advice on a noun carries its spelling with capitals if there is one and it is another. -/
def nounMessage (noun : String) : String :=
  let spelling := Text.toString (Naming.pascalCase (Text.ofString noun))
  if spelling ≠ "" ∧ spelling ≠ noun then "consider PascalCase for noun ('" ++ spelling ++ "')"
  else "consider PascalCase for noun"

/-- Findings about the service itself. A service without the attribute `authenticate` is authenticated,
one with an empty attribute is not. -/
def ownRows (s : Node) : List Finding :=
  row (Unnamed s) ⟨.issue, "service-identity", subject s, "missing verb or noun attributes"⟩ ++
  row (Naming.HasCapital (s.value "verb"))
    ⟨.issue, "verb-lowercase", subject s, "verb '" ++ s.value "verb" ++ "' should be lowercase"⟩ ++
  row (¬Lacks s "noun" ∧ ¬Naming.StartsCapital (s.value "noun"))
    ⟨.suggestion, "noun-pascal-case", subject s, nounMessage (s.value "noun")⟩ ++
  row ((s.attr? "authenticate" = none ∨ s.attr? "authenticate" = some "true") ∧
      s.attr? "require-all-roles" = none)
    ⟨.suggestion, "require-all-roles", subject s, "consider adding require-all-roles for security"⟩

/-- The parameters that count: all of the first `in-parameters`. -/
def parameters (s : Node) : List Node :=
  match s.childrenNamed "in-parameters" with
  | [] => []
  | first :: _ => first.childrenNamed "parameter"

/-- Findings about a parameter; without a name there is only one. -/
def parameterRows (s p : Node) : List Finding :=
  if Lacks p "name" then [⟨.issue, "parameter-name-required", subject s, "parameter missing name"⟩]
  else
    row (Lacks p "type" ∧ Lacks p "required")
      ⟨.suggestion, "parameter-type", subject s,
        "parameter '" ++ p.value "name" ++ "': consider adding type specification"⟩

/-- Neither child elements nor anything but white space. -/
def Blank (n : Node) : Prop := n.children = [] ∧ ∀ c ∈ n.text.toList, Text.isSpace c = true

instance (n : Node) : Decidable (Blank n) :=
  decidable_of_iff (n.children.isEmpty = true ∧ n.text.toList.all Text.isSpace = true)
    (by simp [Blank])

def actionsRows (s : Node) : List Finding :=
  match s.childrenNamed "actions" with
  | [] => [⟨.issue, "actions-required", subject s, "missing actions section"⟩]
  | first :: _ => row (Blank first) ⟨.issue, "actions-empty", subject s, "empty actions section"⟩

def serviceRows (s : Node) : List Finding :=
  ownRows s ++ (parameters s).flatMap (parameterRows s) ++ actionsRows s

def table (root : Node) : List Finding :=
  documentRows root ++ (root.childrenNamed "service").flatMap serviceRows

def context (root s n : Node) : Context where
  root := root
  owner := some s
  node := n
  name := title s
  subject := subject s

/-! ### Conditions -/

theorem child?_eq_head? (n : Node) (tag : String) : n.child? tag = (n.childrenNamed tag).head? := by
  rw [Node.child?, Node.childrenNamed, List.head?_filter]

theorem isBlank_iff (n : Node) : n.isBlank = true ↔ Blank n := by
  have ht : Str.trimSpace n.text = "" ↔ Seq.trim Text.isSpace n.text.toList = [] := by
    rw [Str.trimSpace, String.ofList_eq_empty_iff]
  rw [Node.isBlank, Bool.and_eq_true, List.isEmpty_iff, beq_iff_eq, ht, Seq.trim_eq_nil_iff, Blank]

theorem unnamed_iff (s : Node) : (s.value "verb" == "" || s.value "noun" == "") = true ↔ Unnamed s := by
  rw [Bool.or_eq_true, lacks_iff, lacks_iff, Unnamed]

theorem lowerNoun_iff (s : Node) :
    (s.value "noun" != "" && !Naming.startsUpper (Text.ofString (s.value "noun"))) = true ↔
      ¬Lacks s "noun" ∧ ¬Naming.StartsCapital (s.value "noun") := by
  rw [Bool.and_eq_true, bne_iff_ne, ne_eq, value_eq_empty_iff, Bool.not_eq_true',
    ← Bool.not_eq_true, Naming.startsUpper_iff]

theorem lacksRoles_iff (s : Node) :
    ((s.attr? "authenticate").getD "true" == "true" && (s.attr? "require-all-roles").isNone) = true ↔
      (s.attr? "authenticate" = none ∨ s.attr? "authenticate" = some "true") ∧
        s.attr? "require-all-roles" = none := by
  rw [Bool.and_eq_true, beq_iff_eq, Option.isNone_iff_eq_none]
  cases s.attr? "authenticate" <;> simp

theorem untyped_iff (p : Node) :
    (p.value "type" == "" && p.value "required" == "") = true ↔ Lacks p "type" ∧ Lacks p "required" := by
  rw [Bool.and_eq_true, lacks_iff, lacks_iff]

theorem nounAdvice_eq (noun : String) : Service.nounAdvice noun = nounMessage noun := by
  simp [Service.nounAdvice, Service.proposal, nounMessage]

/-! ### Rules -/

theorem reports_document (root : Node) :
    reports .document { root := root, node := root } Service.rules = (documentRows root, false) := by
  have h := mentions_schema_iff Service.schema root
  simp only [reports, Service.rules, Rule.findings, checkNamespace, reduceCtorEq, ↓reduceIte,
    Bool.false_and, Bool.false_eq_true, map_reportIf h, List.append_nil]
  rfl

theorem reports_service (root s : Node) :
    reports .service (context root s s) Service.rules = (ownRows s, false) := by
  simp only [reports, Service.rules, Rule.findings, context, reduceCtorEq, ↓reduceIte,
    Bool.false_and, Bool.false_eq_true, map_reportIf (unnamed_iff s),
    map_reportIf (Naming.hasUpper_iff _), map_reportIf (lowerNoun_iff s), nounAdvice_eq,
    map_reportIf (lacksRoles_iff s), List.append_nil, ownRows, List.append_assoc]

theorem reports_parameter (root s p : Node) :
    reports .parameter (context root s p) Service.rules =
      (parameterRows s p, decide (Lacks p "name")) := by
  by_cases h : Lacks p "name"
  · have hv : (p.value "name" == "") = true := (lacks_iff p "name").mpr h
    simp only [reports, Service.rules, Rule.findings, context, reduceCtorEq, ↓reduceIte, reportIf, hv,
      List.isEmpty_cons, Bool.not_false, Bool.and_self, List.map_cons, List.map_nil, parameterRows, h,
      decide_true]
  · have hv : reportIf (p.value "name" == "") "parameter missing name" = [] := by
      simp [reportIf, value_eq_empty_iff, h]
    simp only [reports, Service.rules, Rule.findings, context, reduceCtorEq, ↓reduceIte, hv,
      Bool.false_eq_true, Bool.false_and, List.isEmpty_nil, Bool.not_true, Bool.and_false,
      List.map_nil, List.nil_append, map_reportIf (untyped_iff p), parameterRows, h, decide_false,
      List.append_nil]

/-- The two rules about actions exclude each other. -/
theorem reports_actions (root s : Node) :
    reports .actions (context root s s) Service.rules = (actionsRows s, false) := by
  have hc := child?_eq_head? s "actions"
  cases hs : s.childrenNamed "actions" with
  | nil =>
    rw [hs, List.head?_nil] at hc
    simp only [reports, Service.rules, Rule.findings, context, reduceCtorEq, ↓reduceIte, hc,
      Option.isNone_none, Option.any_none, reportIf, Bool.false_and, Bool.false_eq_true, List.map_cons,
      List.map_nil, List.append_nil, actionsRows, hs]
  | cons a rest =>
    rw [hs, List.head?_cons] at hc
    simp only [reports, Service.rules, Rule.findings, context, reduceCtorEq, ↓reduceIte, hc,
      Option.isNone_some, Option.any_some, Bool.false_and, Bool.false_eq_true,
      map_reportIf (isBlank_iff a), List.append_nil, actionsRows, hs]
    rfl

/-! ### The walk -/

theorem resolve_parameters (s : Node) :
    resolve s ["in-parameters", "parameter"] = parameters s := by
  have hc := child?_eq_head? s "in-parameters"
  unfold parameters
  rw [resolve, hc]
  · cases s.childrenNamed "in-parameters" <;> rfl
  · simp

theorem reached_parameters (root s : Node) :
    reached Service.rules (context root s s) (.mk .parameter ["in-parameters", "parameter"] []) =
      (parameters s).flatMap (parameterRows s) := by
  have hr : resolve (context root s s).node ["in-parameters", "parameter"] = parameters s :=
    resolve_parameters s
  rw [reached, hr]
  congr 1
  funext p
  have hp := reports_parameter root s p
  simp only [context] at hp ⊢
  simp only [hp, below, ite_self, List.append_nil]

/-- The walk from a service finds the rows of the service. -/
theorem below_plan (root s : Node) :
    below Service.rules (context root s s) Service.plan = serviceRows s := by
  simp only [Service.plan, below, reached_self, reached_parameters, reports_service, reports_actions,
    List.append_nil, serviceRows, List.append_assoc]

/-! ### The document -/

theorem owner_eq (s : Node) : Service.owner s = (title s, subject s) := by
  have ht : Naming.serviceName (s.value "verb") (s.value "noun") = title s := by
    by_cases h : Unnamed s
    · rw [Naming.serviceName, if_pos ((unnamed_iff s).mpr h), title, if_pos h]
    · rw [Naming.serviceName, if_neg (mt (unnamed_iff s).mp h), title, if_neg h]
  simp [Service.owner, subject, ht]

theorem findings_catalog (root : Node) : Service.catalog.findings root = table root := by
  have hb : (fun s => below Service.catalog.rules
      { root := root, owner := some s, node := s, name := (Service.catalog.owner s).1,
        subject := (Service.catalog.owner s).2 } Service.catalog.plan) = serviceRows := by
    funext s
    simp only [Service.catalog, owner_eq]
    exact below_plan root s
  rw [Catalog.findings, hb, table, Service.catalog, reports_document]
  rfl

theorem severity_of_mem_rules : ∀ r ∈ Service.rules, r.severity = .issue ∨ r.severity = .suggestion := by
  decide

/-- A document of services has exactly the findings of the table, in its order, each filed by its
severity. -/
theorem evaluate_service_eq_table {root : Node} (h : root.tag = "services") :
    evaluate (some root) .service = Findings.filed (table root) := by
  have hk : Dialect.kind? .service = some .service := by decide
  have ho : Dialect.isOpen .service = false := by decide
  have hc : evaluate (some root) .service = Service.catalog.evaluate root := by
    simp [evaluate, hk, ho, h, DocKind.rootTag, catalogOf]
  rw [hc, evaluate_eq_filed severity_of_mem_rules, findings_catalog]

theorem evaluate_service_order :
    let untyped : Node := ⟨"parameter", [⟨"name", "orderId"⟩], [], "", 4⟩
    let first : Node := ⟨"in-parameters", [], [untyped, ⟨"parameter", [], [], "", 5⟩], "", 3⟩
    let second : Node := ⟨"in-parameters", [], [⟨"parameter", [], [], "", 7⟩], "", 6⟩
    let place : Node := ⟨"service", [⟨"verb", "Place"⟩, ⟨"noun", "order_item"⟩],
      [first, second, ⟨"actions", [], [], " ", 8⟩, ⟨"actions", [], [untyped], "", 9⟩], "", 2⟩
    let result := evaluate (some ⟨"services", [], [place], "", 1⟩) .service
    result.issueList.map (fun f => (f.rule, f.subject)) =
        [("verb-lowercase", "Service 'Place#order_item'"),
          ("parameter-name-required", "Service 'Place#order_item'"),
          ("actions-empty", "Service 'Place#order_item'")] ∧
      result.suggestionList.map Finding.rule =
        ["service-namespace", "noun-pascal-case", "require-all-roles", "parameter-type"] := by
  intro untyped first second place result
  have hr : result = Findings.filed (table ⟨"services", [], [place], "", 1⟩) :=
    evaluate_service_eq_table rfl
  rw [hr]
  exact ⟨by decide +kernel, by decide +kernel⟩

end ServiceTable

end MoquiLint.Rules
