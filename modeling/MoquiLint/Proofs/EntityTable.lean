import MoquiLint.Proofs.Rows

/-!
# The table of entity rules

The documented table says of a document of entities which findings there are, in which order and with
which message. It is written down here row by row, without rules, targets or steps, and evaluation with
the entity catalog is proved to file exactly the findings of the table.
-/
namespace MoquiLint.Rules

open Markup (Node)

namespace EntityTable

/-- No attribute of the root mentions the schema location. -/
def documentRows (root : Node) : List Finding :=
  row (¬∃ a ∈ root.attrs, Entity.schema.toList <:+: a.name.toList ∨
      Entity.schema.toList <:+: a.value.toList)
    ⟨.suggestion, "entity-namespace", "",
      "Consider adding XSD namespace: xmlns:xsi='http://www.w3.org/2001/XMLSchema-instance' " ++
        "xsi:noNamespaceSchemaLocation='" ++ Entity.schema ++ "'"⟩

def title (e : Node) : String :=
  if Lacks e "entity-name" then "unnamed entity" else e.value "entity-name"

def subject (e : Node) : String := "Entity '" ++ title e ++ "'"

def ownRows (e : Node) : List Finding :=
  row (Lacks e "entity-name")
    ⟨.issue, "entity-name-required", subject e, "missing entity-name attribute"⟩ ++
  row (Lacks e "package") ⟨.issue, "package-required", subject e, "missing package attribute"⟩ ++
  row (¬Naming.Identifier (title e))
    ⟨.suggestion, "entity-name-charset", subject e, "consider using alphanumeric with underscores"⟩ ++
  row (Childless e "field") ⟨.issue, "fields-required", subject e, "no fields defined"⟩

def namedFieldRows (e f : Node) : List Finding :=
  let name := f.value "name"
  let type := f.value "type"
  let key := Str.lower (e.value "entity-name") ++ "Id"
  row (Lacks f "type")
    ⟨.issue, "field-type-required", subject e, "field '" ++ name ++ "' missing type"⟩ ++
  row (¬Lacks f "type" ∧ type ∉ Naming.fieldTypes)
    ⟨.suggestion, "field-type-known", subject e,
      "field '" ++ name ++ "' has unknown type '" ++ type ++ "'"⟩ ++
  row (f.attr? "is-pk" = some "true" ∧ ¬Lacks e "entity-name" ∧ name ≠ key)
    ⟨.suggestion, "pk-name", subject e,
      "primary key '" ++ name ++ "' should probably be '" ++ key ++ "'"⟩ ++
  row ("Id".toList <:+ name.toList ∧ f.attr? "type" ≠ some "id")
    ⟨.suggestion, "id-suffix-type", subject e,
      "field '" ++ name ++ "' ending with 'Id' should probably be type 'id'"⟩ ++
  row ("Date".toList <:+ name.toList ∧ ¬Lacks f "type" ∧ ¬"date".toList <:+: type.toList)
    ⟨.suggestion, "date-suffix-type", subject e,
      "field '" ++ name ++ "' ending with 'Date' should probably be a date type"⟩

/-- Findings about a field; without a name there is only one. -/
def fieldRows (e f : Node) : List Finding :=
  if Lacks f "name" then [⟨.issue, "field-name-required", subject e, "field missing name"⟩]
  else namedFieldRows e f

def keyRows (e : Node) : List Finding :=
  row (¬∃ f ∈ e.childrenNamed "field", ¬Lacks f "name" ∧ f.attr? "is-pk" = some "true")
    ⟨.issue, "pk-required", subject e, "no primary key fields defined"⟩

def keyMapRows (e k : Node) : List Finding :=
  row (Lacks k "field-name")
    ⟨.issue, "key-map-field-name-required", subject e, "key-map missing field-name"⟩

def ownRelationshipRows (e r : Node) : List Finding :=
  row (Lacks r "type")
    ⟨.issue, "relationship-type-required", subject e, "relationship missing type"⟩ ++
  row (¬Lacks r "type" ∧ r.value "type" ∉ ["one", "many", "one-nofk"])
    ⟨.suggestion, "relationship-type-known", subject e,
      "relationship type '" ++ r.value "type" ++ "' should be 'one', 'many', or 'one-nofk'"⟩ ++
  row (Lacks r "related")
    ⟨.issue, "relationship-related-required", subject e, "relationship missing related entity"⟩ ++
  row (Lacks r "short-alias")
    ⟨.suggestion, "relationship-short-alias", subject e,
      "relationship should have short-alias for easier access"⟩ ++
  row (Childless r "key-map")
    ⟨.issue, "relationship-key-map-required", subject e, "relationship missing key-map elements"⟩

def relationshipRows (e r : Node) : List Finding :=
  ownRelationshipRows e r ++ (r.childrenNamed "key-map").flatMap (keyMapRows e)

def entityRows (e : Node) : List Finding :=
  ownRows e ++ (e.childrenNamed "field").flatMap (fieldRows e) ++ keyRows e ++
    (e.childrenNamed "relationship").flatMap (relationshipRows e)

def table (root : Node) : List Finding :=
  documentRows root ++ (root.childrenNamed "entity").flatMap entityRows

def context (root e n : Node) : Context where
  root := root
  owner := some e
  node := n
  name := title e
  subject := subject e

theorem reports_document (root : Node) :
    reports .document { root := root, node := root } Entity.rules = (documentRows root, false) := by
  have h := mentions_schema_iff Entity.schema root
  simp only [reports, Entity.rules, Rule.findings, checkNamespace, reduceCtorEq, ↓reduceIte,
    Bool.false_and, Bool.false_eq_true, map_reportIf h, List.append_nil]
  rfl

theorem reports_entity (root e : Node) :
    reports .entity (context root e e) Entity.rules = (ownRows e, false) := by
  have hi : (!Naming.isIdentifier (Text.ofString (title e))) = true ↔
      ¬Naming.Identifier (title e) := by simp [← Naming.isIdentifier_iff]
  have hf := childrenNamed_isEmpty_iff e "field"
  simp only [reports, Entity.rules, Rule.findings, context, reduceCtorEq, ↓reduceIte,
    Bool.false_and, Bool.false_eq_true, map_reportIf (lacks_iff _ _), map_reportIf hi,
    map_reportIf hf, List.append_nil, ownRows, List.append_assoc]

theorem isPrimaryKey_iff (f : Node) :
    Entity.isPrimaryKey f = true ↔ f.attr? "is-pk" = some "true" := by
  rw [Entity.isPrimaryKey, beq_iff_eq, value_eq_iff (by decide)]

theorem unknownType_iff (f : Node) :
    (f.value "type" != "" && !Naming.isKnownFieldType (Text.ofString (f.value "type"))) = true ↔
      ¬Lacks f "type" ∧ f.value "type" ∉ Naming.fieldTypes := by
  rw [Bool.and_eq_true, bne_iff_ne, ne_eq, value_eq_empty_iff, Bool.not_eq_true',
    ← Bool.not_eq_true, Naming.isKnownFieldType_iff]

theorem wrongKey_iff (e f : Node) (key : String) :
    (Entity.isPrimaryKey f && e.value "entity-name" != "" && f.value "name" != key) = true ↔
      f.attr? "is-pk" = some "true" ∧ ¬Lacks e "entity-name" ∧ f.value "name" ≠ key := by
  rw [Bool.and_eq_true, Bool.and_eq_true, isPrimaryKey_iff, bne_iff_ne, bne_iff_ne, ne_eq,
    value_eq_empty_iff, and_assoc]

theorem wrongIdType_iff (f : Node) :
    (Naming.hasIdSuffix (Text.ofString (f.value "name")) && f.value "type" != "id") = true ↔
      "Id".toList <:+ (f.value "name").toList ∧ f.attr? "type" ≠ some "id" := by
  rw [Bool.and_eq_true, Naming.hasIdSuffix_iff, bne_iff_ne, ne_eq, value_eq_iff (by decide)]

theorem wrongDateType_iff (f : Node) :
    (Naming.hasDateSuffix (Text.ofString (f.value "name")) && f.value "type" != "" &&
      !Naming.isDateType (Text.ofString (f.value "type"))) = true ↔
      "Date".toList <:+ (f.value "name").toList ∧ ¬Lacks f "type" ∧
        ¬"date".toList <:+: (f.value "type").toList := by
  rw [Bool.and_eq_true, Bool.and_eq_true, Naming.hasDateSuffix_iff, bne_iff_ne, ne_eq,
    value_eq_empty_iff, Bool.not_eq_true', ← Bool.not_eq_true, Naming.isDateType_iff, and_assoc]

theorem reports_field (root e f : Node) :
    reports .field (context root e f) Entity.rules = (fieldRows e f, decide (Lacks f "name")) := by
  by_cases h : Lacks f "name"
  · have hv : (f.value "name" == "") = true := (lacks_iff f "name").mpr h
    simp only [reports, Entity.rules, Rule.findings, context, reduceCtorEq, ↓reduceIte, reportIf, hv,
      List.isEmpty_cons, Bool.not_false, Bool.and_self, List.map_cons, List.map_nil, fieldRows, h,
      decide_true]
  · have hv : reportIf (f.value "name" == "") "field missing name" = [] := by
      simp [reportIf, value_eq_empty_iff, h]
    have hk : Entity.expectedKey (e.value "entity-name") = Str.lower (e.value "entity-name") ++ "Id" :=
      Naming.expectedPrimaryKey_ofString _
    simp only [reports, Entity.rules, Rule.findings, context, reduceCtorEq, ↓reduceIte, hv, hk,
      Bool.false_eq_true, Bool.false_and, List.isEmpty_nil, Bool.not_true, Bool.and_false,
      List.map_nil, List.nil_append, Option.map_some, Option.getD_some, map_reportIf (lacks_iff _ _),
      map_reportIf (unknownType_iff f), map_reportIf (wrongKey_iff e f _),
      map_reportIf (wrongIdType_iff f), map_reportIf (wrongDateType_iff f), fieldRows, h,
      namedFieldRows, decide_false, List.append_nil, List.append_assoc]

theorem reports_entityKeys (root e : Node) :
    reports .entityKeys (context root e e) Entity.rules = (keyRows e, false) := by
  have hk : (Entity.primaryKeys e).isEmpty = true ↔
      ¬∃ f ∈ e.childrenNamed "field", ¬Lacks f "name" ∧ f.attr? "is-pk" = some "true" := by
    simp [Entity.primaryKeys, List.filter_eq_nil_iff, value_eq_empty_iff, isPrimaryKey_iff]
  simp only [reports, Entity.rules, Rule.findings, context, reduceCtorEq, ↓reduceIte,
    Bool.false_and, Bool.false_eq_true, map_reportIf hk, List.append_nil, keyRows]

theorem unknownRelationship_iff (r : Node) :
    (r.value "type" != "" && !Naming.isKnownRelationshipType (Text.ofString (r.value "type"))) = true ↔
      ¬Lacks r "type" ∧ r.value "type" ∉ ["one", "many", "one-nofk"] := by
  rw [Bool.and_eq_true, bne_iff_ne, ne_eq, value_eq_empty_iff, Bool.not_eq_true',
    ← Bool.not_eq_true, Naming.isKnownRelationshipType_iff]
  rfl

theorem reports_relationship (root e r : Node) :
    reports .relationship (context root e r) Entity.rules = (ownRelationshipRows e r, false) := by
  have hm (t : String) : "relationship type '" ++ t ++ "' should be " ++
      Naming.quotedList Naming.relationshipTypes =
        "relationship type '" ++ t ++ "' should be 'one', 'many', or 'one-nofk'" := by
    rw [String.append_assoc]
    exact congrArg _ (by decide)
  simp only [reports, Entity.rules, Rule.findings, context, reduceCtorEq, ↓reduceIte,
    Bool.false_and, Bool.false_eq_true, map_reportIf (lacks_iff _ _),
    map_reportIf (unknownRelationship_iff r), map_reportIf (childrenNamed_isEmpty_iff r "key-map"),
    List.append_nil, ownRelationshipRows, List.append_assoc, hm]

theorem reports_keyMap (root e k : Node) :
    reports .keyMap (context root e k) Entity.rules = (keyMapRows e k, false) := by
  simp only [reports, Entity.rules, Rule.findings, context, reduceCtorEq, ↓reduceIte,
    Bool.false_and, Bool.false_eq_true, map_reportIf (lacks_iff _ _), List.append_nil, keyMapRows]

theorem reached_children (root e n : Node) (target : Target) (tag : String) (next : List Step) :
    reached Entity.rules (context root e n) (.mk target [tag] next) =
      (n.childrenNamed tag).flatMap fun m =>
        (reports target (context root e m) Entity.rules).1 ++
          if (reports target (context root e m) Entity.rules).2 then []
          else below Entity.rules (context root e m) next := by
  rw [reached]
  rfl

/-- The walk from an entity finds the rows of the entity. -/
theorem below_plan (root e : Node) :
    below Entity.rules (context root e e) Entity.plan = entityRows e := by
  simp only [Entity.plan, below, reached_self, reached_children, reports_entity, reports_field,
    reports_entityKeys, reports_relationship, reports_keyMap, ite_self, List.append_nil, entityRows,
    Bool.false_eq_true, ↓reduceIte, List.append_assoc]
  rfl

/-! ### The document -/

theorem owner_eq (e : Node) : Entity.owner e = (title e, subject e) := by
  have ht : (Naming.entityTitle (Text.ofString (e.value "entity-name"))).toString = title e := by
    simp only [Naming.toString_entityTitle, value_eq_empty_iff, title]
  simp only [Entity.owner, subject, ht]

theorem findings_catalog (root : Node) : Entity.catalog.findings root = table root := by
  have hb : (fun e => below Entity.catalog.rules
      { root := root, owner := some e, node := e, name := (Entity.catalog.owner e).1,
        subject := (Entity.catalog.owner e).2 } Entity.catalog.plan) = entityRows := by
    funext e
    simp only [Entity.catalog, owner_eq]
    exact below_plan root e
  rw [Catalog.findings, hb, table, Entity.catalog, reports_document]
  rfl

theorem severity_of_mem_rules : ∀ r ∈ Entity.rules, r.severity = .issue ∨ r.severity = .suggestion := by
  decide

/-- A document of entities has exactly the findings of the table, in its order, each filed by its
severity. -/
theorem evaluate_entity_eq_table {root : Node} (h : root.tag = "entities") :
    evaluate (some root) .entity = Findings.filed (table root) := by
  have hk : Dialect.kind? .entity = some .entity := by decide
  have ho : Dialect.isOpen .entity = false := by decide
  have hc : evaluate (some root) .entity = Entity.catalog.evaluate root := by
    simp [evaluate, hk, ho, h, DocKind.rootTag, catalogOf]
  rw [hc, evaluate_eq_filed severity_of_mem_rules, findings_catalog]

theorem evaluate_entity_order :
    let field : Node := ⟨"field", [⟨"name", "placedDate"⟩, ⟨"type", "text-short"⟩], [], "", 3⟩
    let order : Node := ⟨"entity", [⟨"entity-name", "Order"⟩], [field, ⟨"field", [], [], "", 4⟩], "", 2⟩
    let result := evaluate (some ⟨"entities", [], [order], "", 1⟩) .entity
    result.issueList.map Finding.rule = ["package-required", "field-name-required", "pk-required"] ∧
      result.suggestionList.map Finding.rule = ["entity-namespace", "date-suffix-type"] := by
  intro field order result
  have hr : result = Findings.filed (table ⟨"entities", [], [order], "", 1⟩) :=
    evaluate_entity_eq_table rfl
  rw [hr]
  exact ⟨by decide +kernel, by decide +kernel⟩

end EntityTable

end MoquiLint.Rules
