import MoquiLint.Rules.Rule
import MoquiLint.Naming

/-! The rules for entity definitions. -/
namespace MoquiLint.Rules.Entity

open Markup (Node)

def schema : String := "http://moqui.org/xsd/entity-definition-3.xsd"

def isPrimaryKey (field : Node) : Bool := field.value "is-pk" == "true"

/-- The names of the fields marked as primary key; fields without a name do not count. -/
def primaryKeys (entity : Node) : List String :=
  ((entity.childrenNamed "field").filter fun f => f.value "name" != "" && isPrimaryKey f).map
    fun f => f.value "name"

def expectedKey (entity : String) : String :=
  Text.toString (Naming.expectedPrimaryKey (Text.ofString entity))

def rules : List Rule := [
  { id := "entity-namespace", severity := .suggestion, target := .document,
    description := "root element references the entity definition XSD",
    check := checkNamespace schema },
  { id := "entity-name-required", severity := .issue, target := .entity,
    description := "entity has an entity-name attribute",
    check := fun ctx => reportIf (ctx.node.value "entity-name" == "") "missing entity-name attribute" },
  { id := "package-required", severity := .issue, target := .entity,
    description := "entity has a package attribute",
    check := fun ctx => reportIf (ctx.node.value "package" == "") "missing package attribute" },
  { id := "entity-name-charset", severity := .suggestion, target := .entity,
    description := "entity name uses only letters, digits and underscores",
    check := fun ctx => reportIf (!Naming.isIdentifier (Text.ofString ctx.name))
      "consider using alphanumeric with underscores" },
  { id := "fields-required", severity := .issue, target := .entity,
    description := "entity defines at least one field",
    check := fun ctx => reportIf (ctx.node.childrenNamed "field").isEmpty "no fields defined" },
  { id := "field-name-required", severity := .issue, target := .field,
    description := "field has a name; other field checks are skipped without one",
    halts := true,
    check := fun ctx => reportIf (ctx.node.value "name" == "") "field missing name" },
  { id := "field-type-required", severity := .issue, target := .field,
    description := "field has a type",
    check := fun ctx => reportIf (ctx.node.value "type" == "")
      ("field '" ++ ctx.node.value "name" ++ "' missing type") },
  { id := "field-type-known", severity := .suggestion, target := .field,
    description := "field type is one of the recognized types",
    check := fun ctx =>
      let t := ctx.node.value "type"
      reportIf (t != "" && !Naming.isKnownFieldType (Text.ofString t))
        ("field '" ++ ctx.node.value "name" ++ "' has unknown type '" ++ t ++ "'") },
  { id := "pk-name", severity := .suggestion, target := .field,
    description := "primary key field is named after the entity (Order -> orderId)",
    check := fun ctx =>
      let entity := (ctx.owner.map fun o => o.value "entity-name").getD ""
      let name := ctx.node.value "name"
      reportIf (isPrimaryKey ctx.node && entity != "" && name != expectedKey entity)
        ("primary key '" ++ name ++ "' should probably be '" ++ expectedKey entity ++ "'") },
  { id := "id-suffix-type", severity := .suggestion, target := .field,
    description := "fields ending in Id have type id",
    check := fun ctx =>
      let name := ctx.node.value "name"
      reportIf (Naming.hasIdSuffix (Text.ofString name) && ctx.node.value "type" != "id")
        ("field '" ++ name ++ "' ending with 'Id' should probably be type 'id'") },
  { id := "date-suffix-type", severity := .suggestion, target := .field,
    description := "fields ending in Date have a date type",
    check := fun ctx =>
      let name := ctx.node.value "name"
      let t := ctx.node.value "type"
      reportIf (Naming.hasDateSuffix (Text.ofString name) && t != "" &&
          !Naming.isDateType (Text.ofString t))
        ("field '" ++ name ++ "' ending with 'Date' should probably be a date type") },
  { id := "pk-required", severity := .issue, target := .entityKeys,
    description := "entity marks at least one named field is-pk=\"true\"",
    check := fun ctx => reportIf (primaryKeys ctx.node).isEmpty "no primary key fields defined" },
  { id := "relationship-type-required", severity := .issue, target := .relationship,
    description := "relationship has a type",
    check := fun ctx => reportIf (ctx.node.value "type" == "") "relationship missing type" },
  { id := "relationship-type-known", severity := .suggestion, target := .relationship,
    description := "relationship type is one, many or one-nofk",
    check := fun ctx =>
      let t := ctx.node.value "type"
      reportIf (t != "" && !Naming.isKnownRelationshipType (Text.ofString t))
        ("relationship type '" ++ t ++ "' should be " ++
          Naming.quotedList Naming.relationshipTypes) },
  { id := "relationship-related-required", severity := .issue, target := .relationship,
    description := "relationship names its related entity",
    check := fun ctx => reportIf (ctx.node.value "related" == "")
      "relationship missing related entity" },
  { id := "relationship-short-alias", severity := .suggestion, target := .relationship,
    description := "relationship declares a short-alias",
    check := fun ctx => reportIf (ctx.node.value "short-alias" == "")
      "relationship should have short-alias for easier access" },
  { id := "relationship-key-map-required", severity := .issue, target := .relationship,
    description := "relationship has at least one key-map",
    check := fun ctx => reportIf (ctx.node.childrenNamed "key-map").isEmpty
      "relationship missing key-map elements" },
  { id := "key-map-field-name-required", severity := .issue, target := .keyMap,
    description := "key-map has a field-name",
    check := fun ctx => reportIf (ctx.node.value "field-name" == "") "key-map missing field-name" }]

/-- Entities are checked themselves, then their fields, then their keys, then their relationships,
each with its key maps. -/
def plan : List Step := [
  .mk .entity [] [],
  .mk .field ["field"] [],
  .mk .entityKeys [] [],
  .mk .relationship ["relationship"] [.mk .keyMap ["key-map"] []]]

def owner (n : Node) : String × String :=
  let name := (Naming.entityTitle (Text.ofString (n.value "entity-name"))).toString
  (name, "Entity '" ++ name ++ "'")

def catalog : Catalog := ⟨.entity, rules, plan, owner⟩

end MoquiLint.Rules.Entity
