import MoquiLint.Rules.Rule
import MoquiLint.Naming

/-! The rules for service definitions. -/
namespace MoquiLint.Rules.Service

open Markup (Node)

def schema : String := "http://moqui.org/xsd/service-definition-3.xsd"

def proposal (noun : String) : String := Text.toString (Naming.pascalCase (Text.ofString noun))

def nounAdvice (noun : String) : String :=
  if proposal noun != "" && proposal noun != noun then
    "consider PascalCase for noun ('" ++ proposal noun ++ "')"
  else "consider PascalCase for noun"

def rules : List Rule := [
  { id := "service-namespace", severity := .suggestion, target := .document,
    description := "root element references the service definition XSD",
    check := checkNamespace schema },
  { id := "service-identity", severity := .issue, target := .service,
    description := "service has both verb and noun attributes",
    check := fun ctx => reportIf (ctx.node.value "verb" == "" || ctx.node.value "noun" == "")
      "missing verb or noun attributes" },
  { id := "verb-lowercase", severity := .issue, target := .service,
    description := "verb is lowercase",
    check := fun ctx => reportIf (Naming.hasUpper (Text.ofString (ctx.node.value "verb")))
      ("verb '" ++ ctx.node.value "verb" ++ "' should be lowercase") },
  { id := "noun-pascal-case", severity := .suggestion, target := .service,
    description := "noun starts with an uppercase letter",
    check := fun ctx =>
      let noun := ctx.node.value "noun"
      reportIf (noun != "" && !Naming.startsUpper (Text.ofString noun)) (nounAdvice noun) },
  { id := "require-all-roles", severity := .suggestion, target := .service,
    description := "authenticated services declare require-all-roles",
    check := fun ctx => reportIf
      ((ctx.node.attr? "authenticate").getD "true" == "true" &&
        (ctx.node.attr? "require-all-roles").isNone)
      "consider adding require-all-roles for security" },
  { id := "parameter-name-required", severity := .issue, target := .parameter,
    description := "in-parameter has a name",
    halts := true,
    check := fun ctx => reportIf (ctx.node.value "name" == "") "parameter missing name" },
  { id := "parameter-type", severity := .suggestion, target := .parameter,
    description := "in-parameter declares a type or required flag",
    check := fun ctx => reportIf (ctx.node.value "type" == "" && ctx.node.value "required" == "")
      ("parameter '" ++ ctx.node.value "name" ++ "': consider adding type specification") },
  { id := "actions-required", severity := .issue, target := .actions,
    description := "service has an actions section",
    check := fun ctx => reportIf (ctx.node.child? "actions").isNone "missing actions section" },
  { id := "actions-empty", severity := .issue, target := .actions,
    description := "actions section is not empty",
    check := fun ctx => reportIf ((ctx.node.child? "actions").any Node.isBlank)
      "empty actions section" }]

/-- Services are checked themselves, then the parameters of their first `in-parameters`, then their
actions. -/
def plan : List Step := [
  .mk .service [] [],
  .mk .parameter ["in-parameters", "parameter"] [],
  .mk .actions [] []]

def owner (n : Node) : String × String :=
  let name := Naming.serviceName (n.value "verb") (n.value "noun")
  (name, "Service '" ++ name ++ "'")

def catalog : Catalog := ⟨.service, rules, plan, owner⟩

end MoquiLint.Rules.Service
