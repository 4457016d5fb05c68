import MoquiLint.Rules.Entity
import MoquiLint.Rules.Service

/-! Applying a catalog to a document. Evaluation never fails: a wrong root element is itself an issue
and ends it. -/
namespace MoquiLint.Rules

open Markup (Node)

def catalogOf : DocKind → Catalog
  | .entity => Entity.catalog
  | .service => Service.catalog

def catalog? (d : Dialect) : Option Catalog := d.kind?.map catalogOf

def catalogs : List Catalog := [Entity.catalog, Service.catalog]

def rootRule : String := "root-element"

def rootInfo : Info :=
  ⟨rootRule, .auto, .issue, Target.document.name, "root element matches the dialect"⟩

def Catalog.infos (c : Catalog) : List Info :=
  c.rules.map fun r => ⟨r.id, .ofKind c.kind, r.severity, r.target.name, r.description⟩

/-- The rules of a dialect, or of every dialect if it names no single one; the check of the root
element comes first. -/
def infos (d : Dialect) : List Info :=
  rootInfo :: match catalog? d with
    | some c => c.infos
    | none => catalogs.flatMap Catalog.infos

/-- Runs the rules for a kind of node in catalog order, up to and including the first halting rule
that reports something; also says whether there was one. -/
def apply (target : Target) (ctx : Context) : List Rule → Findings → Findings × Bool
  | [], res => (res, false)
  | r :: rest, res =>
    if r.target = target then
      let messages := r.check ctx
      let res := messages.foldl (fun acc m => acc.add ⟨r.severity, r.id, ctx.subject, m⟩) res
      if r.halts && !messages.isEmpty then (res, true) else apply target ctx rest res
    else apply target ctx rest res

def resolve (n : Node) : List String → List Node
  | [] => [n]
  | [tag] => n.childrenNamed tag
  | tag :: rest =>
    match n.child? tag with
    | none => []
    | some c => resolve c rest

mutual

def walk (rules : List Rule) : List Step → Context → Findings → Findings
  | [], _, res => res
  | s :: rest, ctx, res => walk rules rest ctx (walkStep rules s ctx res)

/-- Evaluates the nodes of a step in document order; where no halting rule reports, the steps below
follow at once. -/
def walkStep (rules : List Rule) : Step → Context → Findings → Findings
  | .mk target path next, ctx, res =>
    (resolve ctx.node path).foldl
      (fun acc n =>
        let c := { ctx with node := n }
        match apply target c rules acc with
        | (acc, true) => acc
        | (acc, false) => walk rules next c acc)
      res

end

def rootIssue (message : String) : Findings :=
  ({} : Findings).add { severity := .issue, rule := rootRule, message := message }

def Catalog.evaluate (c : Catalog) (root : Node) : Findings :=
  let start := (apply .document { root := root, node := root } c.rules {}).1
  (root.childrenNamed c.kind.childTag).foldl
    (fun res n =>
      let (name, subject) := c.owner n
      walk c.rules c.plan
        { root := root, owner := some n, node := n, name := name, subject := subject } res)
    start

/-- The findings about a document, which may be missing altogether. An open dialect takes the
catalog from the root tag. -/
def evaluate (root : Option Node) (d : Dialect) : Findings :=
  let tag := (root.map Node.tag).getD ""
  let kind? := if d.isOpen then DocKind.ofRootTag? tag else d.kind?
  match kind? with
  | none =>
    if d.isOpen then rootIssue "Root element should be 'entities' or 'services'"
    else rootIssue ("unsupported dialect " ++ Str.quote d.name)
  | some kind =>
    match root with
    | some n =>
      if n.tag == kind.rootTag then (catalogOf kind).evaluate n
      else rootIssue ("Root element should be '" ++ kind.rootTag ++ "'")
    | none => rootIssue ("Root element should be '" ++ kind.rootTag ++ "'")

end MoquiLint.Rules
