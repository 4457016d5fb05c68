import MoquiLint.Dialect
import MoquiLint.Finding
import MoquiLint.Markup.Node

/-! Rules, the catalogs that list them, and the plan by which a catalog walks a document. -/
namespace MoquiLint.Rules

open Markup (Node)

/-- The kinds of nodes rules are evaluated against: those of the two catalogs, and any other by its name. -/
inductive Target where
  | document | entity | field | entityKeys | relationship | keyMap | service | parameter | actions
  | other (name : String)
  deriving DecidableEq, Repr

def Target.name : Target → String
  | .document => "document"
  | .entity => "entity"
  | .field => "field"
  | .entityKeys => "entity-keys"
  | .relationship => "relationship"
  | .keyMap => "key-map"
  | .service => "service"
  | .parameter => "parameter"
  | .actions => "actions"
  | .other name => name

/-- What a rule sees: the node under evaluation, the definition it belongs to and the document. -/
structure Context where
  root : Node
  owner : Option Node := none
  node : Node
  name : String := ""
  subject : String := ""

structure Rule where
  id : String
  severity : Severity
  target : Target
  description : String
  /-- Whether a report of this rule ends the evaluation of the node and of what lies below it. -/
  halts : Bool := false
  check : Context → List String

/-- One step of a walk: the nodes reached over `path`, the rules for them, and the steps below. Every
tag of the path but the last takes the first match, the last takes all; the empty path is the node
itself. -/
inductive Step where
  | mk (target : Target) (path : List String) (next : List Step)

structure Catalog where
  kind : DocKind
  rules : List Rule
  plan : List Step
  /-- The display name and the subject of a definition. -/
  owner : Node → String × String

structure Info where
  id : String
  dialect : Dialect
  severity : Severity
  target : String
  description : String
  deriving DecidableEq, Repr, Inhabited

def reportIf (condition : Bool) (message : String) : List String :=
  if condition then [message] else []

/-- Reports a missing schema reference: no attribute of the root mentions the schema location. -/
def checkNamespace (location : String) (ctx : Context) : List String :=
  reportIf (!ctx.root.attrs.any fun a => Str.contains a.name location || Str.contains a.value location)
    ("Consider adding XSD namespace: xmlns:xsi='http://www.w3.org/2001/XMLSchema-instance' " ++
      "xsi:noNamespaceSchemaLocation='" ++ location ++ "'")

end MoquiLint.Rules
