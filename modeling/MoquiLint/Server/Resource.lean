import MoquiLint.Json.Printer
import MoquiLint.Report.Codec
import MoquiLint.Rules.Engine
import MoquiLint.Server.Message

/-! What an assistant may read: the rule catalog, whole or for one dialect, and the words the rules
accept. -/
namespace MoquiLint.Server

inductive Resource where
  | fieldTypes | rules
  deriving DecidableEq, Repr

inductive AddressValue where
  | text (t : Text)
  | texts (ts : List Text)
  | other
  deriving DecidableEq, Repr

/-- The dialect's name in an argument: the text itself, the first of several, else none. -/
def AddressValue.dialect : AddressValue → Text
  | .text t => t
  | .texts ts => ts.headD []
  | .other => []

namespace Resource

def all : List Resource := [.fieldTypes, .rules]

def name : Resource → String
  | .fieldTypes => "Field Types"
  | .rules => "Rule Catalog"

def uri : Resource → String
  | .fieldTypes => "moqlint://field-types"
  | .rules => "moqlint://rules"

def description : Resource → String
  | .fieldTypes => "Recognized entity field types, relationship types and schema locations"
  | .rules => "Every entity and service rule with its severity"

def mediaType : String := "application/json"

def toJson (r : Resource) : Json := .obj [
  ("uri", .string r.uri), ("name", .string r.name), ("description", .string r.description),
  ("mimeType", .string mediaType)]

def catalog (d : Dialect) : Json := .arr ((Rules.infos d).map Rules.Info.toJson)

def content : Resource → Json
  | .fieldTypes => .obj [
      ("field_types", .strings Naming.fieldTypes),
      ("relationship_types", .strings Naming.relationshipTypes),
      ("entity_namespace", .string Rules.Entity.schema),
      ("service_namespace", .string Rules.Service.schema)]
  | .rules => catalog .auto

end Resource

def catalogAddress : String := "moqlint://rules/"

def catalogTemplateName : String := "Dialect Rules"

def catalogTemplate : Json := .obj [
  ("uriTemplate", .string (catalogAddress ++ "\x7bdialect\x7d")), ("name", .string catalogTemplateName),
  ("description", .string "Rule catalog of the entity or service dialect"),
  ("mimeType", .string Resource.mediaType)]

def isUnreserved (c : Char) : Bool :=
  c.isAlphanum || c == '-' || c == '.' || c == '_' || c == '~'

def hexValue? (c : Char) : Option Nat :=
  if c.isDigit then some (c.toNat - 48)
  else if 'a' ≤ c && c ≤ 'f' then some (c.toNat - 87)
  else if 'A' ≤ c && c ≤ 'F' then some (c.toNat - 55)
  else none

def decodeSegment : List Char → Option (List Bytes)
  | [] => some [[]]
  | '%' :: a :: b :: rest =>
    match hexValue? a, hexValue? b with
    | some x, some y =>
      match decodeSegment rest with
      | some (w :: ws) => some ((UInt8.ofNat (16 * x + y) :: w) :: ws)
      | _ => none
    | _, _ => none
  | c :: rest =>
    match decodeSegment rest with
    | none | some [] => none
    | some (w :: ws) =>
      if c == ',' then some ([] :: w :: ws)
      else if isUnreserved c then some ((UInt8.ofNat c.toNat :: w) :: ws)
      else none

def catalogArgument? (uri : String) : Option AddressValue :=
  if Str.startsWith uri catalogAddress then
    (decodeSegment (uri.toList.drop catalogAddress.length)).map fun ws => .texts (ws.map Text.decode)
  else none

def contentAt (uri : Text) : Except Refusal Json :=
  match Resource.all.find? fun r => Text.ofString r.uri == uri with
  | some r => .ok r.content
  | none =>
    match (Text.toString? uri).bind catalogArgument? with
    | none => .error (.unknownResource uri)
    | some v =>
      match Dialect.parse v.dialect with
      | .ok d => .ok (Resource.catalog d)
      | .error e => .error (.failed (Text.ofString e.message))

def readResource (uri : Text) : Except Refusal Json := do
  let content ← contentAt uri
  return .obj [("contents", .arr [.obj [
    ("uri", .str uri), ("mimeType", .string Resource.mediaType),
    ("text", .string (Json.indented content))]])]

end MoquiLint.Server
