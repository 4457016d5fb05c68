import MoquiLint.Server.Resource
import MoquiLint.Server.Tool
import MoquiLint.Store.Fault
import MoquiLint.Text.Base64

/-! The server an assistant talks to: one answer to each request. -/
namespace MoquiLint.Server

open Json (Member readRecord readString readText)

/-- The parameters of all requests together; a request looks at its own. -/
structure Params where
  protocolVersion : String := ""
  name : String := ""
  uri : Text := []
  cursor : Text := []
  arguments : Json := .null
  deriving Inhabited

def isRecord : Json → Bool
  | .null | .obj _ => true
  | _ => false

def recordOnly (p : Params) (j : Json) : Option Params := if isRecord j then some p else none

def greetingFields : List (Member Params) := [
  .one "protocolVersion" fun j p =>
    (readString j p.protocolVersion).map fun v => { p with protocolVersion := v },
  .one "capabilities" fun j p => recordOnly p j,
  ⟨"clientInfo", fun js p =>
    (readRecord [.one "name" readString, .one "version" readString] js "").map fun _ => p⟩]

def listFields : List (Member Params) := [
  .one "cursor" fun j p => (readText j p.cursor).map fun v => { p with cursor := v }]

def callFields : List (Member Params) := [
  .one "name" fun j p => (readString j p.name).map fun v => { p with name := v },
  .one "arguments" fun j p => some { p with arguments := j }]

def readFields : List (Member Params) := [
  .one "uri" fun j p => (readText j p.uri).map fun v => { p with uri := v },
  .one "arguments" fun j p => recordOnly p j]

/-- The versions of the protocol that are understood, the latest one first. -/
def protocolVersions : List String := ["2025-11-25", "2025-06-18", "2025-03-26", "2024-11-05"]

/-- The version to talk in: the one asked for if it is understood, else the latest. Who asks for none
gets the one that was usual before versions were asked for. -/
def agreeOn (asked : String) : String :=
  let asked := if asked == "" then "2025-03-26" else asked
  if protocolVersions.contains asked then asked else protocolVersions.headD ""

def greeting (asked : String) : Json := .obj [
  ("protocolVersion", .string (agreeOn asked)),
  ("capabilities", .obj [
    ("resources", .obj [("subscribe", .bool true)]), ("tools", .obj [("listChanged", .bool true)])]),
  ("serverInfo", .obj [("name", .string "moqlint"), ("version", .string "0.1.0")])]

inductive Method where
  | greet | ping | listResources | listTemplates | readResource | listTools | callTool
  deriving DecidableEq, Repr

namespace Method

def named? (name : String) : Option Method :=
  ([("initialize", .greet), ("ping", .ping), ("resources/list", .listResources),
    ("resources/templates/list", .listTemplates), ("resources/read", .readResource),
    ("tools/list", .listTools), ("tools/call", .callTool)] : List (String × Method)).lookup name

def fields : Method → List (Member Params)
  | .greet => greetingFields
  | .ping => []
  | .listResources | .listTemplates | .listTools => listFields
  | .readResource => readFields
  | .callTool => callFields

end Method

/-- What the protocol knows but this server does not offer. -/
def unsupported? (method : String) : Option String :=
  ([("logging/setLevel", "logging"), ("prompts/list", "prompts"), ("prompts/get", "prompts"),
    ("completion/complete", "completions"), ("tasks/list", "tasks"), ("tasks/get", "tasks"),
    ("tasks/result", "tasks"), ("tasks/cancel", "tasks")] : List (String × String)).lookup method

def behind {α : Type} (name : α → String) (cursor : Text) (items : List α) : Except Refusal (List α) :=
  if cursor.isEmpty then .ok items
  else
    match Base64.decode (Text.encode cursor) with
    | .ok bytes => .ok (items.filter fun a => Text.toString (Text.decode bytes) < name a)
    | .error place => .error (.badCursor place)

def listing {α : Type} (member : String) (name : α → String) (toJson : α → Json) (cursor : Text)
    (items : List α) : Except Refusal Json := do
  return .obj [(member, .arr ((← behind name cursor items).map toJson))]

def answer (d : Disk) (project : String) (method : Method) (p : Params) :
    Except Refusal Json × List Event :=
  match method with
  | .greet => (.ok (greeting p.protocolVersion), [])
  | .ping => (.ok (.obj []), [])
  | .listResources => (listing "resources" Resource.name Resource.toJson p.cursor Resource.all, [])
  | .listTemplates =>
    (listing "resourceTemplates" (fun _ => catalogTemplateName) id p.cursor [catalogTemplate], [])
  | .readResource => (Server.readResource p.uri, [])
  | .listTools => (listing "tools" Tool.name Tool.toJson p.cursor Tool.all, [])
  | .callTool =>
    match Tool.named? p.name with
    | none => (.error (.unknownTool p.name), [])
    | some t =>
      let (r, events) := t.call d project p.arguments
      (.ok r.toJson, events)

/-- Answers a message; notifications and answers of the assistant have no answer. -/
def handle (d : Disk) (project : String) (message : Json) : Option Json × List Event :=
  match Message.read message with
  | none => (some (Refusal.unparsable.toJson .null), [])
  | some m =>
    if m.version != formatVersion then (some (Refusal.wrongVersion.toJson m.id), [])
    else
      match m.id, m.result with
      | .null, _ =>
        (if isRecord m.params then none else some (Refusal.unparsableNotification.toJson .null), [])
      | id, .null =>
        match Method.named? m.method with
        | none =>
          match unsupported? m.method with
          | some feature => (some ((Refusal.unsupported feature).toJson id), [])
          | none => (some ((Refusal.unknownMethod m.method).toJson id), [])
        | some method =>
          match readRecord method.fields [m.params] {} with
          | none => (some ((Refusal.malformed m.method).toJson id), [])
          | some p =>
            match answer d project method p with
            | (.ok result, events) => (some (response id result), events)
            | (.error r, events) => (some (r.toJson id), events)
      | _, _ => (none, [])

/-- Answers lines of input, each a message. A line that is not ended does not count. -/
def serve (d : Disk) (project : String) (input : Bytes) : List Json × List Event :=
  let lines := (Seq.splitOn (· == 10) input).dropLast
  let answers := lines.map fun line =>
    match Store.decode line with
    | some j => handle d project j
    | none => (some (Refusal.unparsableLine.toJson .null), [])
  (answers.filterMap (·.1), answers.flatMap (·.2))

end MoquiLint.Server
