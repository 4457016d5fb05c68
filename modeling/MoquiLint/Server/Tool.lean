import MoquiLint.Json.Printer
import MoquiLint.Lint.Basic
import MoquiLint.Report.Codec
import MoquiLint.Server.Message

/-! The tools an assistant may call: linting a file, linting a directory, listing the rules. -/
namespace MoquiLint.Server

inductive Tool where
  | lintDirectory | lintFile | listRules
  deriving DecidableEq, Repr

structure Argument where
  name : String
  description : String
  options : List String := []
  required : Bool := false

namespace Tool

def all : List Tool := [.lintDirectory, .lintFile, .listRules]

def name : Tool → String
  | .lintDirectory => "moqlint_lint_directory"
  | .lintFile => "moqlint_lint_file"
  | .listRules => "moqlint_list_rules"

def description : Tool → String
  | .lintDirectory =>
    "Lint every definition file under a directory and return the batch report as JSON"
  | .lintFile =>
    "Lint one entity or service definition file and return its issues and suggestions as JSON"
  | .listRules => "List the rule catalog with IDs, severities and descriptions"

def dialectArgument : Argument :=
  { name := "dialect"
    description := "auto, entity or service (default: from .moqlint.yaml)"
    options := Dialect.names }

def arguments : Tool → List Argument
  | .lintDirectory => [dialectArgument, {
      name := "path"
      description := "Directory, absolute or relative to the project root (default: project root)" }]
  | .lintFile => [dialectArgument, {
      name := "path"
      description := "File path, absolute or relative to the project root"
      required := true }]
  | .listRules => [dialectArgument]

def argumentJson (a : Argument) : String × Json := (a.name, .obj (
  [("type", .string "string"), ("description", .string a.description)] ++
  if a.options.isEmpty then [] else [("enum", .strings a.options)]))

def toJson (t : Tool) : Json := .obj [
  ("name", .string t.name), ("description", .string t.description),
  ("inputSchema", .obj [
    ("type", .string "object"), ("properties", .obj (t.arguments.map argumentJson)),
    ("required", .strings ((t.arguments.filter (·.required)).map (·.name)))]),
  ("annotations", .obj [
    ("readOnlyHint", .bool false), ("destructiveHint", .bool true), ("idempotentHint", .bool false),
    ("openWorldHint", .bool true)])]

def named? (name : String) : Option Tool := all.find? fun t => t.name == name

end Tool

structure ToolResult where
  text : Text
  isError : Bool := false
  deriving DecidableEq, Repr

def ToolResult.failure (t : Text) : ToolResult := ⟨t, true⟩

def ToolResult.value (j : Json) : ToolResult := ⟨Text.ofString (Json.indented j), false⟩

def ToolResult.toJson (r : ToolResult) : Json := .obj (
  ("content", .arr [.obj [("type", .string "text"), ("text", .str r.text)]]) ::
  if r.isError then [("isError", .bool true)] else [])

def textArgument (args : Json) (name : String) : Text :=
  match args.get? name with
  | some (.str t) => t
  | _ => []

def requiredText (args : Json) (name : String) : Except Text Text :=
  match args.get? name with
  | some (.str t) => .ok t
  | some _ => .error (Text.ofString ("argument " ++ Str.quote name ++ " is not a string"))
  | none => .error (Text.ofString ("required argument " ++ Str.quote name ++ " not found"))

def dialectOf (args : Json) : Except Text Dialect :=
  match textArgument args "dialect" with
  | [] => .ok .unset
  | t =>
    match Dialect.parse t with
    | .ok d => .ok d
    | .error e => .error (Text.ofString e.message)

def resolve (project path : String) : String :=
  if path == "" then project
  else if Path.isAbsolute path then path
  else Path.join [project, path]

def lintFailure (f : Lint.Failure) : ToolResult := .failure (Text.ofString "lint failed: " ++ f.message)

def Tool.call (d : Disk) (project : String) (args : Json) : Tool → ToolResult × List Event
  | .listRules =>
    match dialectOf args with
    | .error e => (.failure e, [])
    | .ok dialect => (.value (.arr ((Rules.infos dialect).map Rules.Info.toJson)), [])
  | .lintDirectory =>
    match dialectOf args with
    | .error e => (.failure e, [])
    | .ok dialect =>
      let path := resolve project (Text.toString (textArgument args "path"))
      let o := Lint.run {} d ⟨project, [path], dialect⟩
      match o.report with
      | .error f => (lintFailure f, o.events)
      | .ok b => (.value b.toJson, o.events)
  | .lintFile =>
    match requiredText args "path" with
    | .error e => (.failure e, [])
    | .ok path =>
      match dialectOf args with
      | .error e => (.failure e, [])
      | .ok dialect =>
        let o := Lint.run {} d ⟨project, [resolve project (Text.toString path)], dialect⟩
        match o.single with
        | .error f => (lintFailure f, o.events)
        | .ok r => (.value r.toJson, o.events)

end MoquiLint.Server
