import MoquiLint.Json.Record

/-! Requests of an assistant and the answers to them, each a JSON object. A request has an identity that
its answer repeats; one without is a notification and has no answer. -/
namespace MoquiLint.Server

open Json (Member readRecord readString)

structure Message where
  version : String := ""
  method : String := ""
  id : Json := .null
  result : Json := .null
  params : Json := .null
  deriving Inhabited

def Message.fields : List (Member Message) := [
  .one "jsonrpc" fun j m => (readString j m.version).map fun v => { m with version := v },
  .one "method" fun j m => (readString j m.method).map fun v => { m with method := v },
  .one "id" fun j m => some { m with id := j },
  .one "result" fun j m => some { m with result := j },
  .one "params" fun j m => some { m with params := j }]

def Message.read (j : Json) : Option Message := readRecord fields [j] {}

def formatVersion : String := "2.0"

inductive Refusal where
  | unparsable
  | unparsableLine
  | unparsableNotification
  | wrongVersion
  | malformed (method : String)
  | unknownMethod (method : String)
  | unsupported (feature : String)
  | unknownTool (name : String)
  /-- A place in a list that cannot be read from the given byte on. -/
  | badCursor (place : Nat)
  | unknownResource (uri : Text)
  | failed (reason : Text)
  deriving DecidableEq, Repr

namespace Refusal

def code : Refusal → Int
  | .unparsable | .unparsableLine | .unparsableNotification => -32700
  | .wrongVersion | .malformed _ => -32600
  | .unknownMethod _ | .unsupported _ => -32601
  | .unknownTool _ | .badCursor _ => -32602
  | .unknownResource _ => -32002
  | .failed _ => -32603

def message : Refusal → Text
  | .unparsable => Text.ofString "Failed to parse message"
  | .unparsableLine => Text.ofString "Parse error"
  | .unparsableNotification => Text.ofString "Failed to parse notification"
  | .wrongVersion => Text.ofString "Invalid JSON-RPC version"
  | .malformed method => Text.ofString ("unparsable " ++ method ++ " request: <json error>")
  | .unknownMethod method => Text.ofString ("Method " ++ method ++ " not found")
  | .unsupported feature => Text.ofString (feature ++ " not supported")
  | .unknownTool name => Text.ofString ("tool '" ++ name ++ "' not found: tool not found")
  | .badCursor place => Text.ofString ("illegal base64 data at input byte " ++ toString place)
  | .unknownResource uri =>
    Text.ofString "handler not found for resource URI '" ++ uri ++ Text.ofString "': resource not found"
  | .failed reason => reason

def toJson (r : Refusal) (id : Json) : Json := .obj [
  ("jsonrpc", .string formatVersion), ("id", id),
  ("error", .obj [("code", .int r.code), ("message", .str r.message)])]

end Refusal

def response (id result : Json) : Json :=
  .obj [("jsonrpc", .string formatVersion), ("id", id), ("result", result)]

end MoquiLint.Server
