import MoquiLint.Text.Edit

/-! Naming conventions of entity and service definitions: which types are known, what a primary key
is expected to be called, and how a noun is spelt with capitals. Names are texts, since they may be
taken from anywhere in a file. -/
namespace MoquiLint.Naming

def fieldTypes : List String := [
  "id", "id-long",
  "text-short", "text-medium", "text-long", "text-very-long",
  "number-integer", "number-float", "number-decimal", "currency-amount",
  "date", "time", "date-time", "timestamp",
  "boolean", "text-indicator"]

def relationshipTypes : List String := ["one", "many", "one-nofk"]

def isKnownFieldType (t : Text) : Bool := (fieldTypes.map Text.ofString).contains t

def isKnownRelationshipType (t : Text) : Bool := (relationshipTypes.map Text.ofString).contains t

/-- The conventional name of an entity's primary key: `Order` has `orderId`. -/
def expectedPrimaryKey (entity : Text) : Text := Text.lower entity ++ Text.ofString "Id"

def isAlphanumeric (c : Char) : Bool := Text.isLetter c || Text.isNumber c

def isIdentifier (name : Text) : Bool :=
  let cs := Text.codes name
  cs.all (fun c => c == '_' || isAlphanumeric c) && cs.any isAlphanumeric

def hasIdSuffix (name : Text) : Bool := (Text.ofString "Id").isSuffixOf name

def hasDateSuffix (name : Text) : Bool := (Text.ofString "Date").isSuffixOf name

def isDateType (t : Text) : Bool := Seq.contains (Text.ofString "date") t

def hasUpper (name : Text) : Bool := (Text.codes name).any Text.isUpper

def startsUpper (name : Text) : Bool :=
  match name with
  | [] => false
  | s :: _ => Text.isUpper s.code

inductive Shape where
  | lower | upper | digit | other
  deriving DecidableEq, Repr

def shape (c : Char) : Shape :=
  if Text.isLower c then .lower
  else if Text.isUpper c then .upper
  else if Text.isDigit c then .digit
  else .other

def runs (t : Text) : List Text := t.splitBy fun a b => shape a.code == shape b.code

def startsWith (k : Shape) : Text → Bool
  | [] => false
  | s :: _ => shape s.code == k

/-- Moves the last capital of an upper-case run to the lower-case run after it: in `PDFLoader` the
second word is `Loader`. -/
def handOver : List Text → List Text
  | a :: b :: rest =>
    if startsWith .upper a && startsWith .lower b then
      a.dropLast :: handOver ((a.getLast?.toList ++ b) :: rest)
    else a :: handOver (b :: rest)
  | ws => ws
termination_by ws => ws.length

/-- The words of a name without separators. A name outside UTF-8 is one word. -/
def words (part : Text) : List Text :=
  if Text.isValid part then (handOver (runs part)).filter fun w => !w.isEmpty else [part]

def isSeparator (c : Char) : Bool := c == '_' || c == '-' || c == '.' || Text.isSpace c

def capitalize : Text → Text
  | [] => []
  | s :: rest => .char (Text.toUpper s.code) :: rest

/-- Proposes a spelling with capitals: `order_item` and `orderItem` both become `OrderItem`. -/
def pascalCase (name : Text) : Text :=
  (Seq.fields (fun s => isSeparator s.code) name).flatMap fun part => (words part).flatMap capitalize

def serviceName (verb noun : String) : String :=
  if verb == "" || noun == "" then "unnamed service" else verb ++ "#" ++ noun

def entityTitle (name : Text) : Text := if name.isEmpty then Text.ofString "unnamed entity" else name

/-- The values in single quotes, as a choice: `'a', 'b', or 'c'`. -/
def quotedList (values : List String) : String :=
  let quoted := values.map fun v => "'" ++ v ++ "'"
  match quoted.getLast? with
  | none => ""
  | some last =>
    if quoted.length < 2 then last else Str.join ", " quoted.dropLast ++ ", or " ++ last

end MoquiLint.Naming
