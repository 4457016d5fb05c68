import MoquiLint.Yaml.Node
import MoquiLint.Text.Base64
import MoquiLint.Text.Quoted

/-! Taking typed values out of a tree. A value of the wrong type is noted and the decoding goes on, so
that all such faults can be told at once; a scalar that contradicts its own tag ends it. -/
namespace MoquiLint.Yaml

inductive Breakdown where
  | wrongTag (found value wanted : String)
  | badBinary
  | selfReference (name : String)
  | mergeWithoutMapping
  | excessiveAliasing
  deriving DecidableEq, Repr

def Breakdown.message : Breakdown → String
  | .wrongTag found value wanted => "cannot decode " ++ found ++ " `" ++ value ++ "` as a " ++ wanted
  | .badBinary => "!!binary value contains invalid base64 data"
  | .selfReference name => "anchor '" ++ name ++ "' value contains itself"
  | .mergeWithoutMapping => "map merge requires map or sequence of maps as the value"
  | .excessiveAliasing => "document contains excessive aliasing"

/-- What a decoding has met: the faults it can go on after, how many nodes it has visited, the document
itself being the first, and how many of them through references. -/
structure Tally where
  faults : List Text := []
  visited : Nat := 1
  referred : Nat := 0
  deriving DecidableEq, Repr

/-- Whether too large a share of the visits went through references: more than 99 of 100 in documents
of up to 400000 visits, more than 10 of 100 from 4000000 on, and a share in between for those in
between. Few visits are never too many. -/
def Tally.isExcessive (t : Tally) : Bool :=
  let low := 400000
  let range := 3600000
  let share := t.referred * 100 * range
  let allowed := 99 * range - 89 * min (t.visited - low) range
  t.referred > 100 && t.visited > 1000 && share > allowed * t.visited

abbrev Decode := StateT Tally (Except Breakdown)

namespace Node

def line : Node → Nat
  | .scalar _ l _ => l
  | .sequence _ l _ => l
  | .mapping _ l _ => l
  | .alias l _ _ _ => l

def tag : Node → String
  | .scalar t _ _ => t
  | .sequence t _ _ => t
  | .mapping t _ _ => t
  | .alias _ _ _ _ => ""

/-- The written value of a scalar, the name of an alias, nothing for other nodes. -/
def written : Node → String
  | .scalar _ _ v => v
  | .alias _ name _ _ => name
  | _ => ""

def sameKind : Node → Node → Bool
  | .scalar _ _ _, .scalar _ _ _ => true
  | .sequence _ _ _, .sequence _ _ _ => true
  | .mapping _ _ _, .mapping _ _ _ => true
  | .alias _ _ _ _, .alias _ _ _ _ => true
  | _, _ => false

def isMerge : Node → Bool
  | .scalar tag _ value => value == "<<" && tag == mergeTag
  | _ => false

end Node

/-- The tags that ask for a value of a certain type. Other tags leave the text as it is. -/
def typeTags : List String := ["!!null", "!!bool", "!!int", "!!float", "!!timestamp"]

def resolve (tag value : String) : Except Breakdown (Value × Text) :=
  if tag == "!!binary" then
    match Base64.decode? value.toList with
    | some bytes => .ok (.text, Text.decode bytes)
    | none => .error .badBinary
  else if typeTags.contains tag then
    let v := Value.ofPlain value (tag == "!!timestamp")
    if tag == v.tag then .ok (v, Text.ofString value)
    else
      match tag, v with
      | "!!float", .int n =>
        if n < Word.half then .ok (.real (Value.ofInt n), Text.ofString value)
        else .error (.wrongTag v.tag value tag)
      | _, _ => .error (.wrongTag v.tag value tag)
  else .ok (.text, Text.ofString value)

namespace Decode

def note (fault : Text) : Decode Unit := modify fun t => { t with faults := t.faults ++ [fault] }

/-- A value as faults quote it: at most ten bytes, longer ones cut to seven. -/
def quoted (value : String) : Text :=
  let bytes := utf8 value
  let shown :=
    if bytes.length > 10 then Text.decode (bytes.take 7) ++ Text.ofString "..." else Text.ofString value
  Text.ofString " `" ++ shown ++ Text.ofString "`"

def mismatch (n : Node) (wanted : String) : Decode Unit :=
  let shown := if n.tag == "!!seq" || n.tag == "!!map" then [] else quoted (match n with
    | .scalar _ _ v => v
    | _ => "")
  note (Text.ofString ("line " ++ toString n.line ++ ": cannot unmarshal " ++ n.tag) ++ shown ++
    Text.ofString (" into " ++ wanted))

def repeats : List (Node × Node) → List (Node × Node)
  | [] => []
  | (k, _) :: rest =>
    ((rest.map Prod.fst).filter fun l => k.sameKind l && k.written == l.written).map (k, ·) ++
      repeats rest

def uniqueKeys (pairs : List (Node × Node)) : Decode Bool := do
  let rs := repeats pairs
  for (k, l) in rs do
    note (Text.ofString ("line " ++ toString l.line ++ ": mapping key " ++ Str.quote l.written ++
      " already defined at line " ++ toString k.line))
  return rs.isEmpty

/-- Counts a visit to a node; `active` holds the references it was reached through. -/
def visit (active : List Nat) : Decode Unit := do
  let t ← get
  let t := { t with
    visited := t.visited + 1
    referred := if active.isEmpty then t.referred else t.referred + 1 }
  if t.isExcessive then throw .excessiveAliasing
  else set t

/-- Follows references to what is no reference; `active` holds those that are being followed. -/
def follow (anchors : Anchors) : Nat → List Nat → Node → Decode (Node × List Nat)
  | 0, active, n => return (n, active)
  | fuel + 1, active, n => do
    visit active
    match n with
    | .alias _ name target place =>
      if active.contains place then throw (.selfReference name)
      else
        match anchors.lookup target with
        | some m => follow anchors fuel (place :: active) m
        | none => return (n, active)
    | _ => return (n, active)

/-- A node that must be a scalar: its value, unless it stands for nothing or is something else. -/
def scalar (n : Node) (wanted : String) : Decode (Option (Value × Text)) := do
  match n with
  | .scalar tag _ value =>
    let (v, t) ← resolve tag value
    return if v = .null then none else some (v, t)
  | .mapping _ _ pairs =>
    if ← uniqueKeys pairs then mismatch n wanted
    return none
  | _ =>
    mismatch n wanted
    return none

def text (anchors : Anchors) (active : List Nat) (wanted : String) (n : Node) : Decode (Option Text) := do
  let (n, _) ← follow anchors (anchors.length + 1) active n
  return (← scalar n wanted).map Prod.snd

def anyText (anchors : Anchors) (active : List Nat) (n : Node) : Decode (Option Text) := do
  let (n, _) ← follow anchors (anchors.length + 1) active n
  match n with
  | .scalar tag _ value =>
    let (v, t) ← resolve tag value
    return if v = .text then some t else none
  | .mapping _ _ pairs =>
    let _ ← uniqueKeys pairs
    return none
  | _ => return none

/-- A list of texts; `some none` for nothing. -/
def texts (anchors : Anchors) (active : List Nat) (n : Node) : Decode (Option (Option (List Text))) := do
  let (n, active) ← follow anchors (anchors.length + 1) active n
  match n with
  | .sequence _ _ items => return some (some (← items.filterMapM (text anchors active "string")))
  | .scalar tag _ value =>
    let (v, _) ← resolve tag value
    if v = .null then return some none
    else
      mismatch n "[]string"
      return none
  | _ =>
    let _ ← scalar n "[]string"
    return none

/-- An integer. Fractions are cut off, and the least word stands for numbers that do not fit. -/
def int (anchors : Anchors) (active : List Nat) (n : Node) : Decode (Option Int) := do
  let (n, _) ← follow anchors (anchors.length + 1) active n
  match ← scalar n "int" with
  | none => return none
  | some (.int i, _) =>
    if i < Word.half then return some i
    else
      mismatch n "int"
      return none
  | some (.real (.finite w), _) =>
    if w > Word.half then
      mismatch n "int"
      return none
    else return some (if Word.holds w then w else Word.least)
  | some (.real (.infinite true), _) => return some Word.least
  | some _ =>
    mismatch n "int"
    return none

def yesWords : List String := ["y", "Y", "yes", "Yes", "YES", "on", "On", "ON"]
def noWords : List String := ["n", "N", "no", "No", "NO", "off", "Off", "OFF"]

def bool (anchors : Anchors) (active : List Nat) (n : Node) : Decode (Option (Option Bool)) := do
  let (n, _) ← follow anchors (anchors.length + 1) active n
  match n with
  | .scalar tag _ value =>
    match ← resolve tag value with
    | (.null, _) => return some none
    | (.bool b, _) => return some (some b)
    | (v, t) =>
      if v = .text && (yesWords.map Text.ofString).contains t then return some (some true)
      else if v = .text && (noWords.map Text.ofString).contains t then return some (some false)
      else
        mismatch n "bool"
        return none
  | _ =>
    let _ ← scalar n (if n.tag == "!!null" then "*bool" else "bool")
    return none

end Decode

end MoquiLint.Yaml
