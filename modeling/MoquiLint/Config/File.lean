import MoquiLint.Config
import MoquiLint.Yaml.Decode

/-! Configuration files. -/
namespace MoquiLint.Config

open Yaml (Node Anchors Decode Breakdown)

def fileName : String := ".moqlint.yaml"

/-- The name the configuration's type goes by in messages. -/
def typeName : String := "domain.ProjectConfig"

inductive Setting where
  | dialect | excludePaths | excludeGlobs | skipRules | workers | respectGitignore
  deriving DecidableEq, Repr

def setting? (name : Text) : Option Setting :=
  ([("dialect", .dialect), ("exclude_paths", .excludePaths), ("exclude_globs", .excludeGlobs),
    ("skip_rules", .skipRules), ("workers", .workers), ("respect_gitignore", .respectGitignore)] :
    List (String × Setting)).find? (fun s => Text.ofString s.1 = name) |>.map Prod.snd

/-- Takes one setting from a node; what does not decode leaves it as it is. -/
def set (anchors : Anchors) (active : List Nat) (c : Config) (n : Node) : Setting → Decode Config
  | .dialect => do
    let v ← Decode.text anchors active "domain.Dialect" n
    return (v.map fun v => { c with dialect := v }).getD c
  | .excludePaths => do
    let v ← Decode.texts anchors active n
    return (v.map fun v => { c with excludePaths := v }).getD c
  | .excludeGlobs => do
    let v ← Decode.texts anchors active n
    return (v.map fun v => { c with excludeGlobs := v }).getD c
  | .skipRules => do
    let v ← Decode.texts anchors active n
    return (v.map fun v => { c with skipRules := v }).getD c
  | .workers => do
    let v ← Decode.int anchors active n
    return (v.map fun v => { c with workers := v }).getD c
  | .respectGitignore => do
    let v ← Decode.bool anchors active n
    return (v.map fun v => { c with respectGitignore := v }).getD c

/-- Settings part way through a mapping: which are done in it, and the names that are taken when the
mapping is merged into others. -/
structure Progress where
  config : Config
  done : List Setting := []
  taken : Option (List Text) := none
  deriving Repr

def takePair (anchors : Anchors) (active : List Nat) (p : Progress) (pair : Node × Node) :
    Decode Progress := do
  if pair.1.isMerge then return p
  else
    match ← Decode.text anchors active "string" pair.1 with
    | none => return p
    | some name =>
      if p.taken.any (·.contains name) then return p
      else
        let p := { p with taken := p.taken.map (name :: ·) }
        match setting? name with
        | none => return p
        | some s =>
          if p.done.contains s then
            Decode.note (Text.ofString ("line " ++ toString pair.1.line ++ ": field ") ++ name ++
              Text.ofString (" already set in type " ++ typeName))
            return p
          else
            return { p with config := ← set anchors active p.config pair.2 s, done := s :: p.done }

def ownNames (anchors : Anchors) (active : List Nat) (pairs : List (Node × Node)) : Decode (List Text) :=
  pairs.filterMapM fun pair => Decode.anyText anchors active pair.1

def isMapping (anchors : Anchors) : Node → Bool
  | .mapping _ _ _ => true
  | .alias _ _ target _ => match anchors.lookup target with
    | some (.mapping _ _ _) => true
    | _ => false
  | _ => false

def merged (anchors : Anchors) (n : Node) : Decode (List Node) := do
  if isMapping anchors n then return [n]
  else
    match n with
    | .sequence _ _ items => return items
    | _ => throw Breakdown.mergeWithoutMapping

/-- Takes the settings of a node: its own pairs first, then those of the mappings it merges, as far as
their names are not taken. The fuel bounds the depth of merging. -/
def takeNode (anchors : Anchors) :
    Nat → List Nat → Config → Option (List Text) → Node → Decode (Config × Option (List Text))
  | 0, _, c, taken, _ => return (c, taken)
  | fuel + 1, active, c, taken, n => do
    let (n, active) ← Decode.follow anchors (anchors.length + 1) active n
    match n with
    | .mapping _ _ pairs =>
      if ← Decode.uniqueKeys pairs then
        let p ← pairs.foldlM (takePair anchors active) { config := c, taken := taken }
        match pairs.find? fun pair => pair.1.isMerge with
        | none => return (p.config, p.taken)
        | some (_, from_) =>
          let start ← match p.taken with
            | some names => pure names
            | none => ownNames anchors active pairs
          let (c, names) ← (← merged anchors from_).foldlM
            (fun (c, names) m => do
              if isMapping anchors m then takeNode anchors fuel active c names m
              else throw Breakdown.mergeWithoutMapping)
            (p.config, some start)
          return (c, if p.taken.isSome then names else none)
      else return (c, taken)
    | .scalar tag _ value =>
      if (← Yaml.resolve tag value).1 ≠ .null then Decode.mismatch n typeName
      return (c, taken)
    | _ =>
      Decode.mismatch n typeName
      return (c, taken)

inductive FileFault where
  | document (fault : Yaml.Fault)
  | breakdown (reason : Breakdown)
  | mismatches (faults : List Text)
  | invalid (reason : Invalid)
  deriving DecidableEq, Repr

def FileFault.message : FileFault → Text
  | .document f => Text.ofString ("parsing " ++ fileName ++ ": yaml: " ++ f.message)
  | .breakdown r => Text.ofString ("parsing " ++ fileName ++ ": yaml: " ++ r.message)
  | .mismatches fs =>
    Text.ofString ("parsing " ++ fileName ++ ": yaml: unmarshal errors:\n  ") ++
      Seq.join (Text.ofString "\n  ") fs
  | .invalid r => Text.ofString ("invalid " ++ fileName ++ ": " ++ r.message)

def decode (data : Bytes) : Except FileFault Config :=
  match Yaml.document data with
  | .error f => .error (.document f)
  | .ok (none, _) => .ok standard
  | .ok (some n, anchors) =>
    match (takeNode anchors (data.length + 1) [] standard none n).run {} with
    | .error r => .error (.breakdown r)
    | .ok ((c, _), tally) => if tally.faults.isEmpty then .ok c else .error (.mismatches tally.faults)

def ofFile (data : Bytes) : Except FileFault Config := do
  let c ← decode data
  match c.validate with
  | .error r => .error (.invalid r)
  | .ok _ => .ok (if c.dialect.isEmpty then { c with dialect := standard.dialect } else c)

end MoquiLint.Config
