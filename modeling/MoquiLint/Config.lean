import MoquiLint.Dialect
import MoquiLint.Digest.Sha256
import MoquiLint.Glob
import MoquiLint.Json.Printer
import MoquiLint.Json.Record

/-! Project configurations: what a project asks for, and which requests make no sense. -/
namespace MoquiLint

/-- The settings of a project. Texts are kept as they were given; a list that was never given is
absent, and so is the choice about ignore files. -/
structure Config where
  dialect : Text := []
  excludePaths : Option (List Text) := none
  excludeGlobs : Option (List Text) := none
  skipRules : Option (List Text) := none
  /-- How many files are looked at side by side; none given means as many as possible. -/
  workers : Int := 0
  respectGitignore : Option Bool := none
  deriving DecidableEq, Repr, Inhabited

namespace Config

def ruleIds : List String := [
  "root-element",
  "entity-namespace", "entity-name-required", "package-required", "entity-name-charset",
  "fields-required", "field-name-required", "field-type-required", "field-type-known", "pk-name",
  "id-suffix-type", "date-suffix-type", "pk-required", "relationship-type-required",
  "relationship-type-known", "relationship-related-required", "relationship-short-alias",
  "relationship-key-map-required", "key-map-field-name-required",
  "service-namespace", "service-identity", "verb-lowercase", "noun-pascal-case",
  "require-all-roles", "parameter-name-required", "parameter-type", "actions-required",
  "actions-empty"]

def standard : Config := { dialect := Text.ofString "auto" }

def usesGitignore (c : Config) : Bool := c.respectGitignore.getD true

def skipped (c : Config) : List String := (c.skipRules.getD []).map Text.toString

inductive Invalid where
  | dialect (reason : Dialect.Unknown)
  | rule (id : Text)
  | workers (n : Int)
  | glob (index : Nat) (pattern : Text)
  deriving DecidableEq, Repr

def Invalid.message : Invalid → String
  | .dialect reason => reason.message
  | .rule id => "unknown rule " ++ Text.quote id ++ " in skip_rules"
  | .workers n => "workers must be >= 0 (got " ++ ToString.toString n ++ ")"
  | .glob index pattern =>
    "exclude_globs[" ++ ToString.toString index ++ "]: invalid pattern " ++ Text.quote pattern

def isRuleId (id : Text) : Bool := (ruleIds.map Text.ofString).contains id

/-- The first invalid setting: dialect, rules, workers and globs are looked at in this order. -/
def validate (c : Config) : Except Invalid Unit := do
  if c.dialect ≠ [] then
    match Dialect.parse c.dialect with
    | .ok _ => pure ()
    | .error e => throw (.dialect e)
  match (c.skipRules.getD []).find? fun id => !isRuleId id with
  | some id => throw (.rule id)
  | none => pure ()
  if c.workers < 0 then throw (.workers c.workers)
  match (c.excludeGlobs.getD []).zipIdx.find? fun g => !Glob.isWellFormed (Text.codes g.1) with
  | some (g, i) => throw (.glob i g)
  | none => pure ()

def textsJson (ts : Option (List Text)) : Json := .list .str ts

def encoding (dialect : Text) (skipRules : Option (List Text)) : Bytes :=
  utf8 (Json.compact (.obj [("dialect", .str dialect), ("skip_rules", textsJson skipRules)]))

def hash (dialect : Text) (skipRules : Option (List Text)) : String :=
  Digest.Sha256.hash (encoding dialect skipRules)

def toJson (c : Config) : Json :=
  let texts (name : String) (ts : Option (List Text)) : List (String × Json) :=
    if (ts.getD []).isEmpty then [] else [(name, textsJson ts)]
  .obj (
    (if c.dialect.isEmpty then [] else [("dialect", .str c.dialect)]) ++
    texts "exclude_paths" c.excludePaths ++ texts "exclude_globs" c.excludeGlobs ++
    texts "skip_rules" c.skipRules ++
    (if c.workers == 0 then [] else [("workers", .int c.workers)]) ++
    match c.respectGitignore with
    | none => []
    | some b => [("respect_gitignore", .bool b)])

open Json (Member inTurn readRecord readText readInt readList)

def fields : List (Member Config) := [
  .one "dialect" fun j c => (readText j c.dialect).map fun v => { c with dialect := v },
  ⟨"exclude_paths", fun js c => (readList (inTurn readText) [] js c.excludePaths).map
    fun v => { c with excludePaths := v }⟩,
  ⟨"exclude_globs", fun js c => (readList (inTurn readText) [] js c.excludeGlobs).map
    fun v => { c with excludeGlobs := v }⟩,
  ⟨"skip_rules", fun js c => (readList (inTurn readText) [] js c.skipRules).map
    fun v => { c with skipRules := v }⟩,
  .one "workers" fun j c => (readInt j c.workers).map fun v => { c with workers := v },
  .one "respect_gitignore" fun j c => match j with
    | .null => some { c with respectGitignore := none }
    | .bool b => some { c with respectGitignore := some b }
    | _ => none]

def read (js : List Json) (old : Config) : Option Config := readRecord fields js old

def template (d : Dialect) : String :=
  "# moqlint configuration\n\n" ++
  "dialect: " ++ d.name ++ "\n\n" ++
  "# Directory names the scanner never enters.\n" ++
  "exclude_paths: []\n\n" ++
  "# Files to skip, as doublestar globs relative to the project root.\n" ++
  "exclude_globs: []\n\n" ++
  "# Rule IDs to disable. List them with: moqlint rules\n" ++
  "skip_rules: []\n\n" ++
  "# Parallel file evaluations; 0 uses every CPU.\n" ++
  "workers: 0\n\n" ++
  "respect_gitignore: true\n"

end Config

end MoquiLint
