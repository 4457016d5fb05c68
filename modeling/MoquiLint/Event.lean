import MoquiLint.Disk.Basic
import MoquiLint.Text.Quoted

/-! What a run reports besides its output: progress, files passed over, and what went wrong without
stopping the run. Each event has a level, a message and named details, and is written on one line. -/
namespace MoquiLint

inductive Level where
  | debug | info | warn
  deriving DecidableEq, Repr

def Level.name : Level → String
  | .debug => "DEBUG"
  | .info => "INFO"
  | .warn => "WARN"

inductive Detail where
  | text (t : Text)
  | number (n : Int)
  | truth (b : Bool)
  | texts (ts : List Text)
  deriving DecidableEq, Repr

namespace Detail

open Text.Quoted (hex)

/-- The written form of a character inside quotes: only quotes, backslashes and control characters are
escaped. -/
def escapeChar (c : Char) : List Char :=
  match c with
  | '"' => ['\\', '"']
  | '\\' => ['\\', '\\']
  | '\n' => ['\\', 'n']
  | '\r' => ['\\', 'r']
  | '\t' => ['\\', 't']
  | c => if c.toNat < 32 then '\\' :: 'u' :: hex 4 c.toNat else [c]

def escapeSymbol : Symbol → List Char
  | .char c => escapeChar c
  | .stray _ => '\\' :: 'u' :: hex 4 0xFFFD

def quoted (t : Text) : String := String.ofList ('"' :: t.flatMap escapeSymbol ++ ['"'])

def written : Detail → String
  | .text t => quoted t
  | .number n => ToString.toString n
  | .truth true => "true"
  | .truth false => "false"
  | .texts ts => "[" ++ Str.join ", " (ts.map quoted) ++ "]"

def string (s : String) : Detail := .text (Text.ofString s)

end Detail

inductive Event where
  | unreadablePath (path : String) (reason : Text)
  | unreadableFile (path : String) (fault : Disk.Fault)
  | notDefinition (path : String)
  | scanned (root : String) (candidates skipped : Nat)
  | nothingFound (paths : List String)
  | cannotRead (path : String) (fault : Disk.Fault)
  | cacheHit (path : String)
  | parseFailed (path : String) (reason : Text)
  | linted (files issues suggestions : Int) (passed : Bool)
  | detectionFailed (reason : Text)
  | cacheIgnored (reason : Text)
  | cacheNotSaved (reason : Text)
  | notRecorded (reason : Text)
  | watching (root debounce : String)
  | changed (path operation : String)
  | notWatched (path : String) (reason : Text)
  | relintFailed (reason : Text)
  deriving DecidableEq, Repr

namespace Event

def level : Event → Level
  | .notDefinition _ | .scanned .. | .cacheHit _ | .parseFailed .. | .linted .. | .changed .. => .debug
  | .nothingFound _ | .watching .. => .info
  | _ => .warn

def message : Event → String
  | .unreadablePath .. => "skipping unreadable path"
  | .unreadableFile .. => "skipping unreadable file"
  | .notDefinition _ => "skipping non-definition file"
  | .scanned .. => "scan complete"
  | .nothingFound _ => "no definition files found"
  | .cannotRead .. => "cannot read file"
  | .cacheHit _ => "cache hit"
  | .parseFailed .. => "parse failed"
  | .linted .. => "lint complete"
  | .detectionFailed _ => "component detection failed"
  | .cacheIgnored _ => "ignoring unreadable result cache"
  | .cacheNotSaved _ => "failed to save result cache"
  | .notRecorded _ => "failed to record run"
  | .watching .. => "watching for changes"
  | .changed .. => "change detected"
  | .notWatched .. => "failed to watch new directory"
  | .relintFailed _ => "re-lint failed"

def details : Event → List (String × Detail)
  | .unreadablePath path reason | .parseFailed path reason | .notWatched path reason =>
    [("path", .string path), ("error", .text reason)]
  | .unreadableFile path fault | .cannotRead path fault =>
    [("path", .string path), ("error", .string fault.message)]
  | .notDefinition path | .cacheHit path => [("path", .string path)]
  | .scanned root candidates skipped =>
    [("root", .string root), ("candidates", .number candidates), ("skipped", .number skipped)]
  | .nothingFound paths => [("paths", .texts (paths.map Text.ofString))]
  | .linted files issues suggestions passed =>
    [("files", .number files), ("issues", .number issues), ("suggestions", .number suggestions),
     ("passed", .truth passed)]
  | .detectionFailed reason | .cacheIgnored reason | .cacheNotSaved reason | .notRecorded reason
  | .relintFailed reason => [("error", .text reason)]
  | .watching root debounce => [("root", .string root), ("debounce", .string debounce)]
  | .changed path operation => [("path", .string path), ("op", .string operation)]

def line (e : Event) : String :=
  e.level.name ++ "\t" ++ e.message ++ "\t\x7b" ++
    Str.join ", " (e.details.map fun d => Detail.quoted (Text.ofString d.1) ++ ": " ++ d.2.written) ++
    "\x7d"

def isShown (verbose : Bool) (e : Event) : Bool := verbose || e.level == .warn

def lines (verbose : Bool) (es : List Event) : List String :=
  ((es.filter (isShown verbose)).map line).mergeSort Str.le

end Event

end MoquiLint
