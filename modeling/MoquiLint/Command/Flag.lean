import MoquiLint.Span

/-! Flags of commands: what they are called, what values they take, and reading them from arguments. -/
namespace MoquiLint.Command

namespace Flag

inductive Kind where
  | truth
  | text (initial : String)
  | span (initial : Span)
  deriving DecidableEq, Repr

inductive Value where
  | truth (b : Bool)
  | text (s : String)
  | span (d : Span)
  deriving DecidableEq, Repr

end Flag

structure Flag where
  name : String
  short : Option Char := none
  kind : Flag.Kind
  usage : String
  deriving DecidableEq, Repr

namespace Flag

def standsAlone (f : Flag) : Bool := f.kind == .truth

def named? (flags : List Flag) (name : String) : Option Flag := flags.find? fun f => f.name == name

def lettered? (flags : List Flag) (c : Char) : Option Flag := flags.find? fun f => f.short == some c

def shown (f : Flag) : String :=
  match f.short with
  | some c => "-" ++ String.singleton c ++ ", --" ++ f.name
  | none => "--" ++ f.name

inductive Fault where
  | badSyntax (arg : String)
  | unknown (name : String)
  | unknownLetter (c : Char) (group : String)
  | missing (name : String)
  | missingBehind (c : Char) (group : String)
  | invalid (value : String) (flag : String) (reason : String)
  deriving DecidableEq, Repr

def quoteChar (c : Char) : String :=
  if c == '\'' then "'\\''"
  else if c == '"' then "'\"'"
  else "'" ++ String.ofList (Text.Quoted.escape c) ++ "'"

def Fault.message : Fault → String
  | .badSyntax arg => "bad flag syntax: " ++ arg
  | .unknown name => "unknown flag: --" ++ name
  | .unknownLetter c group => "unknown shorthand flag: " ++ quoteChar c ++ " in -" ++ group
  | .missing name => "flag needs an argument: --" ++ name
  | .missingBehind c group => "flag needs an argument: " ++ quoteChar c ++ " in -" ++ group
  | .invalid value flag reason =>
    "invalid argument " ++ Str.quote value ++ " for " ++ Str.quote flag ++ " flag: " ++ reason

def truth? (s : String) : Option Bool :=
  if ["1", "t", "T", "TRUE", "true", "True"].contains s then some true
  else if ["0", "f", "F", "FALSE", "false", "False"].contains s then some false
  else none

def readValue (f : Flag) (s : String) : Except Fault Value :=
  match f.kind with
  | .truth =>
    match truth? s with
    | some b => .ok (.truth b)
    | none =>
      .error (.invalid s f.shown ("strconv.ParseBool: parsing " ++ Str.quote s ++ ": invalid syntax"))
  | .text _ => .ok (.text s)
  | .span _ =>
    match Span.parse s with
    | .ok d => .ok (.span d)
    | .error e => .error (.invalid s f.shown e.message)

end Flag

/-- The flags that were given with their values, the last one first. -/
abbrev Settings := List (String × Flag.Value)

namespace Settings

def has (s : Settings) (name : String) : Bool := (s.lookup name).isSome

def isOn (s : Settings) (name : String) : Bool := s.lookup name == some (.truth true)

def text (s : Settings) (name initial : String) : String :=
  match s.lookup name with
  | some (.text t) => t
  | _ => initial

def span (s : Settings) (name : String) (initial : Span) : Span :=
  match s.lookup name with
  | some (.span d) => d
  | _ => initial

end Settings

/-- Flags read from one argument, and whether the argument behind it was one of their values. -/
structure Taken where
  settings : Settings := []
  usedNext : Bool := false
  deriving DecidableEq, Repr

namespace Flag

def takeLong (flags : List Flag) (arg : String) (next : Option String) : Except Fault Taken := do
  let body := arg.toList.drop 2
  match body with
  | [] | '-' :: _ | '=' :: _ => throw (.badSyntax arg)
  | _ =>
    let name := String.ofList (body.takeWhile (· != '='))
    match named? flags name with
    | none => throw (.unknown name)
    | some f =>
      match body.dropWhile (· != '='), next with
      | '=' :: value, _ => return ⟨[(f.name, ← f.readValue (String.ofList value))], false⟩
      | _, next =>
        if f.standsAlone then return ⟨[(f.name, .truth true)], false⟩
        else
          match next with
          | some value => return ⟨[(f.name, ← f.readValue value)], true⟩
          | none => throw (.missing name)

def firstByte (c : Char) : Char := Char.ofNat ((String.utf8EncodeChar c).headD 0).toNat

/-- Reads letters behind one dash. A flag that needs a value takes the rest of the letters, or the next
argument if it is the last of them. -/
def takeLetters (flags : List Flag) (next : Option String) (settings : Settings) :
    List Char → Except Fault Taken
  | [] => .ok ⟨settings, false⟩
  | c :: cs =>
    let group := String.ofList (c :: cs)
    if Str.startsWith group "test." then .ok ⟨settings, false⟩
    else
      match lettered? flags c with
      | none => .error (.unknownLetter (firstByte c) group)
      | some f =>
        match cs with
        | '=' :: v :: vs => do return ⟨(f.name, ← f.readValue (String.ofList (v :: vs))) :: settings, false⟩
        | cs =>
          if f.standsAlone then takeLetters flags next ((f.name, .truth true) :: settings) cs
          else
            match cs, next with
            | [], none => .error (.missingBehind c group)
            | [], some value => do return ⟨(f.name, ← f.readValue value) :: settings, true⟩
            | cs, _ => do return ⟨(f.name, ← f.readValue (String.ofList cs)) :: settings, false⟩

def take (flags : List Flag) (arg : String) (next : Option String) : Except Fault Taken :=
  if Str.startsWith arg "--" then takeLong flags arg next
  else takeLetters flags next [] (arg.toList.drop 1)

end Flag

structure Sorted where
  settings : Settings := []
  args : List String := []
  deriving DecidableEq, Repr

namespace Sorted

def add (s : Sorted) (t : Taken) : Sorted := { s with settings := t.settings ++ s.settings }

def push (s : Sorted) (arg : String) : Sorted := { s with args := s.args ++ [arg] }

def isPlain (arg : String) : Bool := !Str.startsWith arg "-" || arg == "-"

/-- Sorts arguments. Behind two dashes alone nothing counts as a flag. -/
def read (flags : List Flag) (s : Sorted) : List String → Except Flag.Fault Sorted
  | [] => .ok s
  | [arg] =>
    if isPlain arg then .ok (s.push arg)
    else if arg == "--" then .ok s
    else do return s.add (← Flag.take flags arg none)
  | arg :: next :: rest =>
    if isPlain arg then read flags (s.push arg) (next :: rest)
    else if arg == "--" then .ok { s with args := s.args ++ next :: rest }
    else do
      let t ← Flag.take flags arg (some next)
      if t.usedNext then read flags (s.add t) rest else read flags (s.add t) (next :: rest)

end Sorted

end MoquiLint.Command
