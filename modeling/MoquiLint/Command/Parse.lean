import MoquiLint.Command.Help
import MoquiLint.Command.Suggest

/-! From arguments to what is to be done: the command is found among the arguments, the flags are taken
out, and what is left is counted. -/
namespace MoquiLint.Command

inductive Misuse where
  | unknownCommand (given path question : String)
  | flag (fault : Flag.Fault)
  | tooMany (most given : Nat)
  deriving DecidableEq, Repr

def Misuse.message : Misuse → String
  | .unknownCommand given path question =>
    "unknown command " ++ Str.quote given ++ " for " ++ Str.quote path ++ question
  | .flag f => f.message
  | .tooMany most given =>
    "accepts at most " ++ toString most ++ " arg(s), received " ++ toString given

def knownFlags (c : Command) : List Flag := c.flags ++ [verboseFlag]

/-- Whether the argument behind this one counts as its value while the command is looked for: it is a
flag of its own and not known to stand alone. -/
def coversNext (flags : List Flag) (arg : String) : Bool :=
  !Str.contains arg "=" &&
    match arg.toList with
    | '-' :: '-' :: name => !(Flag.named? flags (String.ofList name)).any Flag.standsAlone
    | ['-', c] => c.utf8Size == 1 && !(Flag.lettered? flags c).any Flag.standsAlone
    | _ => false

def operandsOf (flags : List Flag) : List String → List String
  | [] => []
  | arg :: rest =>
    if arg == "--" then []
    else if coversNext flags arg then
      match rest with
      | [] | [_] => []
      | _ :: rest => operandsOf flags rest
    else if arg != "" && !Str.startsWith arg "-" then arg :: operandsOf flags rest
    else operandsOf flags rest

def without (flags : List Flag) (operand : String) : List String → List String
  | [] => []
  | arg :: rest =>
    if arg == "--" then arg :: rest
    else if coversNext flags arg then
      match rest with
      | [] => [arg]
      | value :: rest => arg :: value :: without flags operand rest
    else if arg == operand then rest
    else arg :: without flags operand rest

structure Located where
  parents : List String
  command : Command
  args : List String

def descend : Nat → Located → Located
  | 0, l => l
  | fuel + 1, l =>
    let flags := l.command.knownFlags
    match operandsOf flags l.args with
    | [] => l
    | next :: _ =>
      match l.command.children.find? fun k => k.name == next with
      | none => l
      | some k => descend fuel ⟨l.parents ++ [l.command.name], k, without flags next l.args⟩

/-- Finds the command that arguments name. The program itself takes no operands of its own. -/
def locate (args : List String) : Except Misuse Located :=
  let l := descend (args.length + 1) ⟨[], root, args⟩
  match l.parents, operandsOf l.command.knownFlags l.args with
  | [], given :: _ => .error (.unknownCommand given l.command.name (l.command.question given))
  | _, _ => .ok l

inductive Plan where
  | showHelp (parents : List String) (command : Command)
  | perform (action : Action) (settings : Settings) (args : List String)

def checkArity (l : Located) (args : List String) : Except Misuse Unit :=
  match l.command.arity, args with
  | .none, given :: _ =>
    .error (.unknownCommand given (Str.join " " (l.parents ++ [l.command.name])) "")
  | .atMost n, args => if n < args.length then .error (.tooMany n args.length) else .ok ()
  | _, _ => .ok ()

/-- What arguments ask for. Asking for help comes before anything else but faulty flags. -/
def parse (args : List String) : Except Misuse Plan := do
  let l ← locate args
  match Sorted.read (l.command.helpFlag :: l.command.knownFlags) {} l.args with
  | .error f => throw (.flag f)
  | .ok sorted =>
    match l.command.action with
    | none => return .showHelp l.parents l.command
    | some action =>
      if sorted.settings.isOn "help" then return .showHelp l.parents l.command
      checkArity l sorted.args
      return .perform action sorted.settings sorted.args

def graveAccent : Char := '\x60'

/-- A text between grave accents if it can stand there as it is, else in quotes. -/
def quoteTopic (s : String) : String :=
  let fits (c : Char) : Bool :=
    c == '\t' || (32 ≤ c.toNat && c.toNat != 127 && c != graveAccent && c != '\uFEFF')
  if s.toList.all fits then String.ofList (graveAccent :: s.toList ++ [graveAccent]) else Str.quote s

def helpFor (args : List String) : String :=
  match locate args with
  | .ok l => l.command.help l.parents
  | .error _ =>
    "Unknown help topic [" ++ Str.join " " (args.map quoteTopic) ++ "]\n" ++ root.usage [] root.flags

end MoquiLint.Command
