import MoquiLint.Command.Catalog

/-! The help texts of commands. -/
namespace MoquiLint.Command

def padTo (width : Nat) (s : String) : String :=
  s ++ String.ofList (List.replicate (width - s.utf8ByteSize) ' ')

def trimEnd (s : String) : String := String.ofList (Seq.dropRightWhile Text.isSpace s.toList)

namespace Flag

def heading (f : Flag) : String :=
  (match f.short with
    | some c => "  -" ++ String.singleton c ++ ", --" ++ f.name
    | none => "      --" ++ f.name) ++
  match f.kind with
    | .truth => ""
    | .text _ => " string"
    | .span _ => " duration"

def purpose (f : Flag) : String :=
  f.usage ++
  match f.kind with
    | .truth => ""
    | .text initial => if initial == "" then "" else " (default " ++ Str.quote initial ++ ")"
    | .span initial => if initial.nanoseconds == 0 then "" else " (default " ++ initial.text ++ ")"

def usages (flags : List Flag) : String :=
  let flags := flags.mergeSort fun a b => Str.le a.name b.name
  let width := (flags.map fun f => f.heading.utf8ByteSize).foldl max 0
  Str.join "\n" (flags.map fun f => padTo (width + 3) f.heading ++ f.purpose)

end Flag

def nameColumn : Nat := 11

def listing (c : Command) : String :=
  let children := c.children.mergeSort fun a b => Str.le a.name b.name
  let width := (children.map fun k => k.name.utf8ByteSize).foldl max nameColumn
  String.join (children.map fun k => "\n  " ++ padTo width k.name ++ " " ++ k.short)

def usage (parents : List String) (own : List Flag) (c : Command) : String :=
  let path := Str.join " " (parents ++ [c.name])
  "Usage:" ++
  (if c.isRunnable then "\n  " ++ path ++ c.operands ++ " [flags]" else "") ++
  (if c.children.isEmpty then "" else "\n  " ++ path ++ " [command]\n\nAvailable Commands:" ++ c.listing) ++
  "\n\nFlags:\n" ++ trimEnd (Flag.usages (if parents.isEmpty then own ++ [verboseFlag] else own)) ++
  (if parents.isEmpty then "" else "\n\nGlobal Flags:\n" ++ Flag.usages [verboseFlag]) ++
  (if c.children.isEmpty then ""
    else "\n\nUse \"" ++ path ++ " [command] --help\" for more information about a command.") ++
  "\n"

def help (parents : List String) (c : Command) : String :=
  trimEnd (if c.long == "" then c.short else c.long) ++ "\n\n" ++
    c.usage parents (c.helpFlag :: c.flags)

end MoquiLint.Command
