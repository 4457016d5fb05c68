import MoquiLint.Command.Flag
import MoquiLint.Dialect

/-! The commands of the program: their names, usage, flags and what they do. -/
namespace MoquiLint

namespace Command

inductive Arity where
  | any
  | none
  | atMost (n : Nat)
  deriving DecidableEq, Repr

inductive Action where
  | version
  | check (kind : DocKind)
  | lint
  | rules
  | history
  | clearCache
  | watch
  | init
  | serve
  | help
  deriving DecidableEq, Repr

end Command

/-- A command, possibly with commands below it. One without an action shows its help. -/
structure Command where
  name : String
  operands : String := ""
  short : String
  /-- The long description; empty if the short one serves. -/
  long : String := ""
  arity : Command.Arity := .any
  flags : List Command.Flag := []
  action : Option Command.Action := none
  children : List Command := []
  deriving Inhabited

namespace Command

def verboseFlag : Flag := ⟨"verbose", some 'v', .truth, "Enable debug logging on stderr"⟩

def helpFlag (c : Command) : Flag := ⟨"help", some 'h', .truth, "help for " ++ c.name⟩

def jsonFlag (what : String) : Flag := ⟨"json", none, .truth, "Output " ++ what ++ " as JSON"⟩

def dialectFlag : Flag :=
  ⟨"dialect", none, .text "", "Dialect: auto, entity or service (default from .moqlint.yaml)"⟩

def standardDebounce : Span := .milliseconds 300

def checkCommand (kind : DocKind) : Command :=
  let name := (Dialect.ofKind kind).name
  { name := name
    operands := " [file]"
    short := "Validate a Moqui " ++ name ++ " definition file or directory"
    long := "Validate one " ++ name ++ " definition file, or with --directory every *.xml file in a " ++
      "directory tree that looks like a " ++ name ++ " definition. Exits 1 on any issue."
    arity := .atMost 1
    flags := [
      ⟨"directory", some 'd', .text "", "Validate every matching file under this directory"⟩,
      jsonFlag "the report"]
    action := some (.check kind) }

def lintCommand : Command where
  name := "lint"
  operands := " [paths...]"
  short := "Lint definition files and directories"
  long := "Lint entity and service definition files. Directories are scanned for *.xml files whose " ++
    "root element matches the dialect. Exits 1 when any file has an issue or cannot be parsed."
  flags := [
    ⟨"path", none, .text ".", "Project root holding .moqlint.yaml"⟩,
    dialectFlag,
    jsonFlag "the report",
    ⟨"changed", none, .truth, "Only lint XML files changed in the git worktree"⟩,
    ⟨"record", none, .truth, "Append a summary of this run to the history"⟩,
    ⟨"cache", none, .truth, "Reuse results for unchanged files"⟩]
  action := some .lint

def rulesCommand : Command where
  name := "rules"
  short := "List the rule catalog"
  long := "List every rule with its severity. Rule IDs can be disabled with skip_rules in .moqlint.yaml."
  arity := .none
  flags := [
    ⟨"dialect", none, .text "auto", "Dialect: auto (both), entity or service"⟩,
    jsonFlag "rules"]
  action := some .rules

def historyCommand : Command where
  name := "history"
  operands := " [path]"
  short := "Show recorded lint runs"
  long := "Show the runs recorded with `moqlint lint --record`, oldest first.\n" ++
    "Only the latest runs are kept."
  arity := .atMost 1
  flags := [
    jsonFlag "history",
    ⟨"dialect", none, .text "",
      "Only show runs of this dialect (" ++ Str.join ", " Dialect.names ++ ")"⟩]
  action := some .history

def cacheCommand : Command where
  name := "cache"
  short := "Manage the result cache used by lint --cache and watch"
  children := [{
    name := "clear"
    operands := " [path]"
    short := "Delete the cached results of a project"
    arity := .atMost 1
    action := some .clearCache }]

def watchCommand : Command where
  name := "watch"
  operands := " [dir]"
  short := "Re-lint definition files as they change"
  long := "Lint a directory once, then re-lint each definition file that is created or saved until " ++
    "interrupted."
  arity := .atMost 1
  flags := [
    dialectFlag,
    ⟨"debounce", none, .span standardDebounce, "Wait this long for more changes before re-linting"⟩]
  action := some .watch

def initCommand : Command where
  name := "init"
  operands := " [path]"
  short := "Generate a .moqlint.yaml configuration file"
  long := "Create a .moqlint.yaml with the default settings and every option documented."
  arity := .atMost 1
  flags := [
    ⟨"dialect", none, .text "auto", "Default dialect (auto, entity, service)"⟩,
    ⟨"force", none, .truth, "Overwrite existing .moqlint.yaml"⟩]
  action := some .init

def serverCommand : Command where
  name := "mcp"
  short := "MCP server commands"
  long := "Commands for running the moqlint MCP (Model Context Protocol) server."
  children := [{
    name := "serve"
    short := "Start moqlint MCP server (stdio)"
    long := "Start the moqlint MCP server using stdio transport. This lets AI coding assistants lint " ++
      "definition files and read the rule catalog."
    flags := [⟨"path", none, .text ".", "Project path (defaults to current working directory)"⟩]
    action := some .serve }]

def helpCommand : Command where
  name := "help"
  operands := " [command]"
  short := "Help about any command"
  long := "Help provides help for any command in the application.\n" ++
    "Simply type moqlint help [path to command] for full details."
  action := some .help

def completionCommand : Command where
  name := "completion"
  short := "Generate the autocompletion script for the specified shell"
  long := "Generate the autocompletion script for moqlint for the specified shell.\n" ++
    "See each sub-command's help for details on how to use the generated script.\n"

def root : Command where
  name := "moqlint"
  short := "Lint Moqui entity and service definitions"
  long := "moqlint checks Moqui-style XML entity and service definition files against a fixed rule " ++
    "catalog and reports structural issues and convention suggestions."
  children := [
    { name := "version", short := "Show moqlint version", action := some .version },
    checkCommand .entity, checkCommand .service, lintCommand, rulesCommand, historyCommand, cacheCommand,
    watchCommand, initCommand, serverCommand, helpCommand, completionCommand]

def isRunnable (c : Command) : Bool := c.action.isSome

end Command

end MoquiLint
