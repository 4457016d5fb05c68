import MoquiLint.Command.Parse
import MoquiLint.Git.Repository
import MoquiLint.Server.Session
import MoquiLint.Store.History
import MoquiLint.Terminal.Report
import MoquiLint.Watch

/-! What the commands do. A command sees the disk, may change it, and leaves output, events and perhaps a
failure. -/
namespace MoquiLint.Command

def toolVersion : String := "dev"

def toolCommit : String := "none"

structure Environment where
  disk : Disk
  clock : String
  canceled : Bool := false
  input : Bytes := []
  /-- What is put in place while the command watches. -/
  changes : List (String × Entry) := []

inductive Failure where
  | lintFailed
  | noDefinitions (message : Text)
  | canceled (message : Text)
  | other (message : Text)
  deriving DecidableEq, Repr

def Failure.message : Failure → Text
  | .lintFailed => Text.ofString Verdict.failed.message
  | .noDefinitions m | .canceled m | .other m => m

def Failure.string (s : String) : Failure := .other (Text.ofString s)

structure Watching where
  project : String
  dialect : Dialect
  debounce : Span
  watcher : Watch.State

structure Result where
  disk : Disk
  output : Text := []
  events : List Event := []
  failure : Option Failure := none
  served : List Json := []
  watching : Option Watching := none

def refuse (env : Environment) (s : String) : Result := { disk := env.disk, failure := some (.string s) }

def write (env : Environment) (t : Text) : Result := { disk := env.disk, output := t }

def ofLint (f : Lint.Failure) : Failure :=
  let message := Text.ofString "lint failed: " ++ f.message
  match f with
  | .noDefinitions => .noDefinitions message
  | .canceled => .canceled message
  | _ => .other message

def ofVerdict : Verdict → Failure
  | .noDefinitions => .noDefinitions (Text.ofString Verdict.noDefinitions.message)
  | .failed => .lintFailed

def jsonOutput (j : Json) : Text := Text.ofString (Json.indented j ++ "\n")

def plain : Terminal.Colored := false

/-- Shows a batch and judges it. A batch without files shows nothing, unless as JSON. -/
def showBatch (asJson : Bool) (b : BatchReport) : Text × Option Failure :=
  (if asJson then jsonOutput b.toJson else if 0 < b.totals.files then Terminal.batch plain b else [],
   b.verdict.map ofVerdict)

def service (env : Environment) (cached : Bool) : Lint.Service :=
  { cache := if cached then some toolVersion else none, canceled := env.canceled }

def folderOf (env : Environment) (args : List String) : String := env.disk.absolute (args.headD ".")

def checkFolder (env : Environment) (kind : DocKind) (asJson : Bool) (folder : String) : Result :=
  let dialect := Dialect.ofKind kind
  if !env.disk.isFolder folder then refuse env ("directory not found: " ++ folder)
  else
    let o := Lint.run (service env false) env.disk ⟨".", [folder], dialect⟩
    match o.report with
    | .error f => { disk := o.disk, events := o.events, failure := some (ofLint f) }
    | .ok b =>
      if b.totals.files = 0 ∧ !asJson then
        { disk := o.disk, events := o.events, failure := some (.noDefinitions (Text.ofString (
            "no " ++ dialect.name ++ " XML files found in " ++ folder ++ ": " ++
            Verdict.noDefinitions.message))) }
      else
        let title := if asJson then "" else
          "Found " ++ toString b.totals.files ++ " " ++ dialect.name ++ " files in " ++ Path.clean folder ++
          "\n"
        let (shown, failure) := showBatch asJson b
        { disk := o.disk, events := o.events, output := Text.ofString title ++ shown, failure := failure }

def checkFile (env : Environment) (kind : DocKind) (asJson : Bool) (file : String) : Result :=
  if !env.disk.isPlain file then refuse env ("file not found: " ++ file)
  else
    let o := Lint.run (service env false) env.disk ⟨".", [file], Dialect.ofKind kind⟩
    match o.single with
    | .error f => { disk := o.disk, events := o.events, failure := some (ofLint f) }
    | .ok r =>
      { disk := o.disk
        events := o.events
        output := if asJson then jsonOutput r.toJson else Terminal.fileReport plain r
        failure := if r.passed then none else some .lintFailed }

def check (env : Environment) (kind : DocKind) (s : Settings) (args : List String) : Result :=
  let folder := s.text "directory" ""
  let asJson := s.isOn "json"
  match args with
  | [] =>
    if folder == "" then refuse env "a file path or --directory is required"
    else checkFolder env kind asJson folder
  | file :: _ =>
    if folder != "" then refuse env "give either a file path or --directory, not both"
    else checkFile env kind asJson file

def resolveLinks (d : Disk) (path : String) : String := (d.realPath path).getD path

def changedDefinitions (d : Disk) (project : String) (paths : List String) (dialect : Dialect) :
    Except String (List String) :=
  if !Git.isRepository d project then .error ("--changed needs a git repository: " ++ project)
  else
    match Git.changedFiles d project with
    | .error p => .error ("listing changed files: " ++ p.message)
    | .ok files =>
      let roots := paths.map fun p => resolveLinks d (d.absolute p)
      let own := files.filter fun f => Path.isXml f && Path.isUnder (resolveLinks d f) roots
      .ok (Scan.definitionsAmong d dialect own)

def record (d : Disk) (project clock : String) (b : BatchReport) : Disk × List Event :=
  match History.save d project (RunEntry.ofBatch b clock) History.maxRuns with
  | .ok d => (d, [])
  | .error f => (d, [.notRecorded (Text.ofString f.message)])

def lintPaths (env : Environment) (project : String) (dialect : Dialect) (s : Settings)
    (paths : List String) : Result :=
  let o := Lint.run (service env (s.isOn "cache")) env.disk ⟨project, paths, dialect⟩
  match o.report with
  | .error f => { disk := o.disk, events := o.events, failure := some (ofLint f) }
  | .ok b =>
    let b := { b with commitHash := ((Git.commitHash o.disk project).toOption).getD "" }
    let (d, recorded) := if s.isOn "record" then record o.disk project env.clock b else (o.disk, [])
    let (shown, failure) := showBatch (s.isOn "json") b
    { disk := d, events := o.events ++ recorded, output := shown, failure := failure }

def lint (env : Environment) (s : Settings) (args : List String) : Result :=
  let project := env.disk.absolute (s.text "path" ".")
  match Dialect.parseOption (Text.ofString (s.text "dialect" "")) with
  | .error e => refuse env e.message
  | .ok dialect =>
    let paths := if args.isEmpty then [project] else args
    if s.isOn "changed" then
      match changedDefinitions env.disk project paths dialect with
      | .error m => refuse env m
      | .ok [] => write env (Text.ofString "No changed definition files.\n")
      | .ok changed => lintPaths env project dialect s changed
    else lintPaths env project dialect s paths

def listRules (env : Environment) (s : Settings) : Result :=
  match Dialect.parse (Text.ofString (s.text "dialect" "auto")) with
  | .error e => refuse env e.message
  | .ok d =>
    let infos := Rules.infos d
    write env (if s.isOn "json" then jsonOutput (.arr (infos.map Rules.Info.toJson))
      else Terminal.rules plain infos)

def showHistory (env : Environment) (s : Settings) (args : List String) : Result :=
  match History.load env.disk (folderOf env args) with
  | .error f => refuse env ("loading history: " ++ f.message)
  | .ok entries =>
    let show_ (entries : Option (List RunEntry)) : Result :=
      write env (if s.isOn "json" then jsonOutput (.list RunEntry.toJson entries)
        else Terminal.history plain (entries.getD []))
    if s.has "dialect" then
      match Dialect.parse (Text.ofString (s.text "dialect" "")) with
      | .error e => refuse env e.message
      | .ok d => show_ (History.runsOf entries d)
    else show_ entries

def clearCache (env : Environment) (args : List String) : Result :=
  let project := folderOf env args
  match ResultCache.clear env.disk project with
  | .error f => refuse env ("clearing cache: " ++ f.message)
  | .ok d => { disk := d, output := Text.ofString ("Cleared result cache in " ++ project ++ "\n") }

def initConfig (env : Environment) (s : Settings) (args : List String) : Result :=
  let file := Path.join [folderOf env args, Config.fileName]
  if !s.isOn "force" && (env.disk.stat file).isOk then
    refuse env (Config.fileName ++ " already exists (use --force to overwrite)")
  else
    match Dialect.parse (Text.ofString (s.text "dialect" "auto")) with
    | .error e => refuse env e.message
    | .ok dialect =>
      match env.disk.write file (utf8 (Config.template dialect)) with
      | .error f => refuse env ("writing config: " ++ f.message)
      | .ok d => { disk := d, output := Text.ofString ("Created " ++ Config.fileName ++ "\n") }

namespace Watching

def relint (env : Environment) (w : Watching) (r : Result) (paths : List String) : Result :=
  match Scan.definitionsAmong r.disk w.dialect paths with
  | [] => r
  | changed =>
    let o := Lint.run (service env true) r.disk ⟨w.project, changed, w.dialect⟩
    match o.report with
    | .ok b =>
      { r with disk := o.disk, events := r.events ++ o.events, output := r.output ++ Terminal.batch plain b }
    | .error .canceled => { r with disk := o.disk, events := r.events ++ o.events }
    | .error f => { r with disk := o.disk, events := r.events ++ o.events ++ [.relintFailed f.message] }

/-- Takes notice of what has happened, then lints what the watcher hands over. -/
def proceed (env : Environment) (w : Watching) (r : Result)
    (happened : List (String × Watch.Operation)) : Watching × Result :=
  let (watcher, noticed) := w.watcher.noticeAll r.disk happened
  let (watcher, batch) := watcher.flush r.disk
  let w := { w with watcher := watcher }
  (w, w.relint env { r with events := r.events ++ noticed } (batch.getD []))

/-- Puts changes in place one after the other, each followed by a batch of the watcher. -/
def throughout (env : Environment) (w : Watching) (r : Result) : List (String × Entry) → Result
  | [] => { r with watching := some w }
  | (path, entry) :: changes =>
    let d := match r.disk.replace path entry with
      | .ok d => d
      | .error _ => r.disk
    let happened := ((w.watcher.sees? d path).map fun seen => (seen, Watch.Operation.create)).toList
    let (w, r) := w.proceed env { r with disk := d } happened
    w.throughout env r changes

end Watching

def watch (env : Environment) (s : Settings) (args : List String) : Result :=
  let project := folderOf env args
  match Dialect.parseOption (Text.ofString (s.text "dialect" "")) with
  | .error e => refuse env e.message
  | .ok dialect =>
    let o := Lint.run (service env true) env.disk ⟨project, [project], dialect⟩
    match o.report with
    | .error f => { disk := o.disk, events := o.events, failure := some (ofLint f) }
    | .ok b =>
      let r : Result := { disk := o.disk, events := o.events, output := Terminal.summary plain b }
      match Watch.start o.disk project with
      | .error f => { r with failure := some (.string f.message) }
      | .ok watcher =>
        let given := s.span "debounce" standardDebounce
        let debounce := if given.nanoseconds ≤ 0 then standardDebounce else given
        let r := { r with events := r.events ++ [.watching project debounce.text] }
        Watching.throughout env ⟨project, dialect, debounce, watcher⟩ r env.changes

def serve (env : Environment) (s : Settings) : Result :=
  let (answers, events) := Server.serve env.disk (env.disk.absolute (s.text "path" ".")) env.input
  { disk := env.disk, served := answers, events := events }

def perform (env : Environment) (s : Settings) (args : List String) : Action → Result
  | .version => write env (Text.ofString ("moqlint " ++ toolVersion ++ " (" ++ toolCommit ++ ")\n"))
  | .check kind => check env kind s args
  | .lint => lint env s args
  | .rules => listRules env s
  | .history => showHistory env s args
  | .clearCache => clearCache env args
  | .watch => watch env s args
  | .init => initConfig env s args
  | .serve => serve env s
  | .help => write env (Text.ofString (helpFor args))

/-- Runs the program with arguments; also the lines it reports its events on. -/
def run (env : Environment) (args : List String) : Result × List String :=
  match parse args with
  | .error m => (refuse env m.message, [])
  | .ok (.showHelp parents c) => (write env (Text.ofString (c.help parents)), [])
  | .ok (.perform action s rest) =>
    let r := perform env s rest action
    (r, Event.lines (s.isOn "verbose") r.events)

end MoquiLint.Command
