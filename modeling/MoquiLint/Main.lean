import MoquiLint.Command.Run
import MoquiLint.Instant
import Std.Time.DateTime.Timestamp

/-! The command line. A command runs on a copy of the file trees that it may look at; what it changes in
them is written back when it is done. -/
namespace MoquiLint.CommandLine

/-- Reads what stands at a path, with the places that links below it lead to. A file that cannot be read
counts as one that cannot be opened, and a broken link leads to a place that is never there. -/
partial def readEntry (path : String) : IO (Entry × List String) := do
  let here := (← IO.currentDir) / path
  match (← here.symlinkMetadata).type with
  | .dir =>
    let mut members := []
    let mut targets := []
    for m in ← here.readDir do
      let (e, ts) ← readEntry (Path.join [path, m.fileName])
      members := Keyed.insert m.fileName e members
      targets := ts ++ targets
    return (.folder members, targets)
  | .symlink =>
    try
      let target := (← IO.FS.realPath here).toString
      return (.link target, [target])
    catch _ => return (.link "/dev/null", [])
  | .file =>
    try return (.file (← IO.FS.readBinFile here).toList, [])
    catch _ => return (.socket, [])
  | .other => return (.socket, [])

/-- Copies the trees at the given paths, and those that links in them lead to, unless they lie in one
that is already there. -/
partial def copyAll (d : Disk) (copied : List String) : List String → IO Disk
  | [] => return d
  | path :: paths => do
    let real ← try pure (some (← IO.FS.realPath path).toString) catch _ => pure none
    match real with
    | none => copyAll d copied paths
    | some real =>
      if Path.isUnder real copied then copyAll (linked d path real) copied paths
      else
        let (e, targets) ← readEntry real
        let d := ((d.makeFolders (Path.parent real)).toOption.getD d).put (Path.segments real) e
        copyAll (linked d path real) (real :: copied) (paths ++ targets)
where
  linked (d : Disk) (path real : String) : Disk :=
    if (d.stat path).isOk then d
    else
      match d.makeFolders (Path.parent path) with
      | .ok e => ((e.create "symlink" path (.link real)).toOption).getD d
      | .error _ => d

def namedPaths (d : Disk) (args : List String) : List String :=
  args.flatMap fun arg =>
    let behind := String.ofList ((arg.toList.dropWhile (· != '=')).drop 1)
    [d.absolute arg] ++ (if behind == "" then [] else [d.absolute behind])

def repositoryPaths (path : String) : List String :=
  let names := Path.segments path
  (List.range (names.length + 1)).map fun i => Path.spell true (names.take i ++ [".git"])

def snapshot (args : List String) : IO Disk := do
  let here := (← IO.currentDir).toString
  let d : Disk := { here := Path.segments here }
  let paths := here :: namedPaths d args
  copyAll d [] (paths ++ paths.flatMap repositoryPaths)

partial def writeEntry (path : String) : Entry → IO Unit
  | .file content => IO.FS.writeBinFile path ⟨content.toArray⟩
  | .folder members => do
    IO.FS.createDirAll path
    for (name, e) in members do writeEntry (Path.join [path, name]) e
  | _ => return

def carryOut (c : Change) : IO Unit := do
  let path := Path.spell true c.place
  match c.entry with
  | some e => writeEntry path e
  | none =>
    if ← ((← IO.currentDir) / path).isDir then IO.FS.removeDirAll path else IO.FS.removeFile path

def now : IO Instant := do
  return ⟨(← Std.Time.Timestamp.now).toSecondsSinceUnixEpoch.val.toNat⟩

def environment (args : List String) (input : Bytes) : IO Command.Environment := do
  return { disk := ← snapshot args, clock := (← now).text, input := input }

def present (env : Command.Environment) (r : Command.Result) (log : List String) : IO Unit := do
  for line in log do IO.eprintln (env.clock ++ "\t" ++ line)
  for c in Change.between [] env.disk.root r.disk.root do carryOut c
  let out ← IO.getStdout
  out.write ⟨(Text.encode r.output).toArray⟩
  for j in r.served do out.putStrLn (Json.compact j)
  out.flush

partial def keepWatching (args : List String) (verbose : Bool) (old : Disk) (w : Command.Watching) :
    IO Unit := do
  IO.sleep (w.debounce.nanoseconds / 1000000).toNat.toUInt32
  let env ← environment args []
  let changes := Change.between [] old.root env.disk.root
  let (w, r) := w.proceed env { disk := env.disk } (w.watcher.witnessed old env.disk changes)
  present env r (Event.lines verbose r.events)
  keepWatching args verbose r.disk w

partial def keepServing (args : List String) : IO Unit := do
  let line ← (← IO.getStdin).getLine
  if line.isEmpty then return
  let env ← environment args (utf8 line)
  let (r, log) := Command.run env args
  present env r log
  keepServing args

/-- Runs a command once. A failure that the output does not tell of is told on the error stream. -/
def runOnce (args : List String) (verbose : Bool) : IO UInt32 := do
  let env ← environment args []
  let (r, log) := Command.run env args
  present env r log
  match r.failure, r.watching with
  | none, some w => keepWatching args verbose r.disk w; return 0
  | none, none => return 0
  | some .lintFailed, _ => return 1
  | some f, _ =>
    (← IO.getStderr).write ⟨(Text.encode (Text.ofString "Error: " ++ f.message)).toArray.push 10⟩
    return 1

end MoquiLint.CommandLine

open MoquiLint in
def main (args : List String) : IO UInt32 :=
  match Command.parse args with
  | .ok (.perform .serve ..) => do CommandLine.keepServing args; return 0
  | .ok (.perform _ s _) => CommandLine.runOnce args (s.isOn "verbose")
  | _ => CommandLine.runOnce args false
