import MoquiLint.Digest.Sha256
import MoquiLint.Lint.Parts
import MoquiLint.Rules.Engine
import MoquiLint.Store.Cache

/-! Linting files and directories of a project: the configuration is loaded, candidates are collected in
the order of the given paths, each candidate is judged on its own, and the reports are reduced to a
batch. Results of unchanged files may come from the cache. -/
namespace MoquiLint.Lint

inductive Failure where
  | config (fault : Config.LoadFault)
  | notFound (path : String)
  | disk (fault : Disk.Fault)
  | scan (path : String) (reason : Text)
  | noDefinitions
  | canceled
  deriving DecidableEq, Repr

def Failure.message : Failure → Text
  | .config f => Text.ofString "loading config: " ++ f.message
  | .notFound path => Text.ofString ("path not found: " ++ path)
  | .disk f => Text.ofString f.message
  | .scan path reason => Text.ofString ("scanning " ++ path ++ ": ") ++ reason
  | .noDefinitions => Text.ofString Verdict.noDefinitions.message
  | .canceled => Text.ofString "context canceled"

structure Request where
  /-- The directory whose configuration counts. -/
  project : String
  paths : List String
  dialect : Dialect := .unset
  deriving DecidableEq, Repr, Inhabited

/-- The dialect that counts: the requested one, else the configured one. -/
def Request.dialectIn (r : Request) (cfg : Config) : Dialect :=
  if r.dialect = .unset then ⟨Text.toString cfg.dialect⟩ else r.dialect

structure Service where
  parts : Parts := .standard
  /-- The version of the tool if results are to be cached. -/
  cache : Option String := none
  canceled : Bool := false

def contentHash (data : Bytes) : String := Digest.Sha256.hash data

def addNew (known new : List Candidate) : List Candidate :=
  new.foldl (fun cs c => if cs.any (fun k => k.path == c.path) then cs else cs ++ [c]) known

/-- The candidates a path stands for: a file itself, a directory all that a scan finds in it. -/
def candidatesOf (p : Parts) (d : Disk) (dialect : Dialect) (cfg : Config) (path : String) :
    Except Failure (List Candidate × List Event) :=
  let full := d.absolute path
  match d.stat full with
  | .error f => .error (if f.cause = .missing then .notFound path else .disk f)
  | .ok (.folder _) =>
    match p.scan d full dialect cfg with
    | .error reason => .error (.scan path reason)
    | .ok r => .ok (r.files, r.events)
  | .ok _ => .ok ([⟨full, dialect⟩], [])

/-- The candidates of all paths, each path at its first occurrence; and what happened on the way, also
if it ended in a failure. -/
def collect (p : Parts) (d : Disk) (dialect : Dialect) (cfg : Config) (known : List Candidate) :
    List String → Except Failure (List Candidate) × List Event
  | [] => (.ok known, [])
  | path :: paths =>
    match candidatesOf p d dialect cfg path with
    | .error f => (.error f, [])
    | .ok (new, events) =>
      let (r, more) := collect p d dialect cfg (addNew known new) paths
      (r, events ++ more)

/-- A file's report, with the digest of its content if the result may be cached. -/
structure Judged where
  report : FileReport
  hash : Option String := none
  events : List Event := []
  deriving DecidableEq, Repr, Inhabited

def settle (d : Dialect) (shown : Option Dialect) : Dialect := if d = .auto then shown.getD d else d

/-- Judges a file. What cannot be read or parsed is a matter for the report. -/
def judge (p : Parts) (d : Disk) (skip : List String) (cache : Option ResultCache) (c : Candidate) :
    Judged :=
  match d.read c.path with
  | .error f =>
    { report := { path := c.path, dialect := c.dialect,
                  parseError := Text.ofString ("reading file: " ++ f.message) }
      events := [.cannotRead c.path f] }
  | .ok data =>
    let hash := contentHash data
    match cache.bind fun k => k.lookup c.path hash c.dialect with
    | some result =>
      { report := { path := c.path, dialect := settle c.dialect (Sniff.detect data), result := result,
                    cached := true }
        hash := some hash
        events := [.cacheHit c.path] }
    | none =>
      match p.parse c.path data with
      | .error e =>
        { report := { path := c.path, dialect := settle c.dialect (Sniff.detect data),
                      parseError := e.detail }
          events := [.parseFailed c.path e.full] }
      | .ok root =>
        { report := { path := c.path, dialect := settle c.dialect (Dialect.forRoot? root.tag),
                      result := (Rules.evaluate (some root) c.dialect).without skip }
          hash := some hash }

/-- The cache a run starts from: the stored one if it is valid for the configuration and the version of
the tool, else a new one. -/
def openCache (d : Disk) (project version : String) (cfg : Config) : ResultCache × List Event :=
  let hash := Config.hash cfg.dialect cfg.skipRules
  let fresh : ResultCache := { projectPath := project, configHash := hash, version := version }
  match ResultCache.load d project with
  | .error f => (fresh, [.cacheIgnored (Text.ofString f.message)])
  | .ok none => (fresh, [])
  | .ok (some c) => (if c.isInvalidated hash version then fresh else { c with projectPath := project }, [])

def record (k : ResultCache) (c : Candidate) (j : Judged) : ResultCache :=
  match j.hash with
  | some hash => if j.report.cached then k else k.put j.report.path hash c.dialect j.report.result
  | none => k

def recordAll (cache : ResultCache) (cs : List Candidate) (js : List Judged) : ResultCache :=
  (cs.zip js).foldl (fun k cj => record k cj.1 cj.2) cache

def closeCache (d : Disk) (cache : ResultCache) : Disk × List Event :=
  match cache.save d with
  | .ok d => (d, [])
  | .error f => (d, [.cacheNotSaved (Text.ofString f.message)])

def shares (p : Parts) (d : Disk) (project : String) (reports : List FileReport) :
    List ComponentSummary × List Event :=
  match p.detect d project (reports.map (·.path)) with
  | .ok components => (Component.summarize components reports, [])
  | .error reason => ([], [.detectionFailed reason])

structure Outcome where
  report : Except Failure BatchReport
  disk : Disk
  events : List Event := []

/-- Reduces what was judged to a batch, after the results to keep were stored. `told` is what happened while
the candidates were judged. -/
def conclude (s : Service) (d : Disk) (project : String) (dialect : Dialect) (cfg : Config)
    (cs : List Candidate) (js : List Judged) (told : List Event) : Outcome :=
  let opened := s.cache.map fun version => openCache d project version cfg
  let (after, closing) := match opened with
    | none => (d, [])
    | some (cache, _) => closeCache d (recordAll cache cs js)
  let reports := js.map (·.report)
  let (components, found) := shares s.parts after project reports
  let batch := { BatchReport.ofFiles (some reports) with dialect := dialect, components := components }
  { report := .ok batch
    disk := after
    events := ((opened.map (·.2)).getD []) ++ told ++ closing ++ found ++
      [.linted batch.totals.files batch.totals.issues batch.totals.suggestions batch.passed] }

def Service.lookedUp (s : Service) (d : Disk) (project : String) (cfg : Config) : Option ResultCache :=
  s.cache.map fun version => (openCache d project version cfg).1

def lintAll (s : Service) (d : Disk) (project : String) (dialect : Dialect) (cfg : Config)
    (cs : List Candidate) : Outcome :=
  let js := cs.map (judge s.parts d cfg.skipped (s.lookedUp d project cfg))
  conclude s d project dialect cfg cs js (js.flatMap (·.events))

/-- How a run begins: it is over at once, or there are candidates to judge in a dialect and under a
configuration, and some things have happened on the way to them. -/
inductive Prepared where
  | over (o : Outcome)
  | ready (dialect : Dialect) (cfg : Config) (cs : List Candidate) (events : List Event)

def prepare (s : Service) (d : Disk) (r : Request) : Prepared :=
  match Config.load d r.project with
  | .error f => .over ⟨.error (.config f), d, []⟩
  | .ok cfg =>
    let dialect := r.dialectIn cfg
    match collect s.parts d dialect cfg [] r.paths with
    | (.error f, events) => .over ⟨.error f, d, events⟩
    | (.ok [], events) =>
      .over ⟨.ok { BatchReport.ofFiles none with dialect := dialect }, d, events ++ [.nothingFound r.paths]⟩
    | (.ok cs, events) => .ready dialect cfg cs events

def calledOff (s : Service) (d : Disk) (project : String) (cfg : Config) : Outcome :=
  ⟨.error .canceled, d, (s.cache.map fun version => (openCache d project version cfg).2).getD []⟩

def Outcome.after (events : List Event) (o : Outcome) : Outcome := { o with events := events ++ o.events }

/-- Lints files and directories. A file is always linted, a directory is scanned. -/
def run (s : Service) (d : Disk) (r : Request) : Outcome :=
  match prepare s d r with
  | .over o => o
  | .ready dialect cfg cs events =>
    Outcome.after events <|
      if s.canceled then calledOff s d r.project cfg else lintAll s d r.project dialect cfg cs

def Outcome.single (o : Outcome) : Except Failure FileReport :=
  match o.report with
  | .error f => .error f
  | .ok b =>
    match b.fileList with
    | [] => .error .noDefinitions
    | f :: _ => .ok f

end MoquiLint.Lint
