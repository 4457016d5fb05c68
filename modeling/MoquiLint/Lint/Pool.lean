import MoquiLint.Lint.Basic

/-! Judging candidates side by side. Every candidate has a task of its own. Tasks are started in the order of
the candidates, no more than a limit are under way at a time, and each puts its report and the digest of the
content at the place of its candidate. Which task takes the next step is up to a schedule. While tasks are
under way neither the disk nor the cache changes. -/
namespace MoquiLint

/-- How many files may be looked at side by side: as many as configured, else one for each processor. -/
def Config.sideBySide (c : Config) (processors : Nat) : Nat :=
  if 0 < c.workers then c.workers.toNat else processors

namespace Lint

inductive Stage where
  | waiting
  | started
  /-- The candidate is judged, nothing has been put down yet. -/
  | judged (j : Judged)
  /-- The report is in its place. -/
  | reported (j : Judged)
  /-- The digest is in its place, too. -/
  | filed
  | finished
  deriving DecidableEq, Repr

def Stage.isActive : Stage → Bool
  | .waiting | .finished => false
  | _ => true

structure Workload where
  candidates : List Candidate
  judge : Candidate → Judged
  limit : Nat
  canceled : Bool

structure Pool where
  next : Nat
  stages : List Stage
  reports : List FileReport
  hashes : List (Option String)
  events : List Event
  /-- Whether a task has failed, which calls off those that have not begun to read. -/
  failed : Bool
  deriving DecidableEq, Repr

/-- A step of the pool: the next task is started, or one that is under way goes on. -/
inductive Move where
  | start
  | advance (i : Nat)
  deriving DecidableEq, Repr

namespace Pool

def fresh (n : Nat) : Pool where
  next := 0
  stages := .replicate n .waiting
  reports := .replicate n default
  hashes := .replicate n none
  events := []
  failed := false

def active (p : Pool) : Nat := p.stages.countP Stage.isActive

def goOn (w : Workload) (p : Pool) (i : Nat) (c : Candidate) : Stage → Option Pool
  | .waiting | .finished => none
  | .started =>
    if w.canceled || p.failed then some { p with stages := p.stages.set i .finished, failed := true }
    else
      let j := w.judge c
      some { p with stages := p.stages.set i (.judged j), events := p.events ++ j.events }
  | .judged j => some { p with stages := p.stages.set i (.reported j), reports := p.reports.set i j.report }
  | .reported j => some { p with stages := p.stages.set i .filed, hashes := p.hashes.set i j.hash }
  | .filed => some { p with stages := p.stages.set i .finished }

def step? (w : Workload) (p : Pool) : Move → Option Pool
  | .start =>
    if p.next < w.candidates.length ∧ p.active < w.limit then
      some { p with next := p.next + 1, stages := p.stages.set p.next .started }
    else none
  | .advance i =>
    match w.candidates[i]?, p.stages[i]? with
    | some c, some s => p.goOn w i c s
    | _, _ => none

def follow (w : Workload) (p : Pool) : List Move → Option Pool
  | [] => some p
  | m :: ms => (p.step? w m).bind fun q => q.follow w ms

def isDone (w : Workload) (p : Pool) : Bool :=
  p.next == w.candidates.length && p.stages.all fun s => s == .finished

def judged (p : Pool) : List Judged :=
  List.zipWith (fun report hash => { report := report, hash := hash }) p.reports p.hashes

end Pool

def Service.workload (s : Service) (processors : Nat) (d : Disk) (project : String) (cfg : Config)
    (cs : List Candidate) : Workload where
  candidates := cs
  judge := judge s.parts d cfg.skipped (s.lookedUp d project cfg)
  limit := cfg.sideBySide processors
  canceled := s.canceled

/-- Lints the candidates by tasks that take their steps in the order of a schedule. None if a step cannot be
taken or tasks are left over. -/
def lintBy (s : Service) (processors : Nat) (schedule : List Move) (d : Disk) (project : String)
    (dialect : Dialect) (cfg : Config) (cs : List Candidate) : Option Outcome :=
  let w := s.workload processors d project cfg cs
  match (Pool.fresh cs.length).follow w schedule with
  | none => none
  | some p =>
    if !p.isDone w then none
    else if p.failed then some (calledOff s d project cfg)
    else some (conclude s d project dialect cfg cs p.judged p.events)

def runBy (s : Service) (processors : Nat) (schedule : List Move) (d : Disk) (r : Request) : Option Outcome :=
  match prepare s d r with
  | .over o => some o
  | .ready dialect cfg cs events =>
    (lintBy s processors schedule d r.project dialect cfg cs).map (Outcome.after events)

end Lint

end MoquiLint
