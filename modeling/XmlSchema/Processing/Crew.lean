import XmlSchema.Processing.Run

/-!
# Workers side by side

A crew processes the files of a run together.  A worker takes files that nobody
has taken, one after the other, and builds with a cache of its own; all look at
one flag, which goes up when a document fails.  Nothing else is shared, since
files stay as they are while nothing is written.  Which worker takes which
file, how their steps mix, when another worker comes, what a worker sees of the
flag and what its cache loses is up to a schedule.
-/

namespace XmlSchema

/-- How far a run has come with a file.  Nobody has taken it, or a worker
builds known namespaces and then the document, or has a report to hand in, or
the report has been handed in. -/
inductive Turn where
  | waiting (path : String)
  | building (path : String) (worker : Worker) (known : List (String × String)) (ws : Workspace)
  | done (worker : Worker) (report : DocumentReport)
  | ended (report : DocumentReport)
  deriving Inhabited

/-- The workers without a file, and the files of a run in their order.  The
flag goes up after a failure. -/
structure Crew where
  idle : List Worker
  turns : List Turn
  flag : Bool := false
  deriving Inhabited

/-- What happens next: another worker comes; the idle worker `n` takes the file
`i`, and sees the flag or not; the worker with the file `i` goes on, while its
cache loses entries, or hands in its report. -/
inductive Move where
  | join
  | take (n i : Nat) (sees : Bool)
  | work (i : Nat) (evictions : List (List Request))
  | handIn (i : Nat)
  deriving DecidableEq, Repr

/-- Whether a move deals with a file. -/
def Move.onFile : Move → Bool
  | join => false
  | _ => true

/-- A workspace whose cache is about to lose entries. -/
def Workspace.losing (ws : Workspace) (evictions : List (List Request)) : Workspace :=
  { ws with cache := ws.cache.map fun cache => { cache with evictions } }

/-- The report that has been handed in. -/
def Turn.report? : Turn → Option DocumentReport
  | ended report => some report
  | _ => none

/-- Go on with a document: build the next of the known namespaces, or else the
document itself. -/
def Processor.advance (p : Processor) (t : FileTree) (path : String) (worker : Worker)
    (ws : Workspace) : List (String × String) → Turn
  | known :: rest =>
      match (p.loadKnown (p.environment t) [known]).run.run ws with
      | (.ok _, ws) => .building path worker rest ws
      | (.error e, ws) => .done (worker.resume ws) { path, status := .failed (p.describe e) }
  | [] =>
      match (Processor.buildEntry (p.environment t) t path).run.run ws with
      | (.ok (number, direct), ws) =>
          .done ((worker.resume ws).keep ws.collection (if direct then some number else none))
            (Processor.reportBuilt ws.collection number path [])
      | (.error e, ws) => .done (worker.resume ws) { path, status := .failed (p.describe e) }

namespace Crew

/-- The crew at the beginning of a run. -/
def assemble (p : Processor) (paths : List String) : Crew where
  idle := [Worker.fresh p.cacheCapacity]
  turns := paths.map .waiting

/-- The reports that have been handed in, in the order of the files. -/
def reports (s : Crew) : List (Option DocumentReport) := s.turns.map Turn.report?

/-- The file `i` has come to another turn. -/
def turn (s : Crew) (i : Nat) (next : Turn) : Crew := { s with turns := s.turns.set i next }

/-- Make a move, if it can be made.  A worker may see the flag down some time
after it has gone up, but never up before. -/
def step (p : Processor) (t : FileTree) (s : Crew) : Move → Option Crew
  | .join => some { s with idle := s.idle ++ [Worker.fresh p.cacheCapacity] }
  | .take n i sees =>
      match s.idle[n]?, s.turns[i]? with
      | some worker, some (.waiting path) =>
          if sees && !s.flag then none
          else if p.failFast && sees then
            some (s.turn i (.ended { path, status := .skipped Processor.skipReason }))
          else
            some ({ s with idle := s.idle.eraseIdx n }.turn i
              (.building path worker p.knownNamespaces worker.workspace))
      | _, _ => none
  | .work i evictions =>
      match s.turns[i]? with
      | some (.building path worker known ws) =>
          some (s.turn i (p.advance t path worker (ws.losing evictions) known))
      | _ => none
  | .handIn i =>
      match s.turns[i]? with
      | some (.done worker report) =>
          some ({ s with idle := worker :: s.idle, flag := s.flag || report.status.isFailed }.turn i
            (.ended report))
      | _ => none

/-- Make the moves of a schedule, if all of them can be made. -/
def run (p : Processor) (t : FileTree) (moves : List Move) (s : Crew) : Option Crew :=
  moves.foldlM (step p t) s

end Crew

end XmlSchema
