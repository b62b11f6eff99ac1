import XmlSchema.Resolution.Local
import XmlSchema.Resolution.Composition
import XmlSchema.Settings.Basic

/-!
# Processors and workers

A processor knows how documents are built and where they are written.  A worker
builds one document after the other, each into a collection of its own, and
keeps the documents that were resolved for use by the next.
-/

namespace XmlSchema

/-- How documents are processed.  `resolver` tells how documents are found in a
tree of files, and `describe` how a failure is told. -/
structure Processor where
  threads : Nat := 1
  baseUri : Option String := none
  knownNamespaces : List (String × String) := []
  cacheCapacity : Option Nat := some 1000
  outputDirectory : Option String := none
  recursive : Bool := false
  indent : Nat := 2
  failFast : Bool := false
  policy : ForeignPolicy := .keep
  resolver : FileTree → Resolver := Resolver.ofFiles
  describe : SchemaError → String := SchemaError.message

namespace Processor

/-- The processor for some settings, on a machine that runs a number of threads
at once. -/
def ofSettings (threads : Nat) (s : Settings) : Processor where
  threads := s.building.threads.getD threads
  baseUri := s.building.baseUri
  knownNamespaces := s.building.knownNamespaces
  cacheCapacity := s.cacheCapacity?
  outputDirectory := s.output.directory
  recursive := s.output.recursive
  indent := s.output.indent
  failFast := s.building.failFast

/-- The surroundings of a composition that reads files of a tree. -/
def environment (p : Processor) (t : FileTree) : Environment := ⟨p.resolver t, p.policy⟩

end Processor

/-- A worker.  `held` gives the documents that it keeps alive, by locator. -/
structure Worker where
  cache : Option ResolutionCache := none
  capacity : Nat := 0
  held : List (String × Nat) := []
  nextTicket : Nat := 1
  requests : List Request := []
  deriving Inhabited

namespace Worker

/-- A worker with a cache of some capacity, or without cache. -/
def fresh : Option Nat → Worker
  | none => {}
  | some capacity => { cache := some {}, capacity }

/-- The workspace for the next document. -/
def workspace (w : Worker) : Workspace where
  cache := w.cache
  elsewhere := w.held.map Prod.snd
  nextTicket := w.nextTicket

/-- Keep a source under its locator, unless one is kept there. -/
def hold (held : List (String × Nat)) (s : Source) : List (String × Nat) :=
  if held.any (·.1 == s.locator) then held else (s.locator, s.ticket) :: held

/-- Keep sources until there is no room for one. -/
def holdAll (capacity : Nat) : List (String × Nat) → List Source → List (String × Nat)
  | held, [] => held
  | held, s :: rest =>
      if capacity ≤ held.length && !held.any (·.1 == s.locator) then held
      else holdAll capacity (hold held s) rest

/-- Go on after a document, whatever came of it. -/
def resume (w : Worker) (ws : Workspace) : Worker :=
  { w with
    cache := ws.cache, nextTicket := ws.nextTicket, requests := w.requests ++ ws.requests }

/-- Keep the documents that were resolved for a collection.  The schema that was
read directly did not come from the resolver. -/
def keep (w : Worker) (c : Collection) (direct : Option Nat) : Worker :=
  if w.cache.isNone then w
  else
    let sources := (c.registered.filter fun s => some s.number != direct).filterMap Schema.source
    { w with held := holdAll w.capacity w.held sources }

end Worker

end XmlSchema
