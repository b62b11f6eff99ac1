import XmlSchema.Resolution.Composition

/-!
# Collections that share a cache

Several collections can read with one resolver and one cache.  A document that
one of them has asked for answers the others for as long as it lives: while a
collection that is still there uses it, or somebody else holds it.  Entries can
also be removed, or give way to the bound of the cache while a call goes on.
-/

namespace XmlSchema

/-- What a call reads. -/
inductive Reading where
  | document (d : Located)
  | text (locator content : String)
  | location (place : String) (base : Option String)

/-- Build what is to be read, and answer with the number of its schema. -/
def Reading.run (env : Environment) : Reading → Compose (Option Nat)
  | .document d => some <$> Compose.build env d
  | .text locator content => some <$> Compose.buildText env locator content
  | .location place base => Compose.readLocation env place base

/-- A collection with what it does with foreign content. -/
structure Member where
  policy : ForeignPolicy := .keep
  collection : Collection := .empty

/-- Collections with the cache that they share; one that has been dropped
leaves its place empty. -/
structure Cohort where
  members : List (Option Member) := []
  cache : Option ResolutionCache := none
  nextTicket : Nat := 1
  requests : List Request := []
  met : List ForeignContent := []

/-- What happens to collections that share a cache.  A call is made while some
documents are held besides, and the cache evicts what it evicts. -/
inductive Happening where
  | enter (policy : ForeignPolicy)
  | call (n : Nat) (reading : Reading) (held : List Nat) (evictions : List (List Request))
  | drop (n : Nat)
  | remove (gone : List Request)
  | clear

/-- What a call answers. -/
abbrev Answer := Except SchemaError (Option Nat)

namespace Cohort

/-- The tickets of the documents in use by the collections other than one. -/
def ticketsBeside (s : Cohort) (n : Nat) : List Nat :=
  (s.members.set n none).flatMap fun m =>
    (m.map fun m => Workspace.ticketsOf m.collection).getD []

/-- The workspace in which a call begins. -/
def workspace (s : Cohort) (n : Nat) (m : Member) (held : List Nat)
    (evictions : List (List Request)) : Workspace where
  collection := m.collection
  cache := s.cache.map fun cache => { cache with evictions }
  elsewhere := held ++ s.ticketsBeside n
  nextTicket := s.nextTicket
  requests := s.requests
  met := s.met

/-- Go on after a call. -/
def resume (s : Cohort) (n : Nat) (m : Member) (w : Workspace) : Cohort where
  members := s.members.set n (some { m with collection := w.collection })
  cache := w.cache
  nextTicket := w.nextTicket
  requests := w.requests
  met := w.met

/-- Let one thing happen; a call on a collection that is there has an answer. -/
def step (resolver : Resolver) (s : Cohort) : Happening → Option Answer × Cohort
  | .enter policy => (none, { s with members := s.members ++ [some { policy }] })
  | .call n reading held evictions =>
      match s.members[n]?.join with
      | none => (none, s)
      | some m =>
          let (answer, w) :=
            (reading.run ⟨resolver, m.policy⟩).run.run (s.workspace n m held evictions)
          (some answer, s.resume n m w)
  | .drop n => (none, { s with members := s.members.set n none })
  | .remove gone => (none, { s with cache := s.cache.map fun cache => cache.removeAll gone })
  | .clear => (none, { s with cache := s.cache.map fun _ => {} })

/-- Let some things happen, one after the other. -/
def run (resolver : Resolver) : List Happening → Cohort → List (Option Answer) × Cohort
  | [], s => ([], s)
  | h :: rest, s =>
      let (answer, s) := s.step resolver h
      let (answers, s) := run resolver rest s
      (answer :: answers, s)

end Cohort

end XmlSchema
