import XmlSchema.Component.Schema
import XmlSchema.Resolution.Resolver

/-!
# The cache of resolved documents

The cache remembers what a request was answered with, for as long as the
document is alive, that is, in use by some schema.  Entries of documents that
are no longer alive answer nothing; they are dropped when they are asked for.
The number of entries is bounded, and what gives way to the bound is up to the
container that holds them.
-/

namespace XmlSchema

/-- Answers by request, at most one for each.  What the bound will take is
foretold: the requests that have lost their entries each time that the cache
is asked, and nothing once the list has come to its end. -/
structure ResolutionCache where
  entries : List (Request × Source) := []
  evictions : List (List Request) := []
  deriving Repr, Inhabited

namespace ResolutionCache

/-- The entry of a request. -/
def lookup? (c : ResolutionCache) (r : Request) : Option Source := c.entries.lookup r

/-- Drop the entries of some requests. -/
def removeAll (c : ResolutionCache) (gone : List Request) : ResolutionCache :=
  { c with entries := c.entries.filter fun e => !gone.contains e.1 }

/-- Drop the entry of a request. -/
def remove (c : ResolutionCache) (r : Request) : ResolutionCache := c.removeAll [r]

/-- Set the entry of a request. -/
def insert (c : ResolutionCache) (r : Request) (s : Source) : ResolutionCache :=
  { c with entries := (r, s) :: (c.remove r).entries }

/-- Let the bound take the entries that are next to go. -/
def evict (c : ResolutionCache) : ResolutionCache :=
  match c.evictions with
  | [] => c
  | gone :: later => { c.removeAll gone with evictions := later }

/-- The live document of a request; a dead entry is dropped. -/
def get (c : ResolutionCache) (alive : Nat → Bool) (r : Request) :
    Option Source × ResolutionCache :=
  let c := c.evict
  match c.lookup? r with
  | none => (none, c)
  | some s => if alive s.ticket then (some s, c) else (none, c.remove r)

/-- Whether a request has a live document. -/
def contains (c : ResolutionCache) (alive : Nat → Bool) (r : Request) : Bool :=
  (c.lookup? r).any fun s => alive s.ticket

/-- The number of entries. -/
def size (c : ResolutionCache) : Nat := c.entries.length

/-- The number of entries whose documents are alive. -/
def liveCount (c : ResolutionCache) (alive : Nat → Bool) : Nat :=
  (c.entries.filter fun e => alive e.2.ticket).length

/-- While nothing is evicted, what is set is found for as long as it lives. -/
theorem get_fst_insert (c : ResolutionCache) (hc : c.evictions = []) (alive : Nat → Bool)
    (r : Request) (s : Source) :
    ((c.insert r s).get alive r).1 = if alive s.ticket then some s else none := by
  have hevict : (c.insert r s).evict = c.insert r s := by
    simp [evict, insert, hc]
  have h : (c.insert r s).lookup? r = some s := by simp [lookup?, insert]
  simp only [get, hevict, h]
  split <;> rfl

end ResolutionCache

end XmlSchema
