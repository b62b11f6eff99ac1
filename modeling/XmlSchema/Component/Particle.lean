import XmlSchema.Component.Annotation
import XmlSchema.Component.Identity
import XmlSchema.Component.Values

/-!
# Particles

The content of an element is described by a tree of particles: compositors
with particles inside them, elements, wildcards and references to named
groups, each with its occurrence bounds.
-/

namespace XmlSchema

/-- How the particles of a group combine. -/
inductive Compositor where
  | sequence
  | choice
  | all
  deriving DecidableEq, Repr, Inhabited

/-- The name of the construct of a compositor. -/
def Compositor.localName : Compositor → String
  | sequence => "sequence"
  | choice => "choice"
  | all => "all"

/-- A wildcard for elements or attributes; its namespace constraint is kept as
written. -/
structure Wildcard where
  namespaces : Option String := none
  process : Option ProcessContents := none
  common : Common := {}
  deriving Repr, Inhabited

/-- A reference to a named model group. -/
structure GroupRef where
  target : QName
  common : Common := {}
  deriving Repr, Inhabited

/-- A tree of particles. -/
inductive Particle where
  | model (occurs : Occurs) (compositor : Compositor) (common : Common)
      (particles : List Particle)
  | element (occurs : Occurs) (id : ElementId)
  | any (occurs : Occurs) (wildcard : Wildcard)
  | group (occurs : Occurs) (ref : GroupRef)
  deriving Repr, Inhabited

namespace Particle

/-- The bounds of a particle. -/
def occurs : Particle → Occurs
  | model o _ _ _ => o
  | element o _ => o
  | any o _ => o
  | group o _ => o

mutual

/-- The elements below a particle, in document order; references to groups
are not followed. -/
def elements : Particle → List ElementId
  | model _ _ _ particles => elementsList particles
  | element _ id => [id]
  | any _ _ => []
  | group _ _ => []

/-- The elements below a list of particles. -/
def elementsList : List Particle → List ElementId
  | [] => []
  | p :: rest => elements p ++ elementsList rest

end

mutual

/-- The references to groups below a particle, in document order. -/
def groupRefs : Particle → List GroupRef
  | model _ _ _ particles => groupRefsList particles
  | element _ _ => []
  | any _ _ => []
  | group _ ref => [ref]

/-- The references to groups below a list of particles. -/
def groupRefsList : List Particle → List GroupRef
  | [] => []
  | p :: rest => groupRefs p ++ groupRefsList rest

end

end Particle

end XmlSchema
