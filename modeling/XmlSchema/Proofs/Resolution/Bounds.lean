import XmlSchema.Proofs.Component.Bounds
import XmlSchema.Proofs.Document.Particles
import XmlSchema.Proofs.Resolution.Expressible
import XmlSchema.Proofs.Resolution.Provenance

/-!
# The occurrence bounds of documents

Every particle of a schema, at any depth, is read from an element of the
document of that schema, and has the bounds that are written there.  Bounds
that are written the wrong way round are kept as they are.
-/

namespace XmlSchema

open Attempt

/-- Particles are read from elements of the document. -/
def Provenance.particles : Provenance where
  stems document := (Site.root document).HasParticles
  stems_congr h hx := by
    unfold Site.HasParticles
    rw [ComponentKind.particles_congr h]
    exact hx
  construct_reads he hc hrole w :=
    (Tracing.particles _).construct_supplies (Compose.mem_kids he) hc hrole w
  reference_reads he hc r w :=
    (Tracing.particles _).reference_supplies (Compose.mem_kids he) hc r w

namespace Collection

variable {V : Provenance} {c : Collection}

/-- What a schema holds that has been begun from a document stems from that
document, as long as nothing but documents supplies components. -/
theorem Reachable.stems (h : c.Reachable fun _ op => op.Documentary) : c.Stems V := by
  -- a schema that is made by hand has no document, and one that is built is read from its own
  refine h.documentary_induction ?_ ?_ ?_ ?_
  · intro n s source hs hsource
    obtain ⟨rfl, rfl⟩ := schemas_empty hs
    cases hsource
  · intro c key target ih n s source hs hsource
    rw [schemas_push] at hs
    split at hs
    · cases hs
      cases hsource
    · exact ih n s source hs hsource
  · exact fun c uri number ih => ih
  · exact fun c op hop ih => (inherits_perform hop c).stems ih

/-- Every particle of a schema, however deep inside a type or a named group,
has been read from an element of its document.  Each of its two bounds is what
the attribute of that element reads as; therefore the lower bound is not above
the upper one exactly when what the two attributes read as is not. -/
theorem Reachable.bounds_follow (h : c.Reachable fun _ op => op.Documentary) {n : Nat}
    {s : Schema} {source : Source} (hs : c.schemas[n]? = some s) (hsource : s.source = some source)
    {kind : ComponentKind} {i : Nat} {x : kind.Component}
    (hx : (s.components.ofKind kind)[i]? = some x) :
    ∀ p ∈ Particle.families (kind.particles x), ∃ π : Site,
      (Site.root source.document).Within π ∧ p.ReadFrom π.tag π.kids ∧
        p.occurs.Follows (π.tag.attribute? "minOccurs") (π.tag.attribute? "maxOccurs") := by
  intro p hp
  have hall : ∀ p ∈ kind.particles x, (Site.root source.document).HasParticle p :=
    h.stems (V := .particles) n s source hs hsource kind i x hx
  obtain ⟨π, hπ, hread⟩ := Site.HasParticle.of_mem_families hall p hp
  refine ⟨π, hπ, hread, ?_⟩
  rw [hread.occurs_eq]
  exact Occurs.parse_follows _ _

/-- A document that asks for at least two occurrences of a sequence, and leaves
the upper bound at one. -/
def invertedText : String :=
  "<xs:schema xmlns:xs=\"http://www.w3.org/2001/XMLSchema\">" ++
    "<xs:complexType name=\"t\"><xs:sequence minOccurs=\"2\"><xs:element name=\"e\"/>" ++
    "</xs:sequence></xs:complexType></xs:schema>"

/-- The collection once that document has been built. -/
def invertedBounds : Collection :=
  Collection.empty.perform (.buildText ⟨.nothing, .keep⟩ {} "a.xsd" invertedText)

/-- The bounds of the particles of the types of a schema, outermost first. -/
def boundsOfTypes (c : Collection) (n : Nat) : List Occurs :=
  (c.components n).types.toList.flatMap fun t =>
    (Particle.families (ComponentKind.particles .type t)).map Particle.occurs

theorem exists_of_mem_boundsOfTypes {n : Nat} {o : Occurs} (h : o ∈ c.boundsOfTypes n) :
    ∃ (s : Schema) (i : Nat) (t : TypeDefinition), c.schemas[n]? = some s ∧
      s.components.types[i]? = some t ∧
        ∃ p ∈ Particle.families (ComponentKind.particles .type t), p.occurs = o := by
  obtain ⟨t, ht, hp⟩ := List.mem_flatMap.1 h
  obtain ⟨i, hi⟩ := Array.getElem?_of_mem (Array.mem_toList_iff.1 ht)
  unfold Collection.components at hi
  cases hs : c.schemas[n]? with
  | none =>
      rw [hs] at hi
      simp at hi
  | some s =>
      rw [hs] at hi
      exact ⟨s, i, t, rfl, hi, List.mem_map.1 hp⟩

/-- What has come of the document: it is built, the bounds of its particles are
those of its tags, and the schema keeps it. -/
theorem invertedBounds_built :
    ((exec (Compose.buildText ⟨.nothing, .keep⟩ "a.xsd" invertedText)
        { collection := .empty }).1.toOption, invertedBounds.boundsOfTypes 1,
      (invertedBounds.schemas[1]?.bind Schema.source).isSome) =
      (some 1, [⟨2, 1⟩, ⟨1, 1⟩], true) := by
  decide +kernel

theorem mem_boundsOfTypes_invertedBounds : ⟨2, 1⟩ ∈ invertedBounds.boundsOfTypes 1 := by
  rw [(Prod.mk.inj (Prod.mk.inj invertedBounds_built).2).1]
  exact List.mem_cons_self

/-- The sequence of the document has been read from an element that stands
there. -/
theorem bounds_follow_inverted :
    ∃ (s : Schema) (source : Source) (i : Nat) (t : TypeDefinition),
      invertedBounds.schemas[1]? = some s ∧ s.source = some source ∧
        s.components.types[i]? = some t ∧
        ∃ p ∈ Particle.families (ComponentKind.particles .type t), p.occurs = ⟨2, 1⟩ ∧
          ∃ π : Site, (Site.root source.document).Within π ∧ p.ReadFrom π.tag π.kids ∧
            p.occurs.Follows (π.tag.attribute? "minOccurs") (π.tag.attribute? "maxOccurs") := by
  have hreach : invertedBounds.Reachable fun _ op => op.Documentary :=
    .perform .empty _ trivial
  obtain ⟨s, i, t, hs, ht, p, hp, ho⟩ :=
    exists_of_mem_boundsOfTypes mem_boundsOfTypes_invertedBounds
  have hsources : (invertedBounds.schemas[1]?.bind Schema.source).isSome :=
    (Prod.mk.inj (Prod.mk.inj invertedBounds_built).2).2
  obtain ⟨source, hsource⟩ := Option.isSome_iff_exists.1 hsources
  rw [hs, Option.bind_some] at hsource
  have htype : (s.components.ofKind .type)[i]? = some t := ht
  exact ⟨s, source, i, t, hs, hsource, ht, p, hp, ho, hreach.bounds_follow hs hsource htype p hp⟩

/-- The document builds, and the lower bound of its sequence is above the upper
one. -/
theorem inverted_not_consistent :
    (exec (Compose.buildText ⟨.nothing, .keep⟩ "a.xsd" invertedText)
        { collection := .empty }).1.toOption = some 1 ∧
      ¬ ∀ (n : Nat) (s : Schema) (kind : ComponentKind) (i : Nat) (x : kind.Component),
        invertedBounds.schemas[n]? = some s → (s.components.ofKind kind)[i]? = some x →
          ∀ p ∈ Particle.families (kind.particles x), p.occurs.min ≤ p.occurs.max := by
  refine ⟨(Prod.mk.inj invertedBounds_built).1, fun hall => ?_⟩
  obtain ⟨s, i, t, hs, ht, p, hp, ho⟩ :=
    exists_of_mem_boundsOfTypes mem_boundsOfTypes_invertedBounds
  have hle := hall 1 s .type i t hs ht p hp
  rw [ho] at hle
  exact absurd hle (by decide)

end Collection

end XmlSchema
