import XmlSchema.Proofs.Collection.Visiting
import XmlSchema.Proofs.Resolution.Expressible
import XmlSchema.Proofs.Resolution.Ownership

/-!
# What documents define in place

Whatever documents are built into a collection, and whether or not this
succeeds, the components that they define in place form a forest.  Writing a
schema follows its trees, which comes to an end, meets no component twice and
finds every one of them.
-/

namespace XmlSchema

open Attempt

namespace Collection

variable {c : Collection}

/-- The built-in types are made of nothing. -/
theorem parts_of_catalogue {t : TypeDefinition} (ht : t ∈ Catalogue.types) : t.body.parts = [] := by
  rcases List.mem_cons.1 ht with rfl | ht
  · rfl
  · obtain ⟨entry, -, rfl⟩ := List.mem_map.1 ht
    rfl

theorem balanced_catalogue : Catalogue.schema.Balanced [] := by
  let log : List AnyComponent := Catalogue.types.map fun t => ⟨.type, t⟩
  have hlog : ({} : Components).pushAll log = Catalogue.schema.components := rfl
  have hparts : ∀ x ∈ log, x.parts = [] := by
    intro x hx
    obtain ⟨t, ht, rfl⟩ := List.mem_map.1 hx
    exact parts_of_catalogue ht
  refine ⟨log, hlog ▸ .refl _, Components.founded_of_parts hparts, ?_⟩
  have htaken : Components.taken log = [] := List.flatMap_eq_nil_iff.2 hparts
  rw [htaken]
  exact List.nil_subperm

/-- Documents lead to balanced schemas. -/
theorem Reachable.balanced (h : c.Reachable fun _ op => op.Documentary) : c.Balanced 0 0 [] := by
  refine h.documentary_induction (P := fun c => c.Balanced 0 0 []) ?_ ?_ ?_ ?_
  · refine ⟨tallied_empty.numbered, Nat.zero_le _, fun m s _ hs => ?_⟩
    obtain ⟨rfl, rfl⟩ := schemas_empty hs
    rw [ite_self]
    exact balanced_catalogue
  · exact fun c key target ih => (ih.push rfl rfl rfl).balanced
  · exact fun c uri number ih => ⟨ih.numbered, ih.first_le, ih.schema⟩
  · exact fun c op hop ih => (ih.tends hop).balanced

/-- What documents define in place is owned like a forest: it is a component of
its own schema, was there before the component that it is defined in, is no
item, and stands nowhere else.  To follow the parts of components comes to an
end.  So does writing, which looks up the trees of a schema in the order of its
document, finds every component of them, meets none twice, and fails for the
shape of a type at most, never for a component that is missing or for types
that are nested without end. -/
theorem Reachable.ownedForest (h : c.Reachable fun _ op => op.Documentary) :
    c.Forest ∧ (WellFounded fun part ref => c.IsPart ref part) ∧
      (∀ (ref : ComponentRef) (x : ref.kind.Component), c.get? ref.id = some x →
        c.tree ref = ref :: (ref.kind.parts x).flatMap c.tree) ∧
      (∀ (n : Nat) (s : Schema), c.schemas[n]? = some s → s.builtin = false →
        (c.visited s).Nodup ∧
          (∀ ref ∈ c.visited s, ref.id.schema = n ∧ ∃ x, c.get? ref.id = some x) ∧
          ∀ policy, Writer.Looks c (fun d => Writer.root ⟨d, s, policy⟩) (c.visited s)) ∧
      ∀ (policy : ForeignPolicy) (n : Nat) (recursive : Bool) (place : Place)
        (cause : Inconsistency),
        (c.write policy n recursive).1 = .error (.inconsistent place cause) → cause.OfShape := by
  have hbalanced := h.balanced
  refine ⟨hbalanced.forest, hbalanced.wellFounded, fun ref x hx => ?_, fun n s hs hauthored => ?_,
    fun policy n recursive place cause herror => ?_⟩
  · exact hbalanced.tree_eq (Nat.zero_le _) hx
  · obtain ⟨hnodup, hfound⟩ := hbalanced.visited_once (Nat.zero_le n) hs
    refine ⟨hnodup, hfound, fun policy => ?_⟩
    let cx : WriterContext := ⟨c, s, policy⟩
    have hlooks : Writer.Looks cx.collection (fun d => Writer.root (cx.over d))
        (cx.collection.visited cx.schema) :=
      Writer.looks_root (h.documentary.authored n s hs hauthored) hbalanced (Nat.zero_le n) hs
    exact hlooks
  · obtain ⟨m, s, -, hs, hauthored, hdocument⟩ := exists_of_write_error herror
    have hrefusal := ((h.documentary.document_ends policy hs hauthored).2 _ hdocument).2
    cases hrefusal with
    | shape name key cause hshape => exact hshape

/-- The collection of a document with elements and an attribute defined in
place, one of which replaces the type that it has been given, and of a document
that fails after a type has been read. -/
def nestedElements : Collection :=
  (Collection.empty.perform (.buildText ⟨.nothing, .keep⟩ {} "a.xsd"
    ("<schema xmlns=\"http://www.w3.org/2001/XMLSchema\"><element name=\"a\"><complexType>" ++
      "<sequence><element name=\"b\"><simpleType/><complexType/></element></sequence>" ++
      "<attribute name=\"c\"><simpleType/></attribute></complexType></element></schema>"))).perform
    (.buildText ⟨.nothing, .keep⟩ {} "b.xsd"
      ("<schema xmlns=\"http://www.w3.org/2001/XMLSchema\"><attribute name=\"a\"><simpleType/>" ++
        "<simpleType><list itemType=\"p:b\"/></simpleType></attribute></schema>"))

/-- The type that has been replaced is not met, nor is what was read before the
failure. -/
theorem ownedForest_nestedElements :
    nestedElements.Reachable (fun _ op => op.Documentary) ∧ nestedElements.Forest ∧
      (nestedElements.schemas.toList.map fun s => (nestedElements.visited s, s.components.total)) =
        [([], 46),
         ([⟨.element, ⟨1, 1⟩⟩, ⟨.type, ⟨1, 3⟩⟩, ⟨.element, ⟨1, 0⟩⟩, ⟨.type, ⟨1, 1⟩⟩,
           ⟨.attribute, ⟨1, 0⟩⟩, ⟨.type, ⟨1, 2⟩⟩], 7),
         ([], 1)] := by
  have hreach : nestedElements.Reachable fun _ op => op.Documentary :=
    .perform (.perform .empty _ trivial) _ trivial
  exact ⟨hreach, hreach.ownedForest.1, by decide +kernel⟩

end Collection

end XmlSchema
