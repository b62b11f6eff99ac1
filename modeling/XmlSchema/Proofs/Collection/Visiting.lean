import XmlSchema.Proofs.Collection.Forest
import XmlSchema.Proofs.Document.Visiting

/-!
# How a schema is visited

Writing a schema looks up its components tree by tree: the trees of what its
items refer to, one after the other.  The bound for the nesting of types cuts
nothing off.
-/

namespace XmlSchema.Writer

open Collection

variable {cx : WriterContext} {first m n : Nat}

/-- Writing a part looks up its tree when this is so for the types before a
bound. -/
theorem looksPart_of_before (h : cx.collection.Authored n)
    (hb : cx.collection.Balanced first m []) (hn : first ≤ n) {depth : Nat}
    {inline : Collection → TypeId → Writer Xml.Element}
    (hinline : ∀ (id : TypeId) t, id.schema = n → cx.collection.get? id = some t →
      id.index < depth →
        Looks cx.collection (fun d => inline d id) (cx.collection.tree ⟨.type, id⟩))
    {part : ComponentRef} (hschema : part.id.schema = n) {y : part.kind.Component}
    (hy : cx.collection.get? part.id = some y)
    (hbefore : (cx.collection.components n).Before depth part) :
    LooksPart cx inline cx.collection.tree part := by
  have htree := hb.tree_eq (hschema ▸ hn) hy
  have hy' : (cx.collection.components n).get? part.id = some y := by
    rw [← hy, get?_eq hb.numbered, hschema]
  obtain ⟨kind, id⟩ := part
  -- the type of a declaration that is defined in place comes before the bound
  have htypes : ∀ types : List TypeId, (∀ t ∈ types, t.index < depth) →
      (∀ ref ∈ typeRefs types, ref ∈ kind.parts y) →
      ∀ ref ∈ typeRefs types, LooksPart cx inline cx.collection.tree ref := by
    intro types hlt hparts ref href
    obtain ⟨t, ht, rfl⟩ := List.mem_map.1 href
    obtain ⟨x, hx, -⟩ := h.get?_part hb.numbered hy' (hparts _ href)
    exact hinline t x ((h.carries id y hy').schema_eq _ (hparts _ href)) hx (hlt t ht)
  cases kind with
  | type => exact hinline id y hschema hy hbefore
  | element =>
      show Looks cx.collection (fun d => element (cx.over d) (inline d) false id)
        (cx.collection.tree ⟨.element, id⟩)
      rw [htree]
      exact looks_element hy (htypes _ (hbefore y hy') fun _ href => href)
  | «attribute» =>
      show Looks cx.collection (fun d => attributeDecl (cx.over d) (inline d) false id)
        (cx.collection.tree ⟨.attribute, id⟩)
      rw [htree]
      exact looks_attributeDecl hy (htypes _ (hbefore y hy') fun _ href => href)
  | _ => trivial

/-- Writing a type that is defined in place looks up its tree. -/
theorem looks_inlineTypeDefinition (h : cx.collection.Authored n)
    (hb : cx.collection.Balanced first m []) (hn : first ≤ n) (depth : Nat) :
    ∀ (id : TypeId) t, id.schema = n → cx.collection.get? id = some t → id.index < depth →
      Looks cx.collection (fun d => inlineTypeDefinition (cx.over d) depth id)
        (cx.collection.tree ⟨.type, id⟩) := by
  induction depth with
  | zero => exact fun id t _ _ hlt => absurd hlt (Nat.not_lt_zero _)
  | succ depth ih =>
      intro id t hschema ht hlt
      have ht' : (cx.collection.components n).get? id = some t := by
        rw [← ht, get?_eq hb.numbered, hschema]
      have htree : cx.collection.tree ⟨.type, id⟩ =
          ⟨.type, id⟩ :: t.body.parts.flatMap cx.collection.tree :=
        hb.tree_eq (hschema ▸ hn) ht
      have hparts : ∀ part ∈ t.body.parts, LooksPart cx
          (fun d => inlineTypeDefinition (cx.over d) depth) cx.collection.tree part := by
        intro part hpart
        have hcarries := h.carries id t ht'
        obtain ⟨y, hy, -⟩ := h.get?_part hb.numbered ht' hpart
        exact looksPart_of_before h hb hn ih (hcarries.schema_eq part hpart) hy
          ((hcarries.before rfl part hpart).mono (Nat.le_of_lt_succ hlt))
      rw [htree]
      exact looks_typeDefinition ht hparts

section Document

variable (h : cx.collection.Authored n) (hb : cx.collection.Balanced first m []) (hn : first ≤ n)
include h hb hn

/-- Writing a component of the schema looks up its tree. -/
theorem looks_componentNode {ref : ComponentRef} (hschema : ref.id.schema = n)
    {x : ref.kind.Component} (hx : (cx.collection.components n).get? ref.id = some x) :
    Looks cx.collection (fun d => componentNode (cx.over d)
      (inlineTypeDefinition (cx.over d) (cx.collection.typeCount + 1)) ref)
      (cx.collection.tree ref) := by
  have hx' : cx.collection.get? ref.id = some x := by rw [get?_eq hb.numbered, hschema, hx]
  have hparts : ∀ part ∈ ref.kind.parts x, LooksPart cx
      (fun d => inlineTypeDefinition (cx.over d) (cx.collection.typeCount + 1))
      cx.collection.tree part := by
    intro part hpart
    obtain ⟨y, hy, hy'⟩ := h.get?_part hb.numbered hx hpart
    refine looksPart_of_before h hb hn (looks_inlineTypeDefinition h hb hn _)
      ((h.carries ref.id x hx).schema_eq part hpart) hy ((h.before_count hy').mono ?_)
    exact Nat.le_succ_of_le (cx.collection.types_size_le n)
  rw [hb.tree_eq (hschema ▸ hn) hx']
  exact (looks_component hx' hparts).before fun _ _ => rfl

/-- Writing a schema looks up what it consists of, in the order of the
document. -/
theorem looks_root (hs : cx.collection.schemas[n]? = some cx.schema) :
    Looks cx.collection (fun d => root (cx.over d)) (cx.collection.visited cx.schema) := by
  have hmem : ∀ i, i ∈ writtenItems cx.schema.items → i ∈ cx.schema.items := by
    intro i hi
    unfold writtenItems at hi
    rcases List.mem_append.1 hi with hi | hi <;> exact List.mem_of_mem_filter hi
  have hitems : Looks cx.collection (fun d => each (item (cx.over d)
      (inlineTypeDefinition (cx.over d) (cx.collection.typeCount + 1)))
      (writtenItems cx.schema.items)) (cx.collection.visited cx.schema) := by
    unfold Collection.visited
    rw [List.flatMap_assoc]
    refine looks_each fun i hi => looks_item fun ref href => ?_
    obtain ⟨hschema, x, hx⟩ : ref.id.schema = n ∧
        ∃ x, (cx.collection.components n).get? ref.id = some x := by
      cases i with
      | note a => cases href
      | external e => exact h.redefined _ hs e (hmem _ hi) ref href
      | component other =>
          obtain rfl := List.mem_singleton.1 href
          obtain ⟨hschema, name, x, hx, -⟩ := h.components _ hs ref (hmem _ hi)
          exact ⟨hschema, x, hx⟩
    exact looks_componentNode h hb hn hschema hx
  let write (count : Nat) (d : Collection) : Writer Xml.Element := do
    let t ← tag "schema" (attributesOf (rootAttributes cx.schema))
    let content ← foreign cx cx.schema.foreign
    let items ← each (item (cx.over d) (inlineTypeDefinition (cx.over d) (count + 1)))
      (writtenItems cx.schema.items)
    return ⟨{ t with attributes := t.attributes ++ content.1 }, content.2 ++ items⟩
  have hwrite : Looks cx.collection (write cx.collection.typeCount)
      (cx.collection.visited cx.schema) := by
    refine .after (fun _ => rfl) fun t => .after (fun _ => rfl) fun content => ?_
    exact hitems.before fun _ _ => rfl
  exact .count hwrite

end Document

end XmlSchema.Writer
