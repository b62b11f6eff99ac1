import XmlSchema.Proofs.Resolution.Change

/-!
# Views of schemas

Many changes of a collection show only in the components of its schemas, in the
names registered for them and in the items that list them.  Whatever is seen of
schemas apart from these stays the same.
-/

namespace XmlSchema

theorem Schema.externals_addItem (s : Schema) {item : SchemaItem} (h : item.external? = none) :
    (s.addItem item).externals = s.externals := by
  unfold externals addItem
  rw [List.filterMap_append, List.filterMap_cons, h]
  exact List.append_nil _

/-- A view of schemas that shows neither components nor what lists them. -/
structure Schema.Blind {β : Type} (view : Schema → β) : Prop where
  frame : ∀ s : Schema, view s.frame = view s
  names : ∀ (s : Schema) (names : List Registration), view { s with names } = view s
  item : ∀ (s : Schema) (item : SchemaItem), item.external? = none →
    view (s.addItem item) = view s

namespace Collection

variable {β : Type} {view : Schema → β} {c c' later : Collection} {n : Nat}

/-- Nothing that is seen of schemas changes, nor do the schemas that stand in
for namespaces. -/
structure SameView (view : Schema → β) (c later : Collection) : Prop where
  known_eq : later.known = c.known
  view_eq : ∀ i : Nat, (later.schemas[i]?).map view = (c.schemas[i]?).map view

theorem known_fill (type : TypeId) (r : Receiver) : (c.fill type r).known = c.known := by
  cases r <;> rfl

theorem known_fillAll (type : TypeId) (receivers : List Receiver) :
    (receivers.foldl (fun c r => c.fill type r) c).known = c.known := by
  induction receivers generalizing c with
  | nil => rfl
  | cons r rest ih => exact ih.trans (known_fill type r)

theorem known_attach (name : QName) (r : Receiver) : (c.attach name r).known = c.known := by
  unfold attach
  split
  · exact known_fill _ r
  · rfl

theorem known_attachAll (entries : List (QName × Receiver)) :
    (entries.foldl (fun c p => c.attach p.1 p.2) c).known = c.known := by
  induction entries generalizing c with
  | nil => rfl
  | cons entry rest ih => exact ih.trans (known_attach entry.1 entry.2)

theorem known_settle (name : QName) {kind : ComponentKind} (id : ComponentId kind) :
    (c.settle name id).known = c.known := by
  cases kind with
  | type => exact known_fillAll id _
  | _ => rfl

namespace SameView

theorem refl (view : Schema → β) (c : Collection) : c.SameView view c := ⟨rfl, fun _ => rfl⟩

theorem trans (h : c.SameView view c') (h' : c'.SameView view later) : c.SameView view later :=
  ⟨h'.known_eq.trans h.known_eq, fun i => (h'.view_eq i).trans (h.view_eq i)⟩

theorem of_frame (hview : Schema.Blind view) (hknown : later.known = c.known)
    (h : c.SameFrame later) : c.SameView view later where
  known_eq := hknown
  view_eq i := by
    have hframe : view ∘ Schema.frame = view := funext hview.frame
    rw [← hframe, ← Option.map_map, ← Option.map_map, h i]

theorem modify {f : Schema → Schema} (hf : ∀ s, view (f s) = view s) :
    c.SameView view (c.modify n f) where
  known_eq := rfl
  view_eq i := by
    rw [schemas_modify]
    split
    · rw [Option.map_map]
      congr 1
      exact funext hf
    · rfl

theorem absorb (hview : Schema.Blind view) (n : Nat) (bench : Workbench) :
    c.SameView view (c.absorb n bench) :=
  .of_frame hview (known_attachAll bench.pending) (.absorb n bench)

/-- Nothing but a reference to a document is seen among the items. -/
theorem addItem (hview : Schema.Blind view) {item : SchemaItem} (hitem : item.external? = none)
    (n : Nat) : c.SameView view (c.addItem n item) :=
  .modify fun s => hview.item s item hitem

theorem enlist (hview : Schema.Blind view) {kind : ComponentKind} {id : ComponentId kind}
    (h : c.enlist id = .ok later) : c.SameView view later := by
  obtain ⟨c', hc', rfl⟩ := enlist_cases h
  refine trans ?_ (.addItem hview rfl _)
  rcases register_cases hc' with ⟨-, rfl⟩ | ⟨s, x, name, -, -, -, -, rfl⟩
  · exact .refl view _
  · have henroll : c.SameView view (c.enroll id name) := .modify fun s => hview.names s _
    exact henroll.trans (.of_frame hview (known_settle name id) (.settle name id))

end SameView

end Collection

end XmlSchema
