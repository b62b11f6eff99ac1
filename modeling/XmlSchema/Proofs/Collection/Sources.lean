import XmlSchema.Proofs.Resolution.Change

/-!
# Collections with other documents

A schema keeps the document that it has been read from.  Nothing that is looked
up in a collection or done to it depends on these documents: it is the same
when they are exchanged, and so it is when only the tickets are taken away that
tell one reading of a document from another.
-/

namespace XmlSchema

/-- A schema with another document. -/
def Schema.mapSource (g : Source → Source) (s : Schema) : Schema :=
  { s with source := s.source.map g }

theorem Schema.mapSource_of_sourceless (g : Source → Source) {s : Schema} (h : s.source = none) :
    s.mapSource g = s := by
  unfold mapSource
  rw [h, Option.map_none, ← h]

namespace Collection

/-- A collection with other documents. -/
def mapSources (g : Source → Source) (c : Collection) : Collection :=
  { c with schemas := c.schemas.map (Schema.mapSource g) }

variable (g : Source → Source) (c : Collection)

theorem schemas_mapSources (i : Nat) :
    (c.mapSources g).schemas[i]? = (c.schemas[i]?).map (Schema.mapSource g) := Array.getElem?_map

theorem size_mapSources : (c.mapSources g).schemas.size = c.schemas.size := Array.size_map

theorem toList_mapSources :
    (c.mapSources g).schemas.toList = c.schemas.toList.map (Schema.mapSource g) := Array.toList_map

section Lookup

theorem schema?_mapSources (key : SchemaKey) :
    (c.mapSources g).schema? key = (c.schema? key).map (Schema.mapSource g) := by
  unfold schema?
  rw [toList_mapSources, List.find?_map]
  rfl

theorem number?_mapSources (key : SchemaKey) : (c.mapSources g).number? key = c.number? key := by
  have hnumber : Schema.number ∘ Schema.mapSource g = Schema.number := rfl
  have h := congrArg (Option.map Schema.number) (c.schema?_mapSources g key)
  rw [Option.map_map, hnumber] at h
  exact h

theorem components_mapSources (n : Nat) : (c.mapSources g).components n = c.components n := by
  have hcomponents : Schema.components ∘ Schema.mapSource g = Schema.components := rfl
  unfold components
  rw [schemas_mapSources, Option.map_map, hcomponents]

theorem find?_mapSources (kind : ComponentKind) (name : QName) :
    (c.mapSources g).find? kind name = c.find? kind name := by
  have hgraph : c.SameGraph (c.mapSources g) := by
    intro i
    rw [schemas_mapSources, Option.map_map]
    rfl
  exact hgraph.find?_eq kind name

end Lookup

section Change

theorem mapSources_modify (n : Nat) {f : Schema → Schema}
    (hf : ∀ s, (f s).mapSource g = f (s.mapSource g)) :
    (c.modify n f).mapSources g = (c.mapSources g).modify n f := by
  have hschemas : (c.schemas.modify n f).map (Schema.mapSource g) =
      (c.schemas.map (Schema.mapSource g)).modify n f := by
    apply Array.ext_getElem?
    intro i
    rw [Array.getElem?_map, Array.getElem?_modify, Array.getElem?_modify, Array.getElem?_map]
    split
    · rw [Option.map_map, Option.map_map]
      congr 1
      exact funext hf
    · rfl
  unfold mapSources modify
  rw [hschemas]

theorem mapSources_addItem (n : Nat) (item : SchemaItem) :
    (c.addItem n item).mapSources g = (c.mapSources g).addItem n item :=
  c.mapSources_modify g n fun _ => rfl

theorem mapSources_fill (type : TypeId) (r : Receiver) :
    (c.fill type r).mapSources g = (c.mapSources g).fill type r := by
  rw [fill_eq, fill_eq]
  exact c.mapSources_modify g _ fun _ => rfl

theorem mapSources_fillAll (type : TypeId) (receivers : List Receiver) :
    (receivers.foldl (fun c r => c.fill type r) c).mapSources g =
      receivers.foldl (fun c r => c.fill type r) (c.mapSources g) := by
  induction receivers generalizing c with
  | nil => rfl
  | cons r rest ih =>
      rw [List.foldl_cons, List.foldl_cons, ih, mapSources_fill]

theorem mapSources_attach (name : QName) (r : Receiver) :
    (c.attach name r).mapSources g = (c.mapSources g).attach name r := by
  unfold attach
  rw [find?_mapSources]
  split
  · exact c.mapSources_fill g _ r
  · rfl

theorem mapSources_attachAll (entries : List (QName × Receiver)) :
    (entries.foldl (fun c p => c.attach p.1 p.2) c).mapSources g =
      entries.foldl (fun c p => c.attach p.1 p.2) (c.mapSources g) := by
  induction entries generalizing c with
  | nil => rfl
  | cons entry rest ih =>
      rw [List.foldl_cons, List.foldl_cons, ih, mapSources_attach]

theorem mapSources_absorb (n : Nat) (bench : Workbench) :
    (c.absorb n bench).mapSources g = (c.mapSources g).absorb n bench := by
  have hfurnish : (c.furnish n bench.components).mapSources g =
      (c.mapSources g).furnish n bench.components := c.mapSources_modify g n fun _ => rfl
  unfold absorb
  rw [mapSources_attachAll, hfurnish]

theorem mapSources_settle (name : QName) {kind : ComponentKind} (id : ComponentId kind) :
    (c.settle name id).mapSources g = (c.mapSources g).settle name id := by
  cases kind with
  | type => exact mapSources_fillAll g _ id _
  | _ => rfl

theorem mapSources_register {kind : ComponentKind} (id : ComponentId kind) :
    (c.mapSources g).register id = (c.register id).map (mapSources g) := by
  unfold register
  rw [schemas_mapSources]
  cases c.schemas[id.schema]? with
  | none => rfl
  | some s =>
      have hget : (s.mapSource g).get? id = s.get? id := rfl
      rw [Option.map_some]
      dsimp only
      rw [hget]
      cases (s.get? id).bind kind.nameOf with
      | none => rfl
      | some name =>
          have hlookup : (s.mapSource g).lookup? kind name = s.lookup? kind name := rfl
          dsimp only
          rw [hlookup]
          split
          · rfl
          · refine congrArg Except.ok ?_
            rw [mapSources_settle, mapSources_modify]
            exact fun _ => rfl

theorem mapSources_enlist {kind : ComponentKind} (id : ComponentId kind) :
    (c.mapSources g).enlist id = (c.enlist id).map (mapSources g) := by
  unfold enlist
  rw [mapSources_register]
  cases c.register id with
  | error e => rfl
  | ok c' => exact congrArg Except.ok (c'.mapSources_addItem g _ _).symm

theorem mapSources_push (s : Schema) :
    (c.push s).mapSources g = (c.mapSources g).push (s.mapSource g) := by
  unfold push mapSources
  rw [Array.map_push]

end Change

end Collection

end XmlSchema

namespace XmlSchema

/-- A document without its ticket. -/
def Source.unticketed (s : Source) : Source := { s with ticket := 0 }

/-- A schema without the ticket of its document. -/
def Schema.unticketed (s : Schema) : Schema := { s with source := s.source.map Source.unticketed }

theorem Source.eq_of_unticketed_eq {s s' : Source} (h : s.unticketed = s'.unticketed) :
    s.locator = s'.locator ∧ s.document = s'.document := by
  obtain ⟨locator, document, ticket⟩ := s
  cases h
  exact ⟨rfl, rfl⟩

namespace Collection

/-- A collection without the tickets of its documents. -/
def unticketed (c : Collection) : Collection :=
  { c with schemas := c.schemas.map Schema.unticketed }

variable (c : Collection)

theorem schemas_unticketed (i : Nat) :
    c.unticketed.schemas[i]? = (c.schemas[i]?).map Schema.unticketed :=
  c.schemas_mapSources Source.unticketed i

theorem toList_unticketed :
    c.unticketed.schemas.toList = c.schemas.toList.map Schema.unticketed :=
  c.toList_mapSources Source.unticketed

theorem size_unticketed : c.unticketed.schemas.size = c.schemas.size :=
  c.size_mapSources Source.unticketed

section Lookup

theorem schema?_unticketed (key : SchemaKey) :
    c.unticketed.schema? key = (c.schema? key).map Schema.unticketed :=
  c.schema?_mapSources Source.unticketed key

theorem number?_unticketed (key : SchemaKey) : c.unticketed.number? key = c.number? key :=
  c.number?_mapSources Source.unticketed key

theorem components_unticketed (n : Nat) : c.unticketed.components n = c.components n :=
  c.components_mapSources Source.unticketed n

end Lookup

section Change

theorem unticketed_modify (n : Nat) {f : Schema → Schema}
    (hf : ∀ s, (f s).unticketed = f s.unticketed) :
    (c.modify n f).unticketed = c.unticketed.modify n f :=
  c.mapSources_modify Source.unticketed n hf

theorem unticketed_addItem (n : Nat) (item : SchemaItem) :
    (c.addItem n item).unticketed = c.unticketed.addItem n item :=
  c.mapSources_addItem Source.unticketed n item

theorem unticketed_absorb (n : Nat) (bench : Workbench) :
    (c.absorb n bench).unticketed = c.unticketed.absorb n bench :=
  c.mapSources_absorb Source.unticketed n bench

theorem unticketed_enlist {kind : ComponentKind} (id : ComponentId kind) :
    c.unticketed.enlist id = (c.enlist id).map unticketed :=
  c.mapSources_enlist Source.unticketed id

theorem unticketed_push (s : Schema) : (c.push s).unticketed = c.unticketed.push s.unticketed :=
  c.mapSources_push Source.unticketed s

end Change

end Collection

end XmlSchema
