import XmlSchema.Proofs.Collection.Views
import XmlSchema.Proofs.Xml.Naming

/-!
# Foreign content is foreign

What a schema keeps as foreign content, its own and that of its references to
other documents, are attributes that have a namespace and elements that are not
of the schema language.  None of it can be taken for anything else.
-/

namespace XmlSchema

/-- An attribute in some namespace, or an element that is not of the schema
language. -/
def ForeignContent.Outside (content : ForeignContent) : Prop :=
  match content.payload with
  | .attribute a => a.name.namespaceName ≠ ""
  | .element e => ChildClass.of e.tag.name = .foreign

/-- The foreign content of a reference to another document is foreign. -/
def ExternalRef.Secluded (e : ExternalRef) : Prop :=
  ∀ content ∈ e.common.foreign, content.Outside

/-- The foreign content of a schema is foreign. -/
structure Schema.Secluded (s : Schema) : Prop where
  own : ∀ content ∈ s.foreign, content.Outside
  references : ∀ e ∈ s.externals, e.Secluded

theorem Schema.secluded_congr {s s' : Schema} (hforeign : s'.foreign = s.foreign)
    (hexternals : s'.externals = s.externals) : s'.Secluded = s.Secluded :=
  propext ⟨fun h => ⟨hforeign ▸ h.own, hexternals ▸ h.references⟩,
    fun h => ⟨hforeign ▸ h.own, hexternals ▸ h.references⟩⟩

namespace Reader

/-- The foreign attributes of a tag are foreign. -/
theorem outside_of_attributes {t : Xml.Tag} (ht : t.Proper) {content : ForeignContent}
    (h : content ∈ foreignAttributes t) : content.Outside := by
  obtain ⟨a, ha, rfl⟩ := List.mem_map.1 h
  obtain ⟨hmem, huri⟩ := List.mem_filter.1 ha
  exact (ht a hmem).namespaceName_ne huri

variable {parsed : Prop}

/-- A draft refers to another document and, if the document has been parsed,
keeps foreign content only. -/
def Keeping (parsed : Prop) (d : Draft) : Prop := ∃ e, d = .external e ∧ (parsed → e.Secluded)

theorem Keeping.addForeign {d : Draft} {content : ForeignContent} (hc : parsed → content.Outside)
    (h : Keeping parsed d) : Keeping parsed (d.addForeign content) := by
  obtain ⟨e, rfl, he⟩ := h
  refine ⟨_, rfl, fun hparsed other hother => ?_⟩
  rcases List.mem_append.1 hother with hother | hother
  · exact he hparsed other hother
  · rw [List.mem_singleton.1 hother]
    exact hc hparsed

theorem Keeping.adopt {d : Draft} (p : Part) (h : Keeping parsed d) :
    Keeping parsed (d.adopt p) := by
  obtain ⟨e, rfl, he⟩ := h
  cases p <;> exact ⟨_, rfl, he⟩

/-- Reading on in a parsed document keeps foreign content only. -/
def secluding (parsed : Prop) (cx : Context) : Discipline cx where
  tag t := parsed → t.Proper
  component _ _ _ := True
  opened role d := role = none → Keeping parsed d
  draft _ role d := role = none → Keeping parsed d
  part _ _ _ := True
  draft_of_opened h := h
  draft_extends _ h := h
  part_extends _ _ := trivial
  opening_draft _ _ := nofun
  opening_part _ _ := trivial
  foreign_attribute ht hc h _ hrole :=
    (h hrole).addForeign fun hparsed => outside_of_attributes (ht hparsed) hc
  foreign_element ht h _ hrole := (h hrole).addForeign fun _ => ht
  adopt h _ _ hrole := (h hrole).adopt _
  close_component _ _ := trivial
  close_part _ := trivial

end Reader

namespace Collection

/-- The foreign content of all schemas is foreign. -/
def Secluded (c : Collection) : Prop :=
  ∀ (n : Nat) (s : Schema), c.schemas[n]? = some s → s.Secluded

variable {c later : Collection}

theorem secluded_empty : Collection.empty.Secluded := by
  intro n s hs
  obtain ⟨-, rfl⟩ := schemas_empty hs
  exact ⟨nofun, nofun⟩

theorem Secluded.push (h : c.Secluded) {s : Schema} (hs : s.Secluded) : (c.push s).Secluded := by
  intro n t ht
  rw [schemas_push] at ht
  split at ht
  · cases ht
    exact hs
  · exact h n t ht

theorem Secluded.addExternal (h : c.Secluded) {e : ExternalRef} (he : e.Secluded) (n : Nat) :
    (c.addItem n (.external e)).Secluded := by
  intro i s' hs'
  obtain ⟨s, hs, rfl⟩ := schemas_modify_some hs'
  split
  · refine ⟨(h i s hs).own, fun e' he' => ?_⟩
    obtain ⟨item, hitem, hexternal⟩ := List.mem_filterMap.1 he'
    rcases List.mem_append.1 hitem with hitem | hitem
    · exact (h i s hs).references e' (List.mem_filterMap.2 ⟨item, hitem, hexternal⟩)
    · rw [List.mem_singleton.1 hitem] at hexternal
      cases hexternal
      exact he
  · exact h i s hs

end Collection

end XmlSchema
