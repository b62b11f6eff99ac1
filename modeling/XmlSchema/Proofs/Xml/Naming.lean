import XmlSchema.Proofs.Document.Discipline
import XmlSchema.Proofs.Xml.Events

/-!
# Names in parsed documents

A name that is read has a namespace or none at all: a namespace that is present
in a parsed document is not empty.  So an attribute of a parsed document that
has a namespace is never taken for one without.
-/

namespace XmlSchema.Xml

open Attempt

/-- A namespace of the name, if present, is not empty. -/
def Name.Proper (n : Name) : Prop := n.uri ≠ some ""

/-- The attributes of a tag have proper names. -/
def Tag.Proper (t : Tag) : Prop := ∀ a ∈ t.attributes, a.name.Proper

/-- The attributes of all constructs of the schema language have proper names. -/
structure Element.Proper (e : Element) : Prop where
  tag : e.tag.Proper
  children : Node.EveryIn Tag.Proper e.children

/-- An element whose end tag has not come yet is proper so far. -/
structure OpenElement.Proper (e : OpenElement) : Prop where
  tag : e.tag.Proper
  children : Node.EveryIn Tag.Proper e.children

/-- All elements of a document being read are proper so far. -/
structure OpenDocument.Proper (d : OpenDocument) : Prop where
  stack : ∀ e ∈ d.stack, e.Proper
  root : ∀ e, d.root = some e → e.Proper

theorem Name.Proper.namespaceName_ne {n : Name} (h : n.Proper) (huri : n.uri.isSome) :
    n.namespaceName ≠ "" := by
  obtain ⟨uri, localName, pfx⟩ := n
  obtain ⟨u, rfl⟩ := Option.isSome_iff_exists.1 huri
  exact fun hu => h (congrArg some hu)

namespace Node

variable {P : Tag → Prop} {tag : Tag} {kids nodes : List Node}

theorem everyIn_iff : EveryIn P nodes ↔ ∀ node ∈ nodes, node.Every P := by
  refine ⟨fun h node hnode => h.of_mem hnode, fun h => ?_⟩
  induction nodes with
  | nil =>
      unfold EveryIn
      trivial
  | cons node rest ih =>
      unfold EveryIn
      exact ⟨h _ List.mem_cons_self, ih fun n hn => h n (List.mem_cons_of_mem _ hn)⟩

theorem every_element (htag : P tag) (hkids : EveryIn P kids) : (element tag kids).Every P := by
  unfold Every
  split
  · trivial
  · trivial
  · exact htag
  · exact ⟨htag, hkids⟩

theorem every_text (content : String) : (text content).Every P := by
  unfold Every
  trivial

theorem every_comment (content : String) : (comment content).Every P := by
  unfold Every
  trivial

end Node

theorem proper_keep (scope : InScope) (uri : Option String) (localName : String) :
    (scope.keep uri localName).Proper := by
  unfold InScope.keep Name.Proper
  cases uri with
  | none => exact nofun
  | some u =>
      intro h
      simp [Name.withPrefix, Name.make, Option.filter_eq_some_iff] at h

theorem proper_of_attributes {scope : InScope} {list : List ReadAttribute}
    {seen : List (Option String × String)} {as : List Attribute}
    (h : scope.attributes list seen = .ok as) : ∀ a ∈ as, a.name.Proper := by
  induction list generalizing seen as with
  | nil =>
      cases h
      exact nofun
  | cons a rest ih =>
      obtain ⟨uri, -, h⟩ := bind_eq_ok_iff.1 h
      split at h
      · cases h
      · obtain ⟨more, hmore, h⟩ := bind_eq_ok_iff.1 h
        cases h
        intro b hb
        rcases List.mem_cons.1 hb with rfl | hb
        · exact proper_keep scope uri a.name.localName
        · exact ih hmore b hb

namespace OpenElement

variable {e : OpenElement}

theorem proper_start {name : RawName} {pending : Pending} {parent : InScope}
    (h : start name pending parent = .ok e) : e.Proper := by
  have hstarts := starts_start h
  refine ⟨proper_of_attributes hstarts.attributes, ?_⟩
  rw [hstarts.children]
  exact Node.everyIn_iff.2 nofun

theorem Proper.finish (h : e.Proper) : e.finish.Proper where
  tag := h.tag
  children := Node.everyIn_iff.2 fun _ hnode =>
    h.children.of_mem (List.mem_reverse.1 hnode)

theorem Proper.push (h : e.Proper) {child : Node} (hchild : child.Every Tag.Proper) :
    (e.push child).Proper where
  tag := h.tag
  children := by
    refine Node.everyIn_iff.2 fun node hnode => ?_
    rcases List.mem_cons.1 hnode with rfl | hnode
    · exact hchild
    · exact h.children.of_mem hnode

theorem Proper.pushText (h : e.Proper) (content : String) : (e.pushText content).Proper := by
  unfold OpenElement.pushText
  split
  · rename_i before rest _ hchildren
    refine ⟨h.tag, Node.everyIn_iff.2 fun node hnode => ?_⟩
    rcases List.mem_cons.1 hnode with rfl | hnode
    · exact Node.every_text _
    · exact h.children.of_mem (hchildren ▸ List.mem_cons_of_mem _ hnode)
  · refine ⟨h.tag, Node.everyIn_iff.2 fun node hnode => ?_⟩
    rcases List.mem_cons.1 hnode with rfl | hnode
    · exact Node.every_text _
    · exact h.children.of_mem hnode

end OpenElement

namespace OpenDocument

variable {d d' : OpenDocument}

theorem Proper.modify (h : d.Proper) {f : OpenElement → OpenElement}
    (hf : ∀ e, e.Proper → (f e).Proper) : (d.modify f).Proper := by
  unfold OpenDocument.modify
  split
  · exact h
  · rename_i e outer hstack
    refine ⟨fun e' he' => ?_, h.root⟩
    rcases List.mem_cons.1 he' with rfl | he'
    · exact hf e (h.stack e (by rw [hstack]; exact List.mem_cons_self))
    · exact h.stack e' (by rw [hstack]; exact List.mem_cons_of_mem e he')

theorem Proper.close (h : d.Proper) {e : Element} (he : e.Proper) : (d.close e).Proper := by
  unfold OpenDocument.close
  split
  · refine ⟨h.stack, fun root hroot => ?_⟩
    cases hd : d.root with
    | none =>
        rw [hd] at hroot
        cases hroot
        exact he
    | some earlier =>
        rw [hd] at hroot
        cases hroot
        exact h.root _ hd
  · exact h.modify fun outer houter => houter.push (Node.every_element he.tag he.children)

/-- An event leaves a document proper. -/
theorem Proper.step (h : d.Proper) {event : Event} (hstep : d.step event = .ok d') :
    d'.Proper := by
  have hunglued : (d.modify OpenElement.unglue).Proper :=
    h.modify fun e he => ⟨he.tag, he.children⟩
  cases step_cases hstep with
  | cut hpending => exact ⟨hunglued.stack, hunglued.root⟩
  | closed hpending hstart =>
      have hclosed := h.close (OpenElement.proper_start hstart).finish
      exact ⟨hclosed.stack, hclosed.root⟩
  | opened hpending hstart =>
      refine ⟨fun e' he' => ?_, h.root⟩
      rcases List.mem_cons.1 he' with rfl | he'
      · exact OpenElement.proper_start hstart
      · exact h.stack e' he'
  | @ended name e outer hstack =>
      have houter : OpenDocument.Proper { d with stack := outer, pending := {} } :=
        ⟨fun e' he' => h.stack e' (hstack ▸ List.mem_cons_of_mem e he'), h.root⟩
      exact houter.close (h.stack e (hstack ▸ List.mem_cons_self)).finish
  | text content => exact h.modify fun e he => he.pushText _
  | comment content => exact h.modify fun e he => he.push (Node.every_comment _)
  | gap => exact hunglued

/-- Events leave a document proper. -/
theorem Proper.steps (h : d.Proper) {events : List Event}
    (hsteps : events.foldlM OpenDocument.step d = .ok d') : d'.Proper := by
  induction events generalizing d with
  | nil =>
      cases hsteps
      exact h
  | cons event rest ih =>
      obtain ⟨d₁, hd₁, hrest⟩ := bind_eq_ok_iff.1 hsteps
      exact ih (h.step hd₁) hrest

end OpenDocument

/-- The names of a parsed document are proper. -/
theorem Element.proper_of_parse {text : String} {e : Element} (h : Element.parse text = .ok e) :
    e.Proper := by
  rw [parse_eq] at h
  obtain ⟨events, -, h⟩ := bind_eq_ok_iff.1 h
  obtain ⟨d, hd, hroot⟩ := exists_of_ofEvents h
  exact (OpenDocument.Proper.steps (d := {}) ⟨nofun, nofun⟩ hd).root e hroot

end XmlSchema.Xml
