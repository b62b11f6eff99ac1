import XmlSchema.Proofs.Component.Parts
import XmlSchema.Proofs.Document.Closing

/-!
# Foreign content in document order

Foreign content stands on constructs: attributes that have a namespace, and
children outside the namespace of the schema language.  Here it is listed as
it comes in a document, the attributes of a construct before what its children
hold.  Selectors, fields, facets and the entries of annotations are silent:
reading hands over what stands on all other constructs, in this order and with
nothing left out.
-/

namespace XmlSchema

open Attempt

/-- A step adds some entries to a record; when it fails, it has added the first
of them. -/
def Attempt.Hands {σ α β : Type} (record : σ → List β) (m : Attempt σ α) (entries : List β)
    (Q : α → Prop) : Prop :=
  ∀ s, Ends m s (fun a t => record t = record s ++ entries ∧ Q a)
    fun _ t => ∃ first, first <+: entries ∧ record t = record s ++ first

namespace Attempt

variable {σ α β γ : Type} {record : σ → List β} {entries more : List β} {Q : α → Prop}
  {R : γ → Prop}

theorem hands_pure {a : α} (h : Q a) : Hands record (pure a) [] Q :=
  fun _ => ⟨(List.append_nil _).symm, h⟩

theorem hands_throw (e : SchemaError) : Hands record (throw e : Attempt σ α) entries Q :=
  fun _ => ⟨[], List.nil_prefix, (List.append_nil _).symm⟩

theorem Hands.bind {m : Attempt σ α} {f : α → Attempt σ γ} (h : Hands record m entries Q)
    (hf : ∀ a, Q a → Hands record (f a) more R) : Hands record (m >>= f) (entries ++ more) R := by
  intro s
  refine (ends_bind m f).2 ((h s).mono ?_ ?_)
  · intro a t ⟨ht, ha⟩
    refine (hf a ha t).mono ?_ ?_
    · intro b u ⟨hu, hb⟩
      exact ⟨by rw [hu, ht, List.append_assoc], hb⟩
    · intro _ u ⟨first, hfirst, hu⟩
      exact ⟨entries ++ first, (List.prefix_append_right_inj entries).2 hfirst,
        by rw [hu, ht, List.append_assoc]⟩
  · intro _ t ⟨first, hfirst, ht⟩
    exact ⟨first, hfirst.trans (List.prefix_append _ _), ht⟩

theorem Hands.mono {m : Attempt σ α} {Q' : α → Prop} (h : Hands record m entries Q)
    (hQ : ∀ a, Q a → Q' a) : Hands record m entries Q' :=
  fun s => (h s).mono (fun _ _ h => ⟨h.1, hQ _ h.2⟩) fun _ _ h => h

/-- A step that adds nothing before one that does. -/
theorem Hands.after {m : Attempt σ α} {f : α → Attempt σ γ} (h : Hands record m [] Q)
    (hf : ∀ a, Q a → Hands record (f a) entries R) : Hands record (m >>= f) entries R :=
  h.bind hf

/-- A step that adds nothing after one that does. -/
theorem Hands.before {m : Attempt σ α} {f : α → Attempt σ γ} (h : Hands record m entries Q)
    (hf : ∀ a, Q a → Hands record (f a) [] R) : Hands record (m >>= f) entries R := by
  have hbind := h.bind hf
  rwa [List.append_nil] at hbind

/-- A step that leaves the record alone. -/
theorem hands_of_ends {m : Attempt σ α}
    (h : ∀ s, Ends m s (fun a t => record t = record s ∧ Q a) fun _ t => record t = record s) :
    Hands record m [] Q :=
  fun s => (h s).mono (fun _ _ ⟨ht, ha⟩ => ⟨by rw [ht, List.append_nil], ha⟩)
    fun _ _ ht => ⟨[], List.nil_prefix, by rw [ht, List.append_nil]⟩

end Attempt

/-- Constructs by what they may hold.  A `leaf` takes one annotation; `noted`
says that it has it.  References to other documents, which only the root of a
document holds, are no part of what is listed here. -/
inductive Holder where
  | root
  | external (kind : ExternalKind)
  | note
  | remark
  | simpleType
  | complexType
  | restriction
  | single
  | modelled
  | derivation
  | compositor
  | element
  | attribute
  | group
  | attributeGroup
  | constraint
  | plain
  | leaf (noted : Bool)
  deriving DecidableEq, Repr

namespace Holder

/-- The part in which a construct is held. -/
def child? : Holder → Construct → Option Role
  | .leaf false, .note => some .note
  | .leaf _, _ => none
  | .remark, _ => none
  | .note, .remark audience => some (.remark audience)
  | .note, _ => none
  | _, .note => some .note
  | .root, c => Role.ofTopLevel? c
  | .external .redefinition, c => Role.ofRedefinition? c
  | .simpleType, .derivation .restriction => some .restriction
  | .simpleType, .list => some .list
  | .simpleType, .union => some .union
  | .complexType, .simpleContent => some .simpleContent
  | .complexType, .complexContent => some .complexContent
  | .complexType, c => Role.ofContent? c
  | .restriction, .facet kind => some (.facet kind)
  | .restriction, .simpleType => some (.simpleType false)
  | .single, .simpleType => some (.simpleType false)
  | .modelled, .derivation step => some (.derivation step)
  | .derivation, .facet kind => some (.facet kind)
  | .derivation, .simpleType => some (.simpleType false)
  | .derivation, c => Role.ofContent? c
  | .compositor, .compositor c => some (.compositor c)
  | .compositor, .element => some (.element false)
  | .compositor, .group => some .groupRef
  | .compositor, .any => some .any
  | .element, .simpleType => some (.simpleType false)
  | .element, .complexType => some (.complexType false)
  | .element, .key => some (.constraint .key)
  | .element, .keyref => some (.constraint .keyref)
  | .element, .unique => some (.constraint .unique)
  | .attribute, .simpleType => some (.simpleType false)
  | .group, .compositor c => some (.compositor c)
  | .attributeGroup, .attribute => some (.attribute false)
  | .attributeGroup, .attributeGroup => some .attributeGroupRef
  | .attributeGroup, .anyAttribute => some .anyAttribute
  | .constraint, .selector => some .selector
  | .constraint, .field => some .field
  | _, _ => none

/-- Whether foreign content that stands on the construct is not handed over. -/
def silent : Holder → Bool
  | .leaf _ => true
  | .remark => true
  | _ => false

/-- What a construct may hold once it has an annotation: a leaf takes no other. -/
def annotated : Holder → Holder
  | .leaf _ => .leaf true
  | h => h

/-- What a construct may hold behind one of its children. -/
def after (h : Holder) : Xml.Node → Holder
  | .text _ => h
  | .comment _ => h
  | .element tag _ => if ChildClass.of tag.name = .known .note then h.annotated else h

theorem annotated_eq_iff {h : Holder} (other : Holder) (hother : ∀ noted, other ≠ .leaf noted) :
    h.annotated = other ↔ h = other := by
  cases h with
  | leaf noted =>
      exact iff_of_false (fun h => hother true h.symm) fun h => hother noted h.symm
  | _ => exact Iff.rfl

theorem after_eq_iff {h : Holder} (other : Holder) (hother : ∀ noted, other ≠ .leaf noted)
    (node : Xml.Node) : h.after node = other ↔ h = other := by
  cases node with
  | element tag kids =>
      by_cases hnote : ChildClass.of tag.name = .known .note
      · rw [after, if_pos hnote]
        exact annotated_eq_iff other hother
      · rw [after, if_neg hnote]
  | _ => exact Iff.rfl

end Holder

namespace Role

/-- What a construct in some part may hold. -/
def holder : Role → Holder
  | .note => .note
  | .remark _ => .remark
  | .simpleType _ => .simpleType
  | .complexType _ => .complexType
  | .restriction => .restriction
  | .list | .union => .single
  | .simpleContent | .complexContent => .modelled
  | .derivation _ => .derivation
  | .compositor _ => .compositor
  | .element _ => .element
  | .attribute _ => .attribute
  | .group => .group
  | .attributeGroup => .attributeGroup
  | .constraint _ => .constraint
  | .groupRef | .any | .anyAttribute | .attributeGroupRef | .notationDecl => .plain
  | .selector | .field | .facet _ => .leaf false

/-- Whether a construct is kept in its part: a reference to a group has to say
to which. -/
def keeps (tag : Xml.Tag) : Role → Bool
  | .groupRef | .attributeGroupRef => (tag.attribute? "ref").isSome
  | _ => true

/-- The foreign attributes of a construct.  The language of a text for readers
belongs to the schema language. -/
def foreignAttributes (tag : Xml.Tag) : Role → List ForeignContent
  | .remark .readers =>
      (Reader.foreignAttributes tag).filter (·.name != ⟨xmlNamespace, "lang"⟩)
  | _ => Reader.foreignAttributes tag

end Role

/-- Foreign content found in a document, and whether the construct on which it
stands is silent. -/
structure Found where
  silent : Bool
  content : ForeignContent
  deriving Repr

namespace Found

/-- Foreign content that stands on one construct. -/
def on (h : Holder) (contents : List ForeignContent) : List Found :=
  contents.map fun content => ⟨h.silent, content⟩

/-- What is handed over of the foreign content of a document. -/
def handed (found : List Found) : List ForeignContent :=
  (found.filter (!·.silent)).map content

theorem handed_append (left right : List Found) :
    handed (left ++ right) = handed left ++ handed right := by
  simp [handed]

theorem handed_on {h : Holder} (hsilent : h.silent = false) (contents : List ForeignContent) :
    handed (on h contents) = contents := by
  induction contents with
  | nil => rfl
  | cons first rest ih =>
      have hfirst : handed (on h [first]) = [first] := by simp [handed, on, hsilent]
      rw [show on h (first :: rest) = on h [first] ++ on h rest from rfl, handed_append, hfirst, ih]
      rfl

theorem handed_on_silent {h : Holder} (hsilent : h.silent = true)
    (contents : List ForeignContent) : handed (on h contents) = [] := by
  simp [handed, on, hsilent]

/-- All is handed over exactly when nothing stands on a silent construct. -/
theorem handed_eq_iff (found : List Found) :
    handed found = found.map content ↔ ∀ f ∈ found, f.silent = false := by
  constructor
  · intro h
    have hlength := congrArg List.length h
    rw [handed, List.length_map, List.length_map, List.length_filter_eq_length_iff] at hlength
    simpa using hlength
  · intro h
    have hall : found.filter (!·.silent) = found := List.filter_eq_self.2 (by simpa using h)
    rw [handed, hall]

end Found

namespace Xml.Node

mutual

/-- The foreign content on a child of a construct and on what is read below it. -/
def foreign (h : Holder) : Node → List Found
  | .text _ => []
  | .comment _ => []
  | .element tag kids =>
      match ChildClass.of tag.name with
      | .unknown => []
      | .foreign => Found.on h [Reader.foreignElement tag kids]
      | .known construct =>
          match h.child? construct with
          | none => []
          | some role =>
              if role.keeps tag then
                Found.on role.holder (role.foreignAttributes tag) ++ foreignIn role.holder kids
              else []

/-- The foreign content on the children of a construct and below, in order. -/
def foreignIn (h : Holder) : List Node → List Found
  | [] => []
  | node :: rest => foreign h node ++ foreignIn (h.after node) rest

end

end Xml.Node

/-- The foreign content on a construct in some part and below it. -/
def Role.foreign (role : Role) (e : Xml.Element) : List Found :=
  if role.keeps e.tag then
    Found.on role.holder (role.foreignAttributes e.tag) ++
      Xml.Node.foreignIn role.holder e.children
  else []

namespace Draft

/-- What a draft may hold. -/
def holder : Draft → Holder
  | .external e => .external e.kind
  | .note _ => .note
  | .simpleType _ => .simpleType
  | .complexType _ _ _ _ => .complexType
  | .restriction _ => .restriction
  | .list _ | .union _ => .single
  | .simpleContent _ | .complexContent _ => .modelled
  | .derivation _ => .derivation
  | .compositor _ _ _ _ => .compositor
  | .element _ _ => .element
  | .attribute _ => .attribute
  | .group _ => .group
  | .attributeGroup _ => .attributeGroup
  | .constraint _ => .constraint
  | .groupRef _ _ | .any _ _ | .anyAttribute _ | .attributeGroupRef _ | .notationDecl _ => .plain
  | .selector p | .field p => .leaf p.note.isSome
  | .facet f => .leaf f.note.isSome

/-- A draft takes its children as what it may hold. -/
theorem role?_eq_child? (d : Draft) (construct : Construct) :
    d.role? construct = d.holder.child? construct := by
  cases d with
  | external e =>
      obtain ⟨kind, location, namespaceName, target, redefined, common⟩ := e
      cases kind <;> cases construct <;> rfl
  | selector p =>
      obtain ⟨path, xmlId, note⟩ := p
      cases note <;> cases construct <;> rfl
  | field p =>
      obtain ⟨path, xmlId, note⟩ := p
      cases note <;> cases construct <;> rfl
  | facet f =>
      obtain ⟨kind, value, fixed, xmlId, note⟩ := f
      cases note <;> cases construct <;> rfl
  | simpleType t =>
      cases construct with
      | derivation step => cases step <;> rfl
      | _ => rfl
  | _ => cases construct <;> rfl

theorem takesForeign_eq (d : Draft) : d.takesForeign = !d.holder.silent := by
  cases d <;> rfl

theorem holder_ne_remark (d : Draft) : d.holder ≠ .remark := by
  cases d <;> nofun

theorem holder_addForeign (content : ForeignContent) (d : Draft) :
    (d.addForeign content).holder = d.holder := by
  cases d <;> rfl

/-- An annotation fills the place for it. -/
theorem holder_annotate (a : Annotation) (d : Draft) :
    (d.annotate a).holder = d.holder.annotated := by
  cases d <;> rfl

/-- Taking up a part other than an annotation does not change what a draft may
hold. -/
theorem holder_adopt {p : Part} (hp : ∀ a, p ≠ .note a) (d : Draft) :
    (d.adopt p).holder = d.holder := by
  fun_cases Draft.adopt d p
  case case1 a => exact absurd rfl (hp a)
  all_goals rfl

/-- A draft amounts to an annotation exactly when it is one. -/
theorem toPart_note_iff (schema : Nat) (cs : Components) (d : Draft) :
    (∃ a, d.toPart schema cs = .note a) ↔ d.holder = .note := by
  cases d with
  | note a => exact iff_of_true ⟨a, rfl⟩ rfl
  | element o e =>
      refine iff_of_false ?_ (by intro h; cases h)
      rintro ⟨a, h⟩
      cases he : e.topLevel <;> simp [toPart, he] at h
  | «attribute» x =>
      refine iff_of_false ?_ (by intro h; cases h)
      rintro ⟨a, h⟩
      cases hx : x.topLevel <;> simp [toPart, hx] at h
  | _ =>
      refine iff_of_false ?_ ?_
      · rintro ⟨a, h⟩
        cases h
      · intro h
        cases h

end Draft

namespace Role

theorem holder_eq_note_iff (role : Role) : role.holder = .note ↔ role = .note := by
  cases role with
  | note => exact iff_of_true rfl rfl
  | _ => exact iff_of_false nofun nofun

theorem ofContent?_ne_note {construct : Construct} {role : Role}
    (hrole : ofContent? construct = some role) : role ≠ .note ∧ construct ≠ .note := by
  cases construct <;> cases hrole <;> exact ⟨nofun, nofun⟩

theorem ofTopLevel?_note_iff {construct : Construct} {role : Role}
    (hrole : ofTopLevel? construct = some role) : role = .note ↔ construct = .note := by
  cases construct <;> cases hrole <;>
    first
    | exact iff_of_true rfl rfl
    | exact iff_of_false nofun nofun

theorem ofRedefinition?_ne_note {construct : Construct} {role : Role}
    (hrole : ofRedefinition? construct = some role) : role ≠ .note ∧ construct ≠ .note := by
  cases construct <;> cases hrole <;> exact ⟨nofun, nofun⟩

end Role

namespace Holder

/-- Only an annotation is read as one. -/
theorem child?_note_iff {h : Holder} {construct : Construct} {role : Role}
    (hrole : h.child? construct = some role) : role = .note ↔ construct = .note := by
  fun_cases child? h construct <;> simp only [child?] at hrole
  all_goals first
    | cases hrole; exact iff_of_true rfl rfl
    | cases hrole; exact iff_of_false nofun nofun
    | cases hrole
    | exact Role.ofTopLevel?_note_iff hrole
    | exact iff_of_false (Role.ofContent?_ne_note hrole).1 (Role.ofContent?_ne_note hrole).2
    | exact iff_of_false (Role.ofRedefinition?_ne_note hrole).1
        (Role.ofRedefinition?_ne_note hrole).2

/-- Behind a child that is passed over, a construct may hold what it did. -/
theorem after_of_child?_none {h : Holder} {tag : Xml.Tag} {kids : List Xml.Node}
    {construct : Construct} (hclass : ChildClass.of tag.name = .known construct)
    (hrole : h.child? construct = none) : h.after (.element tag kids) = h := by
  rw [after]
  split
  · rename_i hnote
    cases hclass.symm.trans hnote
    cases h with
    | leaf noted => cases noted <;> first | rfl | cases hrole
    | _ => rfl
  · rfl

end Holder

/-- A draft that has taken up a part for one of its children. -/
theorem Draft.holder_adopt_child {d : Draft} {tag : Xml.Tag} {kids : List Xml.Node}
    {construct : Construct} {role : Role} {p : Part}
    (hknown : ChildClass.of tag.name = .known construct)
    (hrole : d.holder.child? construct = some role)
    (hp : (∃ a, p = .note a) ↔ role.holder = .note) :
    (d.adopt p).holder = d.holder.after (.element tag kids) := by
  have hnote : (∃ a, p = .note a) ↔ construct = .note :=
    hp.trans (role.holder_eq_note_iff.trans (Holder.child?_note_iff hrole))
  by_cases hconstruct : construct = .note
  · obtain ⟨a, rfl⟩ := hnote.2 hconstruct
    subst hconstruct
    have hannotate : d.adopt (.note a) = d.annotate a := by cases d <;> rfl
    rw [hannotate, holder_annotate, Holder.after, if_pos hknown]
  · have hother : ChildClass.of tag.name ≠ .known .note := by
      rw [hknown]
      exact fun h => hconstruct (ChildClass.known.inj h)
    rw [holder_adopt fun a ha => hconstruct (hnote.1 ⟨a, ha⟩), Holder.after, if_neg hother]

theorem Xml.Node.handed_foreignIn_remark (kids : List Node) :
    Found.handed (foreignIn .remark kids) = [] := by
  induction kids with
  | nil => rfl
  | cons node rest ih =>
      have hnode : Found.handed (foreign .remark node) = [] := by
        cases node with
        | element tag kids =>
            unfold foreign
            split
            · rfl
            · exact Found.handed_on_silent rfl _
            · rfl
        | _ => rfl
      have hafter : Holder.remark.after node = .remark :=
        (Holder.after_eq_iff .remark nofun node).2 rfl
      rw [foreignIn, Found.handed_append, hnode, hafter, ih]
      rfl

namespace Reader

variable {cx : Context} {scope : Scope}

/-- The beginning of a construct: a draft of what it may hold, or a part that
no draft takes as an annotation. -/
def Begins (tag : Xml.Tag) (role : Role) : Opening → Prop
  | .draft d => d.holder = role.holder ∧ role.keeps tag
  | .part p => (role.keeps tag → role.holder = .remark) ∧ ∀ a, p ≠ .note a

theorem opening_begins {tag : Xml.Tag} {kids : List Xml.Node} {role : Role} {o : Opening}
    (h : role.opening cx scope tag kids = .ok o) : Begins tag role o := by
  match role, h with
  | .restriction, h | .list, h | .union, h | .derivation _, h | .element _, h | .attribute _, h
  | .constraint _, h =>
      obtain ⟨_, -, h⟩ := bind_eq_ok_iff.1 h
      cases h
      exact ⟨rfl, rfl⟩
  | .groupRef, h | .attributeGroupRef, h =>
      simp only [Role.opening] at h
      split at h
      · rename_i href
        cases h
        refine ⟨fun hkeeps => ?_, nofun⟩
        rw [Role.keeps, href] at hkeeps
        cases hkeeps
      · rename_i token href
        obtain ⟨_, -, h⟩ := bind_eq_ok_iff.1 h
        cases h
        exact ⟨rfl, by rw [Role.keeps, href]; rfl⟩
  | .remark audience, h =>
      cases audience <;> cases h <;> exact ⟨fun _ => rfl, nofun⟩
  | .note, h | .simpleType _, h | .complexType _, h | .simpleContent, h | .complexContent, h
  | .compositor _, h | .any, h | .anyAttribute, h | .group, h | .attributeGroup, h
  | .notationDecl, h | .selector, h | .field, h | .facet _, h =>
      cases h
      exact ⟨rfl, rfl⟩

theorem meet_hands (content : ForeignContent) (d : Draft) :
    Hands Workbench.met (meet cx content d) [content] fun d' => d'.holder = d.holder := by
  intro w
  unfold meet
  rw [ends_bind, ends_modify, ends_pure]
  refine ⟨rfl, ?_⟩
  cases cx.policy with
  | keep => exact d.holder_addForeign content
  | drop => rfl

theorem meetAll_hands (contents : List ForeignContent) (d : Draft) :
    Hands Workbench.met (meetAll cx contents d) contents fun d' => d'.holder = d.holder := by
  induction contents generalizing d with
  | nil => exact hands_pure rfl
  | cons content rest ih =>
      exact (meet_hands content d).bind fun d' hd' => (ih d').mono fun _ h => h.trans hd'

/-- Beginning a construct hands over its foreign attributes, unless the
construct is silent or not kept. -/
theorem begin_hands (tag : Xml.Tag) (kids : List Xml.Node) (role : Role) :
    Hands Workbench.met (begin cx scope tag kids role)
      (if role.keeps tag then
        Found.handed (Found.on role.holder (role.foreignAttributes tag)) else [])
      (Begins tag role) := by
  intro w
  unfold begin
  rw [ends_bind, ends_lift]
  cases ho : role.opening cx scope tag kids with
  | error e => exact hands_throw (Q := Begins tag role) e w
  | ok o =>
      have hbegins : Begins tag role o := opening_begins ho
      cases o with
      | part p =>
          have hnothing : (if role.keeps tag then
              Found.handed (Found.on role.holder (role.foreignAttributes tag)) else []) = [] := by
            split
            · rename_i hkeeps
              exact Found.handed_on_silent (by rw [hbegins.1 hkeeps]; rfl) _
            · rfl
          rw [hnothing]
          exact hands_pure hbegins w
      | draft d =>
          obtain ⟨hholder, hkeeps⟩ := hbegins
          have hattributes : role.foreignAttributes tag = foreignAttributes tag := by
            unfold Role.foreignAttributes
            split
            · exact absurd hholder d.holder_ne_remark
            · rfl
          dsimp only
          rw [if_pos hkeeps, hattributes, d.takesForeign_eq, hholder]
          cases hsilent : role.holder.silent with
          | true =>
              rw [Found.handed_on_silent hsilent]
              exact hands_pure (a := Opening.draft d) (Q := Begins tag role) ⟨hholder, hkeeps⟩ w
          | false =>
              rw [Found.handed_on hsilent]
              have hdraft : ∀ d', d'.holder = d.holder → Begins tag role (.draft d') :=
                fun d' hd' => ⟨hd'.trans hholder, hkeeps⟩
              exact (meetAll_hands (foreignAttributes tag) d).before
                (fun d' hd' => hands_pure (hdraft d' hd')) w

theorem close_hands (d : Draft) :
    Hands Workbench.met (close cx d) []
      fun p => (∃ a, p = .note a) ↔ d.holder = .note := by
  refine hands_of_ends fun w => ?_
  unfold Ends
  rw [exec_close]
  refine ⟨?_, d.toPart_note_iff _ _⟩
  unfold afterClose
  split
  · rfl
  · unfold Workbench.allocate
    dsimp only
    split <;> rfl

/-- Reading a construct hands over what stands on it and, when the same is true
of its children, below it. -/
theorem construct_hands_of {role : Role} {tag : Xml.Tag} {kids : List Xml.Node}
    (hkids : ∀ d, Hands Workbench.met (children cx (scope.enter tag.declared) d kids)
      (Found.handed (Xml.Node.foreignIn d.holder kids))
      fun d' => d'.holder = .note ↔ d.holder = .note) :
    Hands Workbench.met (construct cx scope role ⟨tag, kids⟩)
      (Found.handed (role.foreign ⟨tag, kids⟩))
      fun p => (∃ a, p = .note a) ↔ role.holder = .note := by
  have hentries : Found.handed (role.foreign ⟨tag, kids⟩) =
      (if role.keeps tag then
        Found.handed (Found.on role.holder (role.foreignAttributes tag)) else []) ++
      (if role.keeps tag then
        Found.handed (Xml.Node.foreignIn role.holder kids) else []) := by
    unfold Role.foreign
    dsimp only
    split
    · exact Found.handed_append _ _
    · rfl
  unfold construct
  rw [hentries]
  refine (begin_hands tag kids role).bind fun o ho => ?_
  cases o with
  | part p =>
      have hnothing : (if role.keeps tag then
          Found.handed (Xml.Node.foreignIn role.holder kids) else []) = [] := by
        split
        · rename_i hkeeps
          rw [ho.1 hkeeps]
          exact Xml.Node.handed_foreignIn_remark kids
        · rfl
      have hnote : role.holder ≠ .note := by
        intro hnote
        obtain rfl := role.holder_eq_note_iff.1 hnote
        cases ho.1 rfl
      rw [hnothing]
      exact hands_pure (iff_of_false (fun ⟨a, ha⟩ => ho.2 a ha) hnote)
  | draft d =>
      obtain ⟨hholder, hkeeps⟩ := ho
      rw [if_pos hkeeps, ← hholder]
      refine (hkids d).before fun d' hd' => ?_
      exact (close_hands d').mono fun p hp => hp.trans hd'

mutual

/-- Reading a child hands over the foreign content on it and below it. -/
theorem child_hands (scope : Scope) (d : Draft) : ∀ node : Xml.Node,
    Hands Workbench.met (child cx scope d node) (Found.handed (node.foreign d.holder))
      fun d' => d'.holder = d.holder.after node
  | .text _ => by
      unfold child Xml.Node.foreign
      exact hands_pure rfl
  | .comment _ => by
      unfold child Xml.Node.foreign
      exact hands_pure rfl
  | .element tag kids => by
      cases hclass : ChildClass.of tag.name with
      | unknown =>
          have hnote : ChildClass.of tag.name ≠ .known .note := by rw [hclass]; nofun
          unfold child Xml.Node.foreign
          rw [hclass, Holder.after, if_neg hnote]
          exact hands_pure rfl
      | foreign =>
          have hnote : ChildClass.of tag.name ≠ .known .note := by rw [hclass]; nofun
          unfold child Xml.Node.foreign
          rw [hclass, Holder.after, if_neg hnote]
          dsimp only
          rw [d.takesForeign_eq]
          cases hsilent : d.holder.silent with
          | true =>
              rw [Found.handed_on_silent hsilent]
              exact hands_pure rfl
          | false =>
              rw [Found.handed_on hsilent]
              exact meet_hands _ d
      | known construct =>
          cases hrole : d.holder.child? construct with
          | none =>
              rw [Holder.after_of_child?_none hclass hrole]
              unfold child Xml.Node.foreign
              rw [hclass]
              dsimp only
              rw [d.role?_eq_child?, hrole]
              exact hands_pure rfl
          | some role =>
              have hforeign : (Xml.Node.element tag kids).foreign d.holder =
                  role.foreign ⟨tag, kids⟩ := by
                unfold Xml.Node.foreign
                rw [hclass]
                dsimp only
                rw [hrole]
                rfl
              rw [hforeign, child_known hclass ((d.role?_eq_child? _).trans hrole)]
              refine (construct_hands_of fun d => children_hands _ d kids).before fun p hp => ?_
              exact hands_pure (Draft.holder_adopt_child hclass hrole hp)

/-- Reading children hands over the foreign content on them, in order. -/
theorem children_hands (scope : Scope) (d : Draft) : ∀ nodes : List Xml.Node,
    Hands Workbench.met (children cx scope d nodes)
      (Found.handed (Xml.Node.foreignIn d.holder nodes))
      fun d' => d'.holder = .note ↔ d.holder = .note
  | [] => by
      unfold children Xml.Node.foreignIn
      exact hands_pure Iff.rfl
  | node :: rest => by
      unfold children
      rw [Xml.Node.foreignIn, Found.handed_append]
      refine (child_hands scope d node).bind fun d' hd' => ?_
      rw [← hd']
      refine (children_hands scope d' rest).mono fun d'' hd'' => hd''.trans ?_
      rw [hd']
      exact Holder.after_eq_iff .note nofun node

end

/-- Reading a construct hands over the foreign content on it and below it, in
document order, except what stands on silent constructs. -/
theorem construct_hands (scope : Scope) (role : Role) (e : Xml.Element) :
    Hands Workbench.met (construct cx scope role e) (Found.handed (role.foreign e))
      fun p => (∃ a, p = .note a) ↔ role.holder = .note :=
  construct_hands_of fun d => children_hands _ d e.children

end Reader

end XmlSchema
