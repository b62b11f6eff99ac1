import XmlSchema.Proofs.Component.Ledger
import XmlSchema.Proofs.Document.Discipline
import XmlSchema.Proofs.Document.References
import XmlSchema.Proofs.Document.Rewriting
import XmlSchema.Proofs.Xml.Meaning

/-!
# Copies of what has been read

While a document is read, a tally says of which component each new component is
a copy.  A draft or a part is a copy of another one when the two agree, once
every component has been taken for its original and the prefixes of copied
markup have been forgotten.  What is read from an element is a copy of something
if it is that in any scope in which the prefixes that the document is written
with have their meaning.
-/

namespace XmlSchema

open Attempt

namespace Xml

/-- A name without its prefix. -/
def Name.bare (name : Name) : Name := { name with pfx := none }

/-- An attribute without the prefix of its name. -/
def Attribute.bare (a : Attribute) : Attribute := { a with name := a.name.bare }

/-- A tag without the prefixes of its names. -/
def Tag.bare (t : Tag) : Tag :=
  { t with name := t.name.bare, attributes := t.attributes.map Attribute.bare }

mutual

/-- A node without the prefixes of its names. -/
def Node.bare : Node → Node
  | .text content => .text content
  | .comment content => .comment content
  | .element tag kids => .element tag.bare (Node.bareAll kids)

/-- Some nodes without the prefixes of their names. -/
def Node.bareAll : List Node → List Node
  | [] => []
  | node :: rest => Node.bare node :: Node.bareAll rest

end

/-- An element without the prefixes of its names. -/
def Element.bare (e : Element) : Element := ⟨e.tag.bare, Node.bareAll e.children⟩

theorem Name.toQName_of_bare {name name' : Name} (h : name.bare = name'.bare) :
    name.toQName = name'.toQName := by
  have huri : name.uri = name'.uri := (congrArg Name.uri h :)
  have hlocal : name.localName = name'.localName := (congrArg Name.localName h :)
  simp only [Name.toQName, Name.namespaceName, huri, hlocal]

end Xml

theorem ChildClass.of_bare {name name' : Xml.Name} (h : name.bare = name'.bare) :
    ChildClass.of name = ChildClass.of name' := by
  have hname := Xml.Name.toQName_of_bare h
  simp only [Xml.Name.toQName, QName.mk.injEq] at hname
  unfold ChildClass.of
  rw [hname.1, hname.2]

/-- A foreign attribute or element without the prefixes of its names. -/
def ForeignPayload.bare : ForeignPayload → ForeignPayload
  | .attribute a => .attribute a.bare
  | .element e => .element e.bare

/-- Foreign content without the prefixes of its names. -/
def ForeignContent.bare (content : ForeignContent) : ForeignContent :=
  { content with payload := content.payload.bare }

/-- An entry of an annotation without the prefixes of the names in its markup. -/
def Remark.bare (r : Remark) : Remark := { r with markup := Xml.Node.bareAll r.markup }

theorem ForeignContent.bare_ofAttribute {a a' : Xml.Attribute} (h : a.bare = a'.bare) :
    (ofAttribute a).bare = (ofAttribute a').bare := by
  have hname : a.name.bare = a'.name.bare := (congrArg Xml.Attribute.name h :)
  simp only [ofAttribute, bare, ForeignPayload.bare, h, Xml.Name.toQName_of_bare hname]

theorem ForeignContent.bare_ofElement {e e' : Xml.Element} (h : e.bare = e'.bare) :
    (ofElement e).bare = (ofElement e').bare := by
  have hname : e.tag.name.bare = e'.tag.name.bare :=
    (congrArg (fun e : Xml.Element => e.tag.name) h :)
  show (⟨e.tag.name.toQName, .element e.bare⟩ : ForeignContent) =
    ⟨e'.tag.name.toQName, .element e'.bare⟩
  rw [h, Xml.Name.toQName_of_bare hname]

/-- Nodes that are elements but for their prefixes are elements. -/
theorem Xml.Node.exists_of_bareAll {nodes : List Xml.Node} {originals : List Xml.Element}
    (h : bareAll nodes = bareAll (originals.map ofElement)) :
    ∃ es : List Xml.Element, nodes = es.map ofElement ∧
      es.map Xml.Element.bare = originals.map Xml.Element.bare := by
  induction originals generalizing nodes with
  | nil =>
      cases nodes with
      | nil => exact ⟨[], rfl, rfl⟩
      | cons node rest => simp [bareAll] at h
  | cons original more ih =>
      cases nodes with
      | nil => simp [bareAll] at h
      | cons node rest =>
          simp only [List.map_cons, bareAll, List.cons.injEq] at h
          obtain ⟨hnode, hrest⟩ := h
          obtain ⟨es, rfl, hes⟩ := ih hrest
          cases node with
          | element tag kids =>
              simp only [ofElement, bare, element.injEq] at hnode
              refine ⟨⟨tag, kids⟩ :: es, rfl, ?_⟩
              rw [List.map_cons, List.map_cons, hes]
              simp only [Xml.Element.bare, hnode]
          | text content => simp [ofElement, bare] at hnode
          | comment content => simp [ofElement, bare] at hnode

namespace Transcription

/-- Compare what has been copied: every component is taken for some other one,
and prefixes are forgotten. -/
def comparing (f : (kind : ComponentKind) → ComponentId kind → ComponentId kind) :
    Transcription where
  identity {kind} := f kind
  remark := Remark.bare
  foreign := List.map ForeignContent.bare

/-- Compare originals, which are taken for themselves. -/
def plain : Transcription := comparing fun _ => id

variable {f : (kind : ComponentKind) → ComponentId kind → ComponentId kind}

theorem draft_addForeign (content : ForeignContent) (d : Draft) :
    (comparing f).draft (d.addForeign content) =
      ((comparing f).draft d).addForeign content.bare :=
  draft_mapCommon (fun c => by simp [common, comparing]) d

end Transcription

/-- A new component of some kind, and the one that it is a copy of. -/
structure Copy where
  kind : ComponentKind
  copy : ComponentId kind
  original : ComponentId kind

/-- The copies made so far. -/
abbrev Tally := List Copy

namespace Tally

open Transcription

/-- Every copy is taken for its original. -/
def Follows (f : (kind : ComponentKind) → ComponentId kind → ComponentId kind) (O : Tally) :
    Prop :=
  ∀ m ∈ O, f m.kind m.copy = m.original

/-- A draft is a copy of another one. -/
def Matches (O : Tally) (d original : Draft) : Prop :=
  ∀ f, Follows f O → (comparing f).draft d = plain.draft original

/-- A part is a copy of another one. -/
def MatchesPart (O : Tally) (p original : Part) : Prop :=
  ∀ f, Follows f O → (comparing f).part p = plain.part original

/-- The components of a schema are copies of those of a collection. -/
structure Fits (c : Collection) (schema : Nat) (O : Tally) (cs : Components) : Prop where
  functional : ∀ m ∈ O, ∀ m' ∈ O,
    (⟨m.kind, m.copy⟩ : ComponentRef) = ⟨m'.kind, m'.copy⟩ → m = m'
  within : ∀ m ∈ O, m.copy.schema = schema
  bounded : ∀ m ∈ O, m.copy.index < cs.count m.kind
  copied : ∀ kind i y, (cs.ofKind kind)[i]? = some y →
    ∃ original x, ⟨kind, ⟨schema, i⟩, original⟩ ∈ O ∧ c.get? original = some x ∧
      ∀ f, Follows f O → (comparing f).component kind y = plain.component kind x

variable {c : Collection} {schema : Nat} {O O' : Tally} {cs : Components} {d q : Draft}
  {f : (kind : ComponentKind) → ComponentId kind → ComponentId kind}

theorem Follows.of_subset (h : Follows f O') (hO : O ⊆ O') : Follows f O :=
  fun m hm => h m (hO hm)

theorem Matches.grow (h : Matches O d q) (hO : O ⊆ O') : Matches O' d q :=
  fun f hf => h f (hf.of_subset hO)

theorem MatchesPart.grow {p original : Part} (h : MatchesPart O p original) (hO : O ⊆ O') :
    MatchesPart O' p original :=
  fun f hf => h f (hf.of_subset hO)

theorem Fits.exists_follows (h : Fits c schema O cs) : ∃ f, Follows f O := by
  classical
  refine ⟨fun kind i => if hi : ∃ original, (⟨kind, i, original⟩ : Copy) ∈ O then hi.choose else i,
    fun m hm => ?_⟩
  have hi : ∃ original, (⟨m.kind, m.copy, original⟩ : Copy) ∈ O := ⟨m.original, hm⟩
  have heq := h.functional _ hi.choose_spec m hm rfl
  dsimp only
  rw [dif_pos hi]
  obtain ⟨kind, copy, original⟩ := m
  exact eq_of_heq (Copy.mk.inj heq).2.2

/-- What is known of a draft from the one that it is a copy of. -/
theorem Matches.same (h : Matches O d q) (hfit : Fits c schema O cs) :
    (∀ construct, d.role? construct = q.role? construct) ∧ d.takesForeign = q.takesForeign := by
  obtain ⟨f, hf⟩ := hfit.exists_follows
  have hd := h f hf
  refine ⟨fun construct => ?_, ?_⟩
  · rw [← role?_draft (τ := comparing f) d, hd]
    exact role?_draft q construct
  · rw [← takesForeign_draft (τ := comparing f) d, hd]
    exact takesForeign_draft q

theorem Matches.adopt {p original : Part} (h : Matches O d q) (hp : MatchesPart O p original) :
    Matches O (d.adopt p) (q.adopt original) := by
  intro f hf
  rw [draft_adopt, draft_adopt, h f hf, hp f hf]

theorem Matches.addForeign {content original : ForeignContent} (h : Matches O d q)
    (hcontent : content.bare = original.bare) :
    Matches O (d.addForeign content) (q.addForeign original) := by
  intro f hf
  rw [draft_addForeign, h f hf, hcontent]
  exact (draft_addForeign original q).symm

/-- A new component is entered as a copy of some component. -/
theorem Fits.push (h : Fits c schema O cs) {kind : ComponentKind} {x y : kind.Component}
    {original : ComponentId kind} (hx : c.get? original = some x)
    (hy : ∀ f, Follows f O → (comparing f).component kind y = plain.component kind x) :
    Fits c schema (⟨kind, ⟨schema, cs.count kind⟩, original⟩ :: O) (cs.push kind y) := by
  have hsubset : O ⊆ ⟨kind, ⟨schema, cs.count kind⟩, original⟩ :: O :=
    List.subset_cons_of_subset _ (List.Subset.refl _)
  -- the new component has an index that no other has
  have hfresh : ∀ m ∈ O, (⟨m.kind, m.copy⟩ : ComponentRef) ≠ ⟨kind, ⟨schema, cs.count kind⟩⟩ := by
    intro m hm heq
    have hkind : m.kind = kind := congrArg ComponentRef.kind heq
    have hindex : m.copy.index = cs.count kind :=
      congrArg (fun ref : ComponentRef => ref.id.index) heq
    have hbounded := h.bounded m hm
    rw [hindex, hkind] at hbounded
    exact absurd hbounded (Nat.lt_irrefl _)
  refine ⟨?_, ?_, ?_, ?_⟩
  · intro m hm m' hm' heq
    rcases List.mem_cons.1 hm with rfl | hm <;> rcases List.mem_cons.1 hm' with rfl | hm'
    · rfl
    · exact absurd heq.symm (hfresh m' hm')
    · exact absurd heq (hfresh m hm)
    · exact h.functional m hm m' hm' heq
  · intro m hm
    rcases List.mem_cons.1 hm with rfl | hm
    · rfl
    · exact h.within m hm
  · intro m hm
    rcases List.mem_cons.1 hm with rfl | hm
    · exact (Components.count_push cs kind y).symm ▸ Nat.lt_succ_self _
    · exact Nat.lt_of_lt_of_le (h.bounded m hm) ((Components.Extends.push cs kind y).count_le _)
  · intro other i z hz
    have hrest : (cs.ofKind other)[i]? = some z → ∃ original' x',
        ⟨other, ⟨schema, i⟩, original'⟩ ∈ (⟨kind, ⟨schema, cs.count kind⟩, original⟩ : Copy) :: O ∧
          c.get? original' = some x' ∧
          ∀ f, Follows f (⟨kind, ⟨schema, cs.count kind⟩, original⟩ :: O) →
            (comparing f).component other z = plain.component other x' := by
      intro hz
      obtain ⟨original', x', hmem, hx', heq⟩ := h.copied other i z hz
      exact ⟨original', x', hsubset hmem, hx', fun f hf => heq f (hf.of_subset hsubset)⟩
    by_cases hkind : other = kind
    · subst hkind
      rw [Components.ofKind_push, Array.getElem?_push] at hz
      split at hz
      · rename_i hi
        cases hz
        subst hi
        exact ⟨original, x, List.mem_cons_self, hx, fun f hf => hy f (hf.of_subset hsubset)⟩
      · exact hrest hz
    · rw [Components.ofKind_push_of_ne _ _ hkind] at hz
      exact hrest hz

/-- Finding the types of declarations makes no difference. -/
theorem Fits.extend {later : Components} (h : Fits c schema O cs) (hcs : cs.Extends later)
    (hcount : ∀ kind, later.count kind = cs.count kind) : Fits c schema O later where
  functional := h.functional
  within := h.within
  bounded m hm := (hcount m.kind).symm ▸ h.bounded m hm
  copied kind i y hy := by
    obtain ⟨y₀, hy₀, hyy⟩ := hcs.exists_earlier (hcount kind) hy
    obtain ⟨original, x, hmem, hx, heq⟩ := h.copied kind i y₀ hy₀
    exact ⟨original, x, hmem, hx, fun f hf => (component_congr hyy).trans (heq f hf)⟩

end Tally

namespace Components

/-- Some components, as many of each kind as one likes. -/
theorem exists_count (n : Nat) : ∃ cs : Components, ∀ kind, cs.count kind = n := by
  refine ⟨{ elements := .replicate n {}, attributes := .replicate n {}
            types := .replicate n { body := .simple .unspecified }
            groups := .replicate n {}, attributeGroups := .replicate n {}
            notations := .replicate n {} }, fun kind => ?_⟩
  cases kind <;> simp [count, ofKind]

end Components

/-- A scope in which the prefixes of a document have their meaning, and a token
without a prefix means a name in no namespace. -/
structure Scope.Serves (scope : Scope) (outer : Xml.Meaning) : Prop where
  plain : ∀ pfx uri, outer pfx = some uri → Text.Plain pfx
  bound : ∀ pfx uri, outer pfx = some uri → Context.namespaceOf? scope pfx = some uri
  unprefixed : Context.namespaceOf? scope "" = some ""

namespace Scope.Serves

variable {scope : Scope} {outer outer' : Xml.Meaning}

theorem of_within (h : scope.Serves outer') (hw : outer.Within outer') : scope.Serves outer :=
  ⟨fun pfx uri hpfx => h.plain pfx uri (hw pfx uri hpfx),
    fun pfx uri hpfx => h.bound pfx uri (hw pfx uri hpfx), h.unprefixed⟩

/-- An element that declares nothing changes nothing. -/
theorem enter_empty (h : scope.Serves outer) : (scope.enter {}).Serves outer := by
  have hsame : ∀ pfx, Context.namespaceOf? (scope.enter {}) pfx =
      Context.namespaceOf? scope pfx := by
    intro pfx
    unfold Context.namespaceOf?
    rw [Scope.lookup?_enter]
    rfl
  exact ⟨h.plain, fun pfx uri hpfx => (hsame pfx).trans (h.bound pfx uri hpfx),
    (hsame "").trans h.unprefixed⟩

end Scope.Serves

namespace Draft

theorem takesForeign_addForeign (content : ForeignContent) (d : Draft) :
    (d.addForeign content).takesForeign = d.takesForeign := by
  cases d <;> rfl

theorem role?_note_addForeign (content : ForeignContent) (d : Draft) :
    (d.addForeign content).role? .note = d.role? .note := by
  cases d <;> rfl

theorem annotate_addForeign (a : Annotation) (content : ForeignContent) (d : Draft) :
    (d.addForeign content).annotate a = (d.annotate a).addForeign content := by
  cases d <;> rfl

/-- Attach some foreign content. -/
def addForeigns (d : Draft) (contents : List ForeignContent) : Draft :=
  contents.foldl (fun d content => d.addForeign content) d

/-- Attach an annotation, if there is one. -/
def noted (d : Draft) : Option Annotation → Draft
  | none => d
  | some a => d.annotate a

/-- Attach what a construct has in common with all others. -/
def dress (d : Draft) (common : Common) : Draft := (d.addForeigns common.foreign).noted common.note

variable {d : Draft} {contents : List ForeignContent}

/-- A construct of which only the identifier is known, and what it becomes when
the rest of what it shares with all others is attached. -/
theorem dress_of (made : Common → Draft)
    (hmap : ∀ f common, (made common).mapCommon f = made (f common))
    (hnote : ∀ a common, (made common).annotate a = made { common with note := some a })
    (common : Common) : (made { xmlId := common.xmlId }).dress common = made common := by
  have hforeign : ∀ contents : List ForeignContent,
      (made { xmlId := common.xmlId }).addForeigns contents =
        made { xmlId := common.xmlId, foreign := contents } := by
    intro contents
    unfold addForeigns
    induction contents using List.reverseRecOn with
    | nil => rfl
    | append_singleton rest content ih =>
        rw [List.foldl_append, ih]
        exact hmap (fun c => { c with foreign := c.foreign ++ [content] }) _
  obtain ⟨xmlId, note, foreign⟩ := common
  unfold dress
  rw [hforeign]
  cases note with
  | none => rfl
  | some a => exact hnote a _

theorem addForeigns_noted (note : Option Annotation) (d : Draft) :
    (d.noted note).addForeigns contents = (d.addForeigns contents).noted note := by
  cases note with
  | none => rfl
  | some a =>
      unfold addForeigns noted
      induction contents generalizing d with
      | nil => rfl
      | cons content rest ih =>
          rw [List.foldl_cons, List.foldl_cons, ← annotate_addForeign]
          exact ih _

theorem takesForeign_addForeigns : (d.addForeigns contents).takesForeign = d.takesForeign := by
  unfold addForeigns
  induction contents generalizing d with
  | nil => rfl
  | cons content rest ih => rw [List.foldl_cons, ih, takesForeign_addForeign]

theorem role?_note_addForeigns : (d.addForeigns contents).role? .note = d.role? .note := by
  unfold addForeigns
  induction contents generalizing d with
  | nil => rfl
  | cons content rest ih => rw [List.foldl_cons, ih, role?_note_addForeign]

theorem addForeigns_eq (contents : List ForeignContent) (d : Draft) :
    d.addForeigns contents =
      d.mapCommon fun common => { common with foreign := common.foreign ++ contents } := by
  unfold addForeigns
  induction contents generalizing d with
  | nil => cases d <;> simp [mapCommon]
  | cons content rest ih =>
      rw [List.foldl_cons, ih]
      cases d <;> simp [mapCommon, addForeign]

theorem takesForeign_noted (note : Option Annotation) :
    (d.noted note).takesForeign = d.takesForeign := by
  cases note with
  | none => rfl
  | some a => cases d <;> rfl

theorem addForeigns_append (contents more : List ForeignContent) (d : Draft) :
    d.addForeigns (contents ++ more) = (d.addForeigns contents).addForeigns more :=
  List.foldl_append

/-- The attributes and then the elements are all that there is. -/
theorem addForeigns_reread (h : ForeignContent.reread contents = contents) (d : Draft) :
    (d.addForeigns ((ForeignContent.attributes contents).map .ofAttribute)).addForeigns
      ((ForeignContent.elements contents).map .ofElement) = d.addForeigns contents := by
  rw [← addForeigns_append]
  exact congrArg d.addForeigns h

end Draft

namespace Reader

open Tally

variable (c : Collection) (cx : Context)

/-- A step of reading never fails, and what comes of it is a copy. -/
def Copies {α : Type} (O : Tally) (w : Workbench) (m : Attempt Workbench α)
    (Q : Tally → α → Prop) : Prop :=
  Ends m w (fun a w' => ∃ O', O ⊆ O' ∧ Fits c cx.schema O' w'.components ∧ Q O' a)
    fun _ _ => False

/-- What is read from an element in some part is a copy of a part. -/
def Says (construct : Construct) (role : Role) (p : Part) (outer : Xml.Meaning)
    (e : Xml.Element) : Prop :=
  ChildClass.of e.tag.name = .known construct ∧
    ∀ scope, scope.Serves outer → ∀ O w, Fits c cx.schema O w.components →
      Copies c cx O w (Reader.construct cx scope role e) fun O' p' => MatchesPart O' p' p

/-- Some nodes make a copy of one draft into a copy of another one. -/
def Adds (q q' : Draft) (outer : Xml.Meaning) (nodes : List Xml.Node) : Prop :=
  ∀ scope, scope.Serves outer → ∀ O w d, Fits c cx.schema O w.components → Matches O d q →
    Copies c cx O w (Reader.children cx scope d nodes) fun O' d' => Matches O' d' q'

/-- The part that a draft amounts to in a collection that has the component it
becomes. -/
def Closes (q : Draft) (p : Part) : Prop :=
  ∃ schema cs, p = q.toPart schema cs ∧
    ∀ x, q.owned? = some x → c.get? (⟨schema, cs.count x.1⟩ : ComponentId x.1) = some x.2

/-- An element that is written for a construct: it has the attributes of some
pairs, and its foreign attributes and its children make a copy of one draft into
a copy of another one. -/
structure Formed (construct : Construct) (pairs : List (String × Option String)) (q q' : Draft)
    (outer : Xml.Meaning) (e : Xml.Element) : Prop where
  class_eq : ChildClass.of e.tag.name = .known construct
  declared : e.tag.declared = {}
  attribute? : ∀ name, e.tag.attribute? name = Writer.valueOf? pairs name
  completes : ∃ contents, (foreignAttributes e.tag).map ForeignContent.bare =
      contents.map ForeignContent.bare ∧ (q.takesForeign = false → contents = []) ∧
    Adds c cx (q.addForeigns contents) q' outer e.children

variable {c cx} {outer : Xml.Meaning} {O : Tally} {w : Workbench} {q q' q'' d : Draft}

namespace Copies

variable {α β : Type} {Q : Tally → α → Prop} {R : Tally → β → Prop} {m : Attempt Workbench α}

theorem of_pure {a : α} (h : Fits c cx.schema O w.components) (ha : Q O a) :
    Copies c cx O w (pure a) Q := ⟨O, List.Subset.refl O, h, ha⟩

theorem bind {f : α → Attempt Workbench β} (h : Copies c cx O w m Q)
    (hf : ∀ a O' w', O ⊆ O' → Fits c cx.schema O' w'.components → Q O' a →
      Copies c cx O' w' (f a) R) : Copies c cx O w (m >>= f) R := by
  refine Ends.bind h ?_
  rintro a w' ⟨O', hO, hfit, ha⟩
  refine (hf a O' w' hO hfit ha).mono ?_ fun _ _ h => h
  rintro b w'' ⟨O'', hO', hfit', hb⟩
  exact ⟨O'', List.Subset.trans hO hO', hfit', hb⟩

theorem mono {Q' : Tally → α → Prop} (h : Copies c cx O w m Q) (hQ : ∀ O' a, Q O' a → Q' O' a) :
    Copies c cx O w m Q' :=
  Ends.mono h (fun _ _ ⟨O', hO, hfit, ha⟩ => ⟨O', hO, hfit, hQ O' _ ha⟩) fun _ _ h => h

end Copies

theorem Closes.of_none (h : q.owned? = none) : Closes c q (q.toPart 0 {}) :=
  ⟨0, {}, rfl, fun x hx => by rw [h] at hx; cases hx⟩

theorem Closes.of_owned {kind : ComponentKind} {id : ComponentId kind} {x : kind.Component}
    {p : Part} (hx : c.get? id = some x) (hq : q.owned? = some ⟨kind, x⟩)
    (hp : ∀ cs : Components, cs.count kind = id.index → q.toPart id.schema cs = p) :
    Closes c q p := by
  obtain ⟨cs, hcs⟩ := Components.exists_count id.index
  refine ⟨id.schema, cs, (hp cs (hcs kind)).symm, fun y hy => ?_⟩
  cases Option.some.inj (hq.symm.trans hy)
  rw [hcs]
  exact hx

theorem children_append (scope : Scope) (d : Draft) (left right : List Xml.Node) :
    children cx scope d (left ++ right) = (do
      let d ← children cx scope d left
      children cx scope d right) := by
  induction left generalizing d with
  | nil => simp [children]
  | cons node rest ih => simp [children, ih, bind_assoc]

theorem adds_nil : Adds c cx q q outer [] := by
  intro scope _ O w d hfit hd
  unfold children
  exact .of_pure hfit hd

theorem Adds.append {left right : List Xml.Node} (h : Adds c cx q q' outer left)
    (h' : Adds c cx q' q'' outer right) : Adds c cx q q'' outer (left ++ right) := by
  intro scope hscope O w d hfit hd
  rw [children_append]
  exact (h scope hscope O w d hfit hd).bind fun d' O' w' _ hfit' hd' =>
    h' scope hscope O' w' d' hfit' hd'

theorem Adds.of_child {node : Xml.Node}
    (h : ∀ scope, scope.Serves outer → ∀ O w d, Fits c cx.schema O w.components → Matches O d q →
      Copies c cx O w (child cx scope d node) fun O' d' => Matches O' d' q') :
    Adds c cx q q' outer [node] := by
  intro scope hscope O w d hfit hd
  unfold children
  refine (h scope hscope O w d hfit hd).bind fun d' O' w' _ hfit' hd' => ?_
  unfold children
  exact .of_pure hfit' hd'

/-- A child is taken up in the part that the draft takes it in. -/
theorem Says.adds {construct : Construct} {role : Role} {p : Part} {e : Xml.Element}
    (h : Says c cx construct role p outer e) (hr : q.role? construct = some role) :
    Adds c cx q (q.adopt p) outer [Xml.Node.ofElement e] := by
  refine .of_child fun scope hscope O w d hfit hd => ?_
  have hrole : d.role? construct = some role := ((hd.same hfit).1 construct).trans hr
  unfold Xml.Node.ofElement
  rw [child_known h.1 hrole]
  exact (h.2 scope hscope O w hfit).bind fun p' O' w' hO hfit' hp' =>
    .of_pure hfit' ((hd.grow hO).adopt hp')

section Foreign

variable (hkeep : cx.policy = .keep)
include hkeep

theorem meet_copies {content original : ForeignContent} (hfit : Fits c cx.schema O w.components)
    (hd : Matches O d q) (hcontent : content.bare = original.bare) :
    Copies c cx O w (meet cx content d) fun O' d' => Matches O' d' (q.addForeign original) := by
  unfold meet Copies
  rw [ends_bind, ends_modify, ends_pure, hkeep]
  exact ⟨O, List.Subset.refl O, hfit, hd.addForeign hcontent⟩

theorem meetAll_copies {contents originals : List ForeignContent}
    (hfit : Fits c cx.schema O w.components) (hd : Matches O d q)
    (h : contents.map ForeignContent.bare = originals.map ForeignContent.bare) :
    Copies c cx O w (meetAll cx contents d) fun O' d' =>
      Matches O' d' (q.addForeigns originals) := by
  induction contents generalizing originals O w d q with
  | nil =>
      have hnil : originals = [] := List.map_eq_nil_iff.1 h.symm
      rw [hnil]
      exact .of_pure hfit hd
  | cons content rest ih =>
      obtain ⟨original, more, rfl, hcontent, hrest⟩ := List.map_eq_cons_iff.1 h.symm
      unfold meetAll Draft.addForeigns
      rw [List.foldl_cons]
      exact (meet_copies hkeep hfit hd hcontent.symm).bind fun d' O' w' _ hfit' hd' =>
        ih hfit' hd' hrest.symm

/-- A foreign element is handed over to a draft that takes it. -/
theorem adds_foreign {e original : Xml.Element} (htakes : q.takesForeign = true)
    (hclass : ChildClass.of original.tag.name = .foreign) (h : e.bare = original.bare) :
    Adds c cx q (q.addForeign (.ofElement original)) outer [Xml.Node.ofElement e] := by
  refine .of_child fun scope _ O w d hfit hd => ?_
  have htag : e.tag.name.bare = original.tag.name.bare :=
    (congrArg (fun e : Xml.Element => e.tag.name) h :)
  unfold Xml.Node.ofElement child
  rw [(ChildClass.of_bare htag).trans hclass]
  dsimp only
  rw [if_pos ((hd.same hfit).2.trans htakes)]
  exact meet_copies hkeep hfit hd (ForeignContent.bare_ofElement h)

theorem adds_foreigns {es originals : List Xml.Element} (htakes : q.takesForeign = true)
    (hclass : ∀ e ∈ originals, ChildClass.of e.tag.name = .foreign)
    (h : es.map Xml.Element.bare = originals.map Xml.Element.bare) :
    Adds c cx q (q.addForeigns (originals.map .ofElement)) outer
      (es.map Xml.Node.ofElement) := by
  induction originals generalizing es q with
  | nil =>
      have hnil : es = [] := List.map_eq_nil_iff.1 h
      rw [hnil]
      exact adds_nil
  | cons original more ih =>
      obtain ⟨e, rest, rfl, he, hrest⟩ := List.map_eq_cons_iff.1 h
      obtain ⟨hfirst, hmore⟩ := List.forall_mem_cons.1 hclass
      have hstays : (q.addForeign (.ofElement original)).takesForeign = true := by
        rw [Draft.takesForeign_addForeign, htakes]
      exact (adds_foreign hkeep htakes hfirst he).append (ih hstays hmore hrest)

end Foreign

/-- Closing a copy of a draft copies the component that the draft becomes. -/
theorem close_copies {p : Part} (hfit : Fits c cx.schema O w.components) (hd : Matches O d q)
    (hp : Closes c q p) :
    Copies c cx O w (Reader.close cx d) fun O' p' => MatchesPart O' p' p := by
  obtain ⟨schema, cs, rfl, howned⟩ := hp
  unfold Copies Ends
  rw [exec_close]
  dsimp only
  rw [components_afterClose]
  -- when both identities are taken for one, so are the parts
  have hpart : ∀ O', O ⊆ O' → (∀ f, Follows f O' → ∀ x, d.owned? = some x →
      f x.1 ⟨cx.schema, w.components.count x.1⟩ = ⟨schema, cs.count x.1⟩) →
      MatchesPart O' (d.toPart cx.schema w.components) (q.toPart schema cs) := by
    intro O' hO hid f hf
    rw [Transcription.part_toPart d (hid f hf), hd f (hf.of_subset hO)]
    exact (Transcription.part_toPart q fun x _ => rfl).symm
  have hsame : ∀ f, Follows f O →
      d.owned?.map (fun x =>
          (⟨x.1, (Transcription.comparing f).component x.1 x.2⟩ : AnyComponent)) =
        q.owned?.map fun x => ⟨x.1, Transcription.plain.component x.1 x.2⟩ := by
    intro f hf
    rw [← Transcription.owned?_draft, hd f hf, Transcription.owned?_draft]
  unfold Draft.closed
  cases hx : d.owned? with
  | none =>
      exact ⟨O, List.Subset.refl O, hfit, hpart O (List.Subset.refl O) fun f _ x hx' => by
        rw [hx] at hx'
        cases hx'⟩
  | some y =>
      obtain ⟨kind, y⟩ := y
      obtain ⟨x, hq⟩ : ∃ x : kind.Component, q.owned? = some ⟨kind, x⟩ := by
        obtain ⟨f, hf⟩ := hfit.exists_follows
        have h := hsame f hf
        rw [hx] at h
        obtain ⟨⟨kind', x⟩, hq, heq⟩ := Option.map_eq_some_iff.1 h.symm
        obtain rfl : kind' = kind := (congrArg Sigma.fst heq :)
        exact ⟨x, hq⟩
      have hcomponent : ∀ f, Follows f O → (Transcription.comparing f).component kind y =
          Transcription.plain.component kind x := by
        intro f hf
        have h := hsame f hf
        rw [hx, hq] at h
        exact eq_of_heq (Sigma.mk.inj (Option.some.inj h)).2
      refine ⟨_, List.subset_cons_of_subset _ (List.Subset.refl O),
        hfit.push (howned ⟨kind, x⟩ hq) hcomponent, ?_⟩
      refine hpart _ (List.subset_cons_of_subset _ (List.Subset.refl O)) fun f hf z hz => ?_
      cases Option.some.inj (hx.symm.trans hz)
      exact hf _ List.mem_cons_self

/-- What is read from such an element is a copy of what the second draft amounts
to, when the construct begins as a copy of the first. -/
theorem Formed.reads {construct : Construct} {role : Role} {pairs : List (String × Option String)}
    {e : Xml.Element} {p : Part} (h : Formed c cx construct pairs q q' outer e)
    (hkeep : cx.policy = .keep)
    (hopen : ∀ scope, scope.Serves outer → ∃ d,
      role.opening cx scope e.tag e.children = .ok (.draft d) ∧ Matches [] d q)
    (hp : Closes c q' p) : Says c cx construct role p outer e := by
  refine ⟨h.class_eq, fun scope hscope O w hfit => ?_⟩
  obtain ⟨contents, hcontents, hnone, hadds⟩ := h.completes
  have hscope' : (scope.enter e.tag.declared).Serves outer := h.declared ▸ hscope.enter_empty
  obtain ⟨d, hopening, hd⟩ := hopen _ hscope'
  have hd : Matches O d q := hd.grow (List.nil_subset O)
  have hbegin : Copies c cx O w (begin cx (scope.enter e.tag.declared) e.tag e.children role)
      fun O' o => ∃ d', o = .draft d' ∧
        Matches O' d' (q.addForeigns contents) := by
    unfold begin Copies
    rw [ends_bind, ends_lift, hopening]
    dsimp only
    split
    · exact (meetAll_copies hkeep hfit hd hcontents).bind fun d' O' w' _ hfit' hd' =>
        .of_pure hfit' ⟨d', rfl, hd'⟩
    · rename_i htakes
      rw [hnone (eq_false_of_ne_true fun hq => htakes ((hd.same hfit).2.trans hq))]
      exact Copies.of_pure hfit ⟨d, rfl, hd⟩
  unfold Reader.construct
  refine hbegin.bind fun o O' w' _ hfit' ho => ?_
  obtain ⟨d', rfl, hd'⟩ := ho
  exact (hadds _ hscope' O' w' d' hfit' hd').bind fun d'' O'' w'' _ hfit'' hd'' =>
    close_copies hfit'' hd'' hp

end Reader

end XmlSchema
