import XmlSchema.Proofs.Component.Substitution
import XmlSchema.Proofs.Document.Discipline
import XmlSchema.Proofs.Namespace.Scope

/-!
# Reading under a namespace that is taken on

One document is read twice: on its own, in no namespace, and on behalf of
another document, whose namespace it takes on.  The second reading can refer
to more prefixes than the first one.  Whatever the first reading leads to, the
second one leads to the same under the substitution.
-/

namespace XmlSchema

open Attempt

namespace Substitution

/-- The settings of a document on its own, and of the same document under the
namespace that it takes on. -/
structure Carries (σ : Substitution) (cx₀ cx : Context) : Prop where
  origin : cx₀.schema = σ.origin
  number : cx.schema = σ.number
  nameless : cx₀.key.namespaceName = ""
  namespaceName : cx.key.namespaceName = σ.namespaceName
  alone : cx₀.inherits = false
  inherits : cx.inherits = true
  elementForm₀ : cx₀.elementForm = σ.elementForm
  elementForm : cx.elementForm = σ.elementForm
  attributeForm₀ : cx₀.attributeForm = σ.attributeForm
  attributeForm : cx.attributeForm = σ.attributeForm
  policy : cx.policy = cx₀.policy

variable {σ : Substitution} {cx₀ cx : Context} {scope₀ scope : Scope}

section Names

theorem Carries.qualify (h : σ.Carries cx₀ cx) (localName : String) :
    cx.qualify localName = σ.name (cx₀.qualify localName) := by
  rw [Context.qualify, Context.qualify, h.nameless, h.namespaceName, name_trim]

theorem Carries.map_qualify (h : σ.Carries cx₀ cx) (text : Option String) :
    text.map cx.qualify = (text.map cx₀.qualify).map σ.name := by
  cases text with
  | none => rfl
  | some t => exact congrArg some (h.qualify t)

theorem Carries.resolve (h : σ.Carries cx₀ cx) (hscope : scope₀.Refines scope) {token : String}
    {n : QName} (hn : cx₀.resolve scope₀ token = .ok n) :
    cx.resolve scope token = .ok (σ.name n) := by
  unfold Context.resolve at hn ⊢
  dsimp only at hn ⊢
  split at hn
  · cases hn
  · rename_i uri huri
    rw [hscope _ _ huri]
    cases hn
    dsimp only
    rw [h.alone, h.inherits, Bool.and_false, Bool.and_true, if_neg Bool.false_ne_true]
    by_cases hempty : uri = ""
    · subst hempty
      rw [name_mk, ← h.namespaceName]
      rfl
    · rw [name_of_ne hempty, if_neg (by simp [hempty])]

theorem Carries.resolve? (h : σ.Carries cx₀ cx) (hscope : scope₀.Refines scope)
    {token : Option String} {n : Option QName} (hn : cx₀.resolve? scope₀ token = .ok n) :
    cx.resolve? scope token = .ok (n.map σ.name) := by
  cases token with
  | none =>
      cases hn
      rfl
  | some token =>
      cases hr : cx₀.resolve scope₀ token with
      | error e =>
          simp only [Context.resolve?, hr, Except.map] at hn
          cases hn
      | ok m =>
          simp only [Context.resolve?, hr, Except.map] at hn
          cases hn
          simp only [Context.resolve?, h.resolve hscope hr, Except.map, Option.map_some]

theorem Carries.resolveAll (h : σ.Carries cx₀ cx) (hscope : scope₀.Refines scope)
    {tokens : List String} {names : List QName}
    (hn : cx₀.resolveAll scope₀ tokens = .ok names) :
    cx.resolveAll scope tokens = .ok (names.map σ.name) := by
  induction tokens generalizing names with
  | nil =>
      cases hn
      rfl
  | cons token rest ih =>
      obtain ⟨n, hfirst, hn⟩ := bind_eq_ok_iff.1 hn
      obtain ⟨more, hrest, hn⟩ := bind_eq_ok_iff.1 hn
      cases hn
      unfold Context.resolveAll
      rw [h.resolve hscope hfirst, ih hrest]
      rfl

end Names

section Openings

variable {tag : Xml.Tag} {topLevel : Bool}

theorem Carries.declaredName (h : σ.Carries cx₀ cx) (hscope : scope₀.Refines scope)
    {form : Form} {naming : Option QName × Option QName}
    (hn : Role.declaredName cx₀ scope₀ tag topLevel form = .ok naming) :
    Role.declaredName cx scope tag topLevel form =
      .ok (σ.declaredName topLevel form naming.1, naming.2.map σ.name) := by
  unfold Role.declaredName at hn ⊢
  cases topLevel with
  | true =>
      cases hn
      simp [Substitution.declaredName, h.map_qualify]
  | false =>
      rw [if_neg Bool.false_ne_true] at hn ⊢
      cases href : tag.attribute? "ref" with
      | some token =>
          rw [href] at hn
          obtain ⟨target, htarget, hn⟩ := bind_eq_ok_iff.1 hn
          cases hn
          dsimp only
          rw [h.resolve hscope htarget]
          cases form <;> rfl
      | none =>
          rw [href] at hn
          cases hn
          cases form with
          | qualified => exact congrArg (fun n => Except.ok (n, none)) (h.map_qualify _)
          | unqualified => rfl

theorem Carries.declaredType (h : σ.Carries cx₀ cx) (hscope : scope₀.Refines scope)
    {slot : TypeSlot} (hslot : Role.declaredType cx₀ scope₀ tag = .ok slot) :
    Role.declaredType cx scope tag = .ok (σ.slot slot) := by
  unfold Role.declaredType at hslot ⊢
  cases htype : tag.attribute? "type" with
  | none =>
      rw [htype] at hslot
      cases hslot
      rfl
  | some token =>
      rw [htype] at hslot
      obtain ⟨n, hn, hslot⟩ := bind_eq_ok_iff.1 hslot
      cases hslot
      dsimp only
      rw [h.resolve hscope hn]
      rfl

theorem Carries.openElement (h : σ.Carries cx₀ cx) (hscope : scope₀.Refines scope)
    {e : ElementDecl} (he : Role.openElement cx₀ scope₀ tag topLevel = .ok e) :
    Role.openElement cx scope tag topLevel = .ok (σ.elementDecl e) := by
  obtain ⟨group, hgroup, he⟩ := bind_eq_ok_iff.1 he
  obtain ⟨naming, hnaming, he⟩ := bind_eq_ok_iff.1 he
  obtain ⟨slot, hslot, he⟩ := bind_eq_ok_iff.1 he
  cases he
  rw [h.elementForm₀, ← h.elementForm] at hnaming
  refine bind_eq_ok_iff.2 ⟨_, h.resolve? hscope hgroup, bind_eq_ok_iff.2
    ⟨_, h.declaredName hscope hnaming, bind_eq_ok_iff.2 ⟨_, h.declaredType hscope hslot, ?_⟩⟩⟩
  rw [h.elementForm]
  rfl

theorem Carries.openAttribute (h : σ.Carries cx₀ cx) (hscope : scope₀.Refines scope)
    {a : AttributeDecl} (ha : Role.openAttribute cx₀ scope₀ tag topLevel = .ok a) :
    Role.openAttribute cx scope tag topLevel = .ok (σ.attributeDecl a) := by
  obtain ⟨naming, hnaming, ha⟩ := bind_eq_ok_iff.1 ha
  obtain ⟨slot, hslot, ha⟩ := bind_eq_ok_iff.1 ha
  cases ha
  rw [h.attributeForm₀, ← h.attributeForm] at hnaming
  refine bind_eq_ok_iff.2
    ⟨_, h.declaredName hscope hnaming, bind_eq_ok_iff.2 ⟨_, h.declaredType hscope hslot, ?_⟩⟩
  rw [h.attributeForm]
  rfl

theorem Carries.constraintKind (h : σ.Carries cx₀ cx) (hscope : scope₀.Refines scope)
    {construct : Construct} {kind : ConstraintKind}
    (hkind : Role.constraintKind cx₀ scope₀ tag construct = .ok kind) :
    Role.constraintKind cx scope tag construct = .ok (σ.constraintKind kind) := by
  cases construct with
  | keyref =>
      obtain ⟨refer, hrefer, hkind⟩ := bind_eq_ok_iff.1 hkind
      cases hkind
      exact bind_eq_ok_iff.2 ⟨_, h.resolve hscope hrefer, rfl⟩
  | _ =>
      cases hkind
      rfl

/-- A construct that begins on its own begins likewise under the namespace. -/
theorem Carries.opening (h : σ.Carries cx₀ cx) (hscope : scope₀.Refines scope)
    {kids : List Xml.Node} {role : Role} {o : Opening}
    (ho : role.opening cx₀ scope₀ tag kids = .ok o) :
    role.opening cx scope tag kids = .ok (σ.opening o) := by
  match role, ho with
  | .note, ho | .simpleContent, ho | .complexContent, ho | .compositor _, ho | .any, ho
  | .anyAttribute, ho | .selector, ho | .field, ho | .facet _, ho =>
      cases ho
      rfl
  | .remark audience, ho =>
      cases audience <;>
        · cases ho
          rfl
  | .simpleType named, ho | .complexType named, ho =>
      cases ho
      cases named with
      | false => rfl
      | true =>
          simp only [Role.opening, if_true, h.map_qualify]
          rfl
  | .group, ho | .attributeGroup, ho | .notationDecl, ho =>
      cases ho
      simp only [Role.opening, if_true, h.map_qualify]
      rfl
  | .restriction, ho | .list, ho | .derivation _, ho =>
      obtain ⟨n, hn, ho⟩ := bind_eq_ok_iff.1 ho
      cases ho
      exact bind_eq_ok_iff.2 ⟨_, h.resolve? hscope hn, rfl⟩
  | .union, ho =>
      obtain ⟨names, hnames, ho⟩ := bind_eq_ok_iff.1 ho
      cases ho
      exact bind_eq_ok_iff.2 ⟨_, h.resolveAll hscope hnames, rfl⟩
  | .groupRef, ho | .attributeGroupRef, ho =>
      simp only [Role.opening] at ho ⊢
      split at ho
      · rename_i href
        cases ho
        rfl
      · rename_i token href
        obtain ⟨target, htarget, ho⟩ := bind_eq_ok_iff.1 ho
        cases ho
        exact bind_eq_ok_iff.2 ⟨_, h.resolve hscope htarget, rfl⟩
  | .element topLevel, ho =>
      obtain ⟨e, he, ho⟩ := bind_eq_ok_iff.1 ho
      cases ho
      exact bind_eq_ok_iff.2 ⟨_, h.openElement hscope he, rfl⟩
  | .attribute topLevel, ho =>
      obtain ⟨a, ha, ho⟩ := bind_eq_ok_iff.1 ho
      cases ho
      exact bind_eq_ok_iff.2 ⟨_, h.openAttribute hscope ha, rfl⟩
  | .constraint construct, ho =>
      obtain ⟨kind, hkind, ho⟩ := bind_eq_ok_iff.1 ho
      cases ho
      refine bind_eq_ok_iff.2 ⟨_, h.constraintKind hscope hkind, ?_⟩
      rw [h.qualify]
      rfl

end Openings

section Reading

/-- The components read under the namespace are those read without it, types
aside that have been found. -/
def Matches (σ : Substitution) (cs₀ cs : Components) : Prop :=
  ∀ kind, (cs.ofKind kind).map kind.unresolved = (cs₀.ofKind kind).map (σ.component kind)

variable {cs₀ cs : Components} {w₀ w₀' w : Workbench}

theorem Matches.count_eq (h : σ.Matches cs₀ cs) (kind : ComponentKind) :
    cs.count kind = cs₀.count kind := by
  simpa [Components.count] using congrArg Array.size (h kind)

theorem Matches.push (h : σ.Matches cs₀ cs) (kind : ComponentKind) (x : kind.Component) :
    σ.Matches (cs₀.push kind x) (cs.push kind (σ.component kind x)) := by
  intro other
  by_cases hkind : other = kind
  · subst hkind
    rw [Components.ofKind_push, Components.ofKind_push, Array.map_push, Array.map_push, h other,
      unresolved_component]
  · rw [Components.ofKind_push_of_ne _ _ hkind, Components.ofKind_push_of_ne _ _ hkind, h other]

/-- A component that a draft becomes, under the substitution. -/
theorem owned?_draft (d : Draft) :
    (σ.draft d).owned? = d.owned?.map fun x => ⟨x.1, σ.component x.1 x.2⟩ := by
  cases d with
  | complexType t c direct model => cases model <;> rfl
  | _ => rfl

theorem Matches.closed (h : σ.Matches cs₀ cs) (d : Draft) :
    σ.Matches (d.closed cs₀) ((σ.draft d).closed cs) := by
  unfold Draft.closed
  rw [owned?_draft]
  cases d.owned? with
  | none => exact h
  | some x => exact h.push x.1 x.2

theorem Matches.toPart (h : σ.Matches cs₀ cs) (hcx : σ.Carries cx₀ cx) (d : Draft) :
    (σ.draft d).toPart cx.schema cs = σ.part (d.toPart cx₀.schema cs₀) := by
  have hid : ∀ kind : ComponentKind,
      (⟨cx.schema, cs.count kind⟩ : ComponentId kind) = σ.identity ⟨cx₀.schema, cs₀.count kind⟩ := by
    intro kind
    rw [hcx.origin, hcx.number, identity_origin, h.count_eq]
  cases d with
  | simpleType | complexType | group | attributeGroup | notationDecl =>
      simp only [draft, Draft.toPart, part, ref, hid]
  | element o e =>
      simp only [draft, Draft.toPart, elementDecl, hid]
      split <;> simp [part, ref, particle]
  | «attribute» a =>
      simp only [draft, Draft.toPart, attributeDecl, hid]
      split <;> simp [part, ref, attributeItem]
  | compositor o c common particles => simp [draft, Draft.toPart, part, particle_model]
  | groupRef o r => simp [draft, Draft.toPart, part, particle]
  | any o w => simp [draft, Draft.toPart, part, particle]
  | _ => rfl

/-- What a step of the second reading leads to: the outcome of the first one
under the substitution. -/
def Follows {α : Type} (σ : Substitution) (f : α → α) (m₀ m : Attempt Workbench α) : Prop :=
  ∀ w₀ w₀' w a, σ.Matches w₀.components w.components → exec m₀ w₀ = (.ok a, w₀') →
    ∃ w', exec m w = (.ok (f a), w') ∧ σ.Matches w₀'.components w'.components

namespace Follows

variable {α β : Type} {f : α → α} {g : β → β}

theorem pure (a : α) : σ.Follows f (Pure.pure a) (Pure.pure (f a)) := by
  intro w₀ w₀' w b hw hb
  rw [exec_pure] at hb
  cases hb
  exact ⟨w, exec_pure _ _, hw⟩

theorem bind {m₀ m : Attempt Workbench α} {k₀ k : α → Attempt Workbench β}
    (h : σ.Follows f m₀ m) (hk : ∀ a, σ.Follows g (k₀ a) (k (f a))) :
    σ.Follows g (m₀ >>= k₀) (m >>= k) := by
  intro w₀ w₀'' w b hw hb
  rw [exec_bind] at hb
  rcases hm₀ : exec m₀ w₀ with ⟨e | a, w₀'⟩
  · rw [hm₀] at hb
    cases hb
  · rw [hm₀] at hb
    obtain ⟨w', hm, hw'⟩ := h w₀ w₀' w a hw hm₀
    obtain ⟨w'', hk', hw''⟩ := hk a w₀' w₀'' w' b hw' hb
    refine ⟨w'', ?_, hw''⟩
    rw [exec_bind, hm]
    exact hk'

theorem lift {x₀ x : Except SchemaError α} (h : ∀ a, x₀ = .ok a → x = .ok (f a)) :
    σ.Follows f (liftM x₀ : Attempt Workbench α) (liftM x) := by
  intro w₀ w₀' w a hw ha
  rw [exec_lift] at ha
  cases ha
  exact ⟨w, by rw [exec_lift, h a rfl], hw⟩

end Follows

open Reader

theorem Carries.meet (h : σ.Carries cx₀ cx) (content : ForeignContent) (d : Draft) :
    σ.Follows σ.draft (meet cx₀ content d) (meet cx content (σ.draft d)) := by
  have hadd : σ.draft (d.addForeign content) = (σ.draft d).addForeign content :=
    draft_mapCommon _ d
  intro w₀ w₀' w d' hw hd'
  unfold Reader.meet at hd' ⊢
  rw [h.policy]
  cases hpolicy : cx₀.policy <;> rw [hpolicy] at hd' <;> cases hd'
  · exact ⟨{ w with met := w.met ++ [content] }, congrArg (fun d => (Except.ok d, _)) hadd.symm, hw⟩
  · exact ⟨{ w with met := w.met ++ [content] }, rfl, hw⟩

theorem Carries.meetAll (h : σ.Carries cx₀ cx) (contents : List ForeignContent) (d : Draft) :
    σ.Follows σ.draft (meetAll cx₀ contents d) (meetAll cx contents (σ.draft d)) := by
  induction contents generalizing d with
  | nil => exact .pure d
  | cons content rest ih => exact (h.meet content d).bind fun d => ih d

theorem Carries.begin (h : σ.Carries cx₀ cx) (hscope : scope₀.Refines scope) (tag : Xml.Tag)
    (kids : List Xml.Node) (role : Role) :
    σ.Follows σ.opening (begin cx₀ scope₀ tag kids role) (begin cx scope tag kids role) := by
  refine Follows.bind (.lift fun o ho => h.opening hscope ho) fun o => ?_
  cases o with
  | part p => exact .pure (Opening.part p)
  | draft d =>
      dsimp only [Substitution.opening]
      rw [takesForeign_draft]
      split
      · exact (h.meetAll _ d).bind fun d => .pure (Opening.draft d)
      · exact .pure (Opening.draft d)

theorem Carries.close (h : σ.Carries cx₀ cx) (d : Draft) :
    σ.Follows σ.part (close cx₀ d) (close cx (σ.draft d)) := by
  intro w₀ w₀' w p hw hp
  rw [exec_close] at hp
  cases hp
  refine ⟨_, by rw [exec_close, hw.toPart h], ?_⟩
  rw [components_afterClose, components_afterClose]
  exact hw.closed d

mutual

theorem Carries.child (h : σ.Carries cx₀ cx) {scope₀ scope : Scope}
    (hscope : scope₀.Refines scope) (d : Draft) :
    ∀ node : Xml.Node,
      σ.Follows σ.draft (child cx₀ scope₀ d node) (child cx scope (σ.draft d) node)
  | .text _ => by
      unfold Reader.child
      exact .pure d
  | .comment _ => by
      unfold Reader.child
      exact .pure d
  | .element tag kids => by
      unfold Reader.child
      rw [takesForeign_draft]
      cases ChildClass.of tag.name with
      | unknown => exact .pure d
      | foreign =>
          dsimp only
          split
          · exact h.meet _ d
          · exact .pure d
      | known construct =>
          dsimp only
          rw [role?_draft]
          cases d.role? construct with
          | none => exact .pure d
          | some role =>
              refine Follows.bind (h.begin (hscope.enter _) tag kids role) fun o => ?_
              cases o with
              | part p =>
                  dsimp only [Substitution.opening]
                  rw [← draft_adopt]
                  exact .pure _
              | draft nested =>
                  refine Follows.bind (children h (hscope.enter _) nested kids) fun nested => ?_
                  refine Follows.bind (h.close nested) fun p => ?_
                  rw [← draft_adopt]
                  exact .pure _

theorem Carries.children (h : σ.Carries cx₀ cx) {scope₀ scope : Scope}
    (hscope : scope₀.Refines scope) (d : Draft) :
    ∀ nodes : List Xml.Node,
      σ.Follows σ.draft (children cx₀ scope₀ d nodes) (children cx scope (σ.draft d) nodes)
  | [] => by
      unfold Reader.children
      exact .pure d
  | node :: rest => by
      unfold Reader.children
      exact Follows.bind (child h hscope d node) fun d => children h hscope d rest

end

/-- Reading a construct under the namespace follows reading it without. -/
theorem Carries.construct (h : σ.Carries cx₀ cx) (hscope : scope₀.Refines scope) (role : Role)
    (e : Xml.Element) :
    σ.Follows σ.part (construct cx₀ scope₀ role e) (construct cx scope role e) := by
  refine Follows.bind (h.begin (hscope.enter _) e.tag e.children role) fun o => ?_
  cases o with
  | part p => exact .pure p
  | draft d =>
      exact Follows.bind (h.children (hscope.enter _) d e.children) fun d => h.close d

end Reading

end Substitution

end XmlSchema
