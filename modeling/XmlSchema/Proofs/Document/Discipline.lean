import Mathlib.Logic.Relation
import XmlSchema.Proofs.Document.Closing

/-!
# What every reading guarantees

All constructs are read by one walk.  A discipline says what holds of a draft
when it is opened, while it is completed, of the part it amounts to and of the
components that are owned on the way; when beginning, completing and closing a
single draft keep to it, so does the whole walk.

Reading changes a workbench step by step.  When every component that is owned
on the way has some property, the reading supplies components with that
property, whether it succeeds or fails.
-/

namespace XmlSchema

open Attempt

namespace Xml.Node

mutual

/-- Every construct of the schema language that can be read in a node has a
property.  Foreign elements and remarks are not looked into. -/
def Every (P : Tag → Prop) : Node → Prop
  | .text _ => True
  | .comment _ => True
  | .element tag kids =>
      match ChildClass.of tag.name with
      | .unknown => True
      | .foreign => True
      | .known (.remark _) => P tag
      | .known _ => P tag ∧ EveryIn P kids

/-- Every construct that can be read in some nodes has a property. -/
def EveryIn (P : Tag → Prop) : List Node → Prop
  | [] => True
  | node :: rest => Every P node ∧ EveryIn P rest

end

mutual

theorem Every.mono {P Q : Tag → Prop} (h : ∀ t, P t → Q t) :
    ∀ {node : Node}, node.Every P → node.Every Q
  | .text _, _ => by
      unfold Every
      trivial
  | .comment _, _ => by
      unfold Every
      trivial
  | .element tag kids, hn => by
      unfold Every at hn ⊢
      split
      · trivial
      · trivial
      · rename_i hc
        rw [hc] at hn
        exact h tag hn
      · rename_i construct hremark hc
        rw [hc] at hn
        have hn : P tag ∧ EveryIn P kids := by
          cases construct <;> first | exact hn | exact absurd rfl (hremark _)
        exact ⟨h tag hn.1, EveryIn.mono h hn.2⟩

theorem EveryIn.mono {P Q : Tag → Prop} (h : ∀ t, P t → Q t) :
    ∀ {nodes : List Node}, EveryIn P nodes → EveryIn Q nodes
  | [], _ => by
      unfold EveryIn
      trivial
  | _ :: _, hn => by
      unfold EveryIn at hn ⊢
      exact ⟨Every.mono h hn.1, EveryIn.mono h hn.2⟩

end

mutual

theorem every_of_forall {P : Tag → Prop} (h : ∀ t, P t) : ∀ node : Node, node.Every P
  | .text _ => by
      unfold Every
      trivial
  | .comment _ => by
      unfold Every
      trivial
  | .element tag kids => by
      unfold Every
      split
      · trivial
      · trivial
      · exact h tag
      · exact ⟨h tag, everyIn_of_forall h kids⟩

theorem everyIn_of_forall {P : Tag → Prop} (h : ∀ t, P t) : ∀ nodes : List Node, EveryIn P nodes
  | [] => by
      unfold EveryIn
      trivial
  | node :: rest => by
      unfold EveryIn
      exact ⟨every_of_forall h node, everyIn_of_forall h rest⟩

end

theorem EveryIn.of_mem {P : Tag → Prop} {node : Node} {nodes : List Node}
    (h : EveryIn P nodes) (hmem : node ∈ nodes) : node.Every P := by
  induction nodes with
  | nil => cases hmem
  | cons n rest ih =>
      unfold EveryIn at h
      rcases List.mem_cons.1 hmem with rfl | hmem
      · exact h.1
      · exact ih h.2 hmem

end Xml.Node

/-- One change of a workbench: a component is owned, or foreign content met. -/
inductive Workbench.Step (schema : Nat)
    (ok : Components → (kind : ComponentKind) → kind.Component → Prop) :
    Workbench → Workbench → Prop
  | own (w : Workbench) (kind : ComponentKind) (x : kind.Component)
      (h : ok w.components kind x) : Step schema ok w (w.allocate schema kind x).2
  | meet (w : Workbench) (content : ForeignContent) :
      Step schema ok w { w with met := w.met ++ [content] }

/-- Changes of a workbench one after the other. -/
abbrev Workbench.Run (schema : Nat)
    (ok : Components → (kind : ComponentKind) → kind.Component → Prop) :
    Workbench → Workbench → Prop :=
  Relation.ReflTransGen (Workbench.Step schema ok)

namespace Workbench

variable {schema : Nat} {ok : Components → (kind : ComponentKind) → kind.Component → Prop}

theorem Run.mono {ok' : Components → (kind : ComponentKind) → kind.Component → Prop}
    (h : ∀ cs kind x, ok cs kind x → ok' cs kind x) {w w' : Workbench}
    (hrun : Run schema ok w w') : Run schema ok' w w' := by
  refine hrun.lift id fun w w' step => ?_
  cases step with
  | own kind x hx => exact .own w kind x (h _ kind x hx)
  | meet content => exact .meet w content

/-- Every component of a table was there at the start or has been owned when it
was the next one. -/
theorem Run.origin {w w' : Workbench} (h : Run schema ok w w') {kind : ComponentKind} {i : Nat}
    {x : kind.Component} (hx : (w'.components.ofKind kind)[i]? = some x) :
    (w.components.ofKind kind)[i]? = some x ∨
      ∃ cs, ok cs kind x ∧ cs.count kind = i ∧ cs.Extends w'.components := by
  induction h with
  | refl => exact .inl hx
  | @tail b b' _ step ih =>
      cases step with
      | own kind' x' hok =>
          rw [components_allocate] at hx ⊢
          have hpush := Components.Extends.push b.components kind' x'
          have hrest : (b.components.ofKind kind)[i]? = some x →
              (w.components.ofKind kind)[i]? = some x ∨
                ∃ cs, ok cs kind x ∧ cs.count kind = i ∧
                  cs.Extends (b.components.push kind' x') := by
            intro hx
            rcases ih hx with hx | ⟨cs, hcs, hcount, hextends⟩
            · exact .inl hx
            · exact .inr ⟨cs, hcs, hcount, hextends.trans hpush⟩
          by_cases hkind : kind = kind'
          · subst hkind
            rw [Components.ofKind_push, Array.getElem?_push] at hx
            split at hx
            · rename_i hi
              cases hx
              exact .inr ⟨_, hok, hi.symm, hpush⟩
            · exact hrest hx
          · rw [Components.ofKind_push_of_ne _ _ hkind] at hx
            exact hrest hx
      | meet content => exact ih hx

theorem Run.extends {w w' : Workbench} (h : Run schema ok w w') :
    w.components.Extends w'.components := by
  induction h with
  | refl => exact Components.Extends.refl _
  | tail _ step ih =>
      refine ih.trans ?_
      cases step with
      | own kind x _ =>
          rw [components_allocate]
          exact Components.Extends.push _ kind x
      | meet content => exact Components.Extends.refl _

end Workbench

namespace Reader

/-- What reading the document of a context guarantees.  A draft belongs to the
part it plays; one that plays none refers to another document. -/
structure Discipline (cx : Context) where
  tag : Xml.Tag → Prop
  component : Components → (kind : ComponentKind) → kind.Component → Prop
  opened : Option Role → Draft → Prop
  draft : Components → Option Role → Draft → Prop
  part : Components → Role → Part → Prop
  draft_of_opened : ∀ {cs role d}, opened role d → draft cs role d
  draft_extends : ∀ {cs later role d}, cs.Extends later → draft cs role d → draft later role d
  part_extends : ∀ {cs later role p}, cs.Extends later → part cs role p → part later role p
  opening_draft : ∀ {scope t kids role d}, tag t →
    role.opening cx scope t kids = .ok (.draft d) → opened (some role) d
  opening_part : ∀ {cs scope t kids role p}, tag t →
    role.opening cx scope t kids = .ok (.part p) → part cs role p
  foreign_attribute : ∀ {t role d content}, tag t → content ∈ foreignAttributes t →
    opened role d → d.takesForeign → opened role (d.addForeign content)
  foreign_element : ∀ {cs t kids role d}, ChildClass.of t.name = .foreign →
    draft cs role d → d.takesForeign → draft cs role (d.addForeign (foreignElement t kids))
  adopt : ∀ {cs role d construct inner p}, draft cs role d → d.role? construct = some inner →
    part cs inner p → draft cs role (d.adopt p)
  close_component : ∀ {cs role d x}, draft cs (some role) d → d.owned? = some x →
    component cs x.1 x.2
  close_part : ∀ {cs role d}, draft cs (some role) d →
    part (d.closed cs) role (d.toPart cx.schema cs)

/-- What reading can fail with: a prefix without a meaning. -/
def Refuses (cx : Context) (e : SchemaError) : Prop :=
  ∃ pfx token, e = .unboundPrefix pfx token cx.key

section Refusals

variable {cx : Context} {scope : Scope} {e : SchemaError}

theorem resolve_refuses {token : String} (h : cx.resolve scope token = .error e) :
    Refuses cx e := by
  unfold Context.resolve at h
  dsimp only at h
  split at h
  · cases h
    exact ⟨_, _, rfl⟩
  · cases h

theorem resolve?_refuses {token : Option String} (h : cx.resolve? scope token = .error e) :
    Refuses cx e := by
  cases token with
  | none => cases h
  | some token =>
      cases hr : cx.resolve scope token with
      | error e' =>
          simp only [Context.resolve?, hr, Except.map] at h
          cases h
          exact resolve_refuses hr
      | ok name =>
          simp only [Context.resolve?, hr, Except.map] at h
          cases h

theorem resolveAll_refuses {tokens : List String} (h : cx.resolveAll scope tokens = .error e) :
    Refuses cx e := by
  induction tokens with
  | nil => cases h
  | cons token rest ih =>
      rcases bind_eq_error_iff.1 h with h | ⟨name, -, h⟩
      · exact resolve_refuses h
      · rcases bind_eq_error_iff.1 h with h | ⟨names, -, h⟩
        · exact ih h
        · cases h

theorem declaredName_refuses {tag : Xml.Tag} {topLevel : Bool} {form : Form}
    (h : Role.declaredName cx scope tag topLevel form = .error e) : Refuses cx e := by
  unfold Role.declaredName at h
  split at h
  · cases h
  · split at h
    · rcases bind_eq_error_iff.1 h with h | ⟨target, -, h⟩
      · exact resolve_refuses h
      · cases h
    · cases h

theorem declaredType_refuses {tag : Xml.Tag} (h : Role.declaredType cx scope tag = .error e) :
    Refuses cx e := by
  unfold Role.declaredType at h
  split at h
  · cases h
  · rcases bind_eq_error_iff.1 h with h | ⟨name, -, h⟩
    · exact resolve_refuses h
    · cases h

theorem openElement_refuses {tag : Xml.Tag} {topLevel : Bool}
    (h : Role.openElement cx scope tag topLevel = .error e) : Refuses cx e := by
  rcases bind_eq_error_iff.1 h with h | ⟨group, -, h⟩
  · exact resolve?_refuses h
  · rcases bind_eq_error_iff.1 h with h | ⟨naming, -, h⟩
    · exact declaredName_refuses h
    · rcases bind_eq_error_iff.1 h with h | ⟨type, -, h⟩
      · exact declaredType_refuses h
      · cases h

theorem openAttribute_refuses {tag : Xml.Tag} {topLevel : Bool}
    (h : Role.openAttribute cx scope tag topLevel = .error e) : Refuses cx e := by
  rcases bind_eq_error_iff.1 h with h | ⟨naming, -, h⟩
  · exact declaredName_refuses h
  · rcases bind_eq_error_iff.1 h with h | ⟨type, -, h⟩
    · exact declaredType_refuses h
    · cases h

theorem constraintKind_refuses {tag : Xml.Tag} {construct : Construct}
    (h : Role.constraintKind cx scope tag construct = .error e) : Refuses cx e := by
  unfold Role.constraintKind at h
  split at h
  · rcases bind_eq_error_iff.1 h with h | ⟨refer, -, h⟩
    · exact resolve_refuses h
    · cases h
  · cases h
  · cases h

theorem opening_refuses {tag : Xml.Tag} {kids : List Xml.Node} {role : Role}
    (h : role.opening cx scope tag kids = .error e) : Refuses cx e := by
  match role, h with
  | .restriction, h | .list, h | .derivation _, h =>
      rcases bind_eq_error_iff.1 h with h | ⟨name, -, h⟩
      · exact resolve?_refuses h
      · cases h
  | .union, h =>
      rcases bind_eq_error_iff.1 h with h | ⟨names, -, h⟩
      · exact resolveAll_refuses h
      · cases h
  | .groupRef, h | .attributeGroupRef, h =>
      simp only [Role.opening] at h
      split at h
      · cases h
      · rcases bind_eq_error_iff.1 h with h | ⟨name, -, h⟩
        · exact resolve_refuses h
        · cases h
  | .element topLevel, h =>
      rcases bind_eq_error_iff.1 h with h | ⟨x, -, h⟩
      · exact openElement_refuses h
      · cases h
  | .attribute topLevel, h =>
      rcases bind_eq_error_iff.1 h with h | ⟨x, -, h⟩
      · exact openAttribute_refuses h
      · cases h
  | .constraint construct, h =>
      rcases bind_eq_error_iff.1 h with h | ⟨kind, -, h⟩
      · exact constraintKind_refuses h
      · cases h
  | .remark audience, h => cases audience <;> cases h

end Refusals

namespace Discipline

variable {cx : Context} (D : Discipline cx)

theorem meet_ends {w : Workbench} {d : Draft} (content : ForeignContent) {P : Draft → Prop}
    (hd : P d) (hadd : P (d.addForeign content)) :
    Ends (meet cx content d) w
      (fun d' w' => w'.components = w.components ∧ P d' ∧
        Workbench.Run cx.schema D.component w w')
      (fun _ _ => False) := by
  unfold meet
  rw [ends_bind, ends_modify, ends_pure]
  refine ⟨rfl, ?_, .single (.meet w content)⟩
  cases cx.policy with
  | keep => exact hadd
  | drop => exact hd

theorem meetAll_ends {w : Workbench} {role : Option Role} {d : Draft}
    {contents : List ForeignContent} (hd : D.opened role d)
    (hadd : ∀ content ∈ contents, ∀ d, D.opened role d → d.takesForeign →
      D.opened role (d.addForeign content)) (htakes : d.takesForeign) :
    Ends (meetAll cx contents d) w
      (fun d' w' => w'.components = w.components ∧ D.opened role d' ∧
        Workbench.Run cx.schema D.component w w')
      (fun _ _ => False) := by
  induction contents generalizing w d with
  | nil => exact ⟨rfl, hd, .refl⟩
  | cons content rest ih =>
      have hstays : ∀ d : Draft, d.takesForeign → (d.addForeign content).takesForeign := by
        intro d
        cases d <;> exact id
      refine Ends.bind (D.meet_ends content
        (P := fun d => D.opened role d ∧ d.takesForeign) ⟨hd, htakes⟩
        ⟨hadd content List.mem_cons_self d hd htakes, hstays d htakes⟩) ?_
      rintro d' w' ⟨hcs, ⟨hd', htakes'⟩, hrun⟩
      refine (ih hd' (fun c hc => hadd c (List.mem_cons_of_mem _ hc)) htakes').mono ?_
        fun _ _ h => h
      rintro d'' w'' ⟨hcs', hd'', hrun'⟩
      exact ⟨hcs'.trans hcs, hd'', hrun.trans hrun'⟩

/-- What the beginning of a construct leaves behind. -/
def Begun (w : Workbench) (scope : Scope) (t : Xml.Tag) (kids : List Xml.Node) (role : Role)
    (o : Opening) (w' : Workbench) : Prop :=
  w'.components = w.components ∧ Workbench.Run cx.schema D.component w w' ∧
    match o with
    | .draft d =>
        D.opened (some role) d ∧ ∃ d₀, role.opening cx scope t kids = .ok (.draft d₀)
    | .part p => D.part w.components role p

theorem begin_ends {w : Workbench} {scope : Scope} {t : Xml.Tag} {kids : List Xml.Node}
    {role : Role} (ht : D.tag t) :
    Ends (begin cx scope t kids role) w (D.Begun w scope t kids role)
      (fun e w' => w' = w ∧ Refuses cx e) := by
  unfold begin
  rw [ends_bind, ends_lift]
  cases ho : role.opening cx scope t kids with
  | error e => exact ⟨rfl, opening_refuses ho⟩
  | ok o =>
      cases o with
      | part p => exact ⟨rfl, .refl, D.opening_part ht ho⟩
      | draft d =>
          have hd : D.opened (some role) d := D.opening_draft ht ho
          dsimp only
          split
          · rename_i htakes
            rw [ends_bind]
            refine (D.meetAll_ends hd (fun c hc _ => D.foreign_attribute ht hc) htakes).mono ?_
              fun _ _ h => h.elim
            rintro d' w' ⟨hcs, hd', hrun⟩
            exact ⟨hcs, hrun, hd', d, ho⟩
          · exact ⟨rfl, .refl, hd, d, ho⟩

/-- What reading on leaves behind: the draft keeps to the discipline. -/
def Keeps (w : Workbench) (role : Option Role) (d : Draft) (w' : Workbench) : Prop :=
  Workbench.Run cx.schema D.component w w' ∧ D.draft w'.components role d

/-- What a failed reading leaves behind. -/
def Fails (w : Workbench) (e : SchemaError) (w' : Workbench) : Prop :=
  Workbench.Run cx.schema D.component w w' ∧ Refuses cx e

theorem close_ends {w : Workbench} {role : Role} {d : Draft}
    (hd : D.draft w.components (some role) d) :
    Ends (Reader.close cx d) w
      (fun p w' => Workbench.Run cx.schema D.component w w' ∧ D.part w'.components role p)
      (fun _ _ => False) := by
  unfold Ends
  rw [exec_close]
  refine ⟨?_, ?_⟩
  · unfold afterClose
    split
    · exact .refl
    · rename_i x hx
      exact .single (.own w x.1 x.2 (D.close_component hd hx))
  · rw [components_afterClose]
    exact D.close_part hd

theorem Keeps.trans {w₁ w₂ w₃ : Workbench} {role : Option Role} {d₂ d₃ : Draft}
    (h₁₂ : D.Keeps w₁ role d₂ w₂) (h₂₃ : D.Keeps w₂ role d₃ w₃) : D.Keeps w₁ role d₃ w₃ :=
  ⟨h₁₂.1.trans h₂₃.1, h₂₃.2⟩

theorem Fails.after {w₁ w₂ w₃ : Workbench} {e : SchemaError}
    (h₁₂ : Workbench.Run cx.schema D.component w₁ w₂) (h₂₃ : D.Fails w₂ e w₃) :
    D.Fails w₁ e w₃ :=
  ⟨h₁₂.trans h₂₃.1, h₂₃.2⟩

/-- A remark is read at once. -/
theorem opening_remark {d : Draft} {audience : Audience} {inner : Role} {scope : Scope}
    {t : Xml.Tag} {kids : List Xml.Node} {nested : Draft}
    (hr : d.role? (.remark audience) = some inner) :
    inner.opening cx scope t kids ≠ .ok (.draft nested) := by
  have hinner : inner = .remark audience := by
    cases d <;> simp [Draft.role?, Role.ofRedefinition?, Role.ofContent?] at hr
    exact hr.symm
  subst hinner
  cases audience <;> simp [Role.opening]

mutual

theorem child_ends {w : Workbench} {scope : Scope} {role : Option Role} {d : Draft} :
    ∀ {node : Xml.Node}, node.Every D.tag → D.draft w.components role d →
      Ends (child cx scope d node) w (D.Keeps w role) (D.Fails w)
  | .text _, _, hd => by
      unfold child
      exact ⟨.refl, hd⟩
  | .comment _, _, hd => by
      unfold child
      exact ⟨.refl, hd⟩
  | .element tag kids, hn, hd => by
      unfold child
      unfold Xml.Node.Every at hn
      cases hc : ChildClass.of tag.name with
      | unknown => exact ⟨.refl, hd⟩
      | foreign =>
          dsimp only
          split
          · rename_i htakes
            refine (D.meet_ends (P := D.draft w.components role) _ hd
              (D.foreign_element hc hd htakes)).mono ?_ fun _ _ h => h.elim
            rintro d' w' ⟨hcs, hd', hrun⟩
            refine ⟨hrun, ?_⟩
            rw [hcs]
            exact hd'
          · exact ⟨.refl, hd⟩
      | known construct =>
          rw [hc] at hn
          dsimp only
          cases hr : d.role? construct with
          | none => exact ⟨.refl, hd⟩
          | some inner =>
              have htag : D.tag tag := by
                cases construct <;> first | exact hn | exact hn.1
              refine Ends.bind ((D.begin_ends htag).mono (fun _ _ h => h) ?_) ?_
              · rintro e w' ⟨rfl, he⟩
                exact ⟨.refl, he⟩
              rintro o w₁ ⟨hcs, hrun, ho⟩
              cases o with
              | part p =>
                  refine ⟨hrun, ?_⟩
                  rw [hcs]
                  exact D.adopt hd hr ho
              | draft nested =>
                  obtain ⟨hnested, d₀, hd₀⟩ := ho
                  have hkids : Xml.Node.EveryIn D.tag kids := by
                    cases construct <;>
                      first
                      | exact absurd hd₀ (opening_remark hr)
                      | exact hn.2
                  refine Ends.bind ((children_ends hkids (D.draft_of_opened hnested)).mono
                    (fun _ _ h => h) fun _ _ h => .after D hrun h) ?_
                  rintro nested' w₂ ⟨hrun₂, hnested'⟩
                  refine Ends.bind ((D.close_ends hnested').mono (fun _ _ h => h)
                    fun _ _ h => h.elim) ?_
                  rintro p w₃ ⟨hrun₃, hp⟩
                  have hall : Workbench.Run cx.schema D.component w w₃ :=
                    (hrun.trans hrun₂).trans hrun₃
                  exact ⟨hall, D.adopt (D.draft_extends hall.extends hd) hr hp⟩

theorem children_ends {w : Workbench} {scope : Scope} {role : Option Role} {d : Draft} :
    ∀ {nodes : List Xml.Node}, Xml.Node.EveryIn D.tag nodes → D.draft w.components role d →
      Ends (children cx scope d nodes) w (D.Keeps w role) (D.Fails w)
  | [], _, hd => by
      unfold children
      exact ⟨.refl, hd⟩
  | node :: rest, hn, hd => by
      unfold children
      unfold Xml.Node.EveryIn at hn
      refine Ends.bind (child_ends hn.1 hd) ?_
      rintro d₁ w₁ ⟨hrun, hd₁⟩
      refine (children_ends hn.2 hd₁).mono ?_ fun e w₂ h => .after D hrun h
      exact fun d₂ w₂ h => .trans D ⟨hrun, hd₁⟩ h

end

/-- Two disciplines kept to together. -/
def and (D D' : Discipline cx) : Discipline cx where
  tag t := D.tag t ∧ D'.tag t
  component cs kind x := D.component cs kind x ∧ D'.component cs kind x
  opened role d := D.opened role d ∧ D'.opened role d
  draft cs role d := D.draft cs role d ∧ D'.draft cs role d
  part cs role p := D.part cs role p ∧ D'.part cs role p
  draft_of_opened h := ⟨D.draft_of_opened h.1, D'.draft_of_opened h.2⟩
  draft_extends hcs h := ⟨D.draft_extends hcs h.1, D'.draft_extends hcs h.2⟩
  part_extends hcs h := ⟨D.part_extends hcs h.1, D'.part_extends hcs h.2⟩
  opening_draft ht ho := ⟨D.opening_draft ht.1 ho, D'.opening_draft ht.2 ho⟩
  opening_part ht ho := ⟨D.opening_part ht.1 ho, D'.opening_part ht.2 ho⟩
  foreign_attribute ht hc hd htakes :=
    ⟨D.foreign_attribute ht.1 hc hd.1 htakes, D'.foreign_attribute ht.2 hc hd.2 htakes⟩
  foreign_element hc hd htakes :=
    ⟨D.foreign_element hc hd.1 htakes, D'.foreign_element hc hd.2 htakes⟩
  adopt hd hr hp := ⟨D.adopt hd.1 hr hp.1, D'.adopt hd.2 hr hp.2⟩
  close_component hd hx := ⟨D.close_component hd.1 hx, D'.close_component hd.2 hx⟩
  close_part hd := ⟨D.close_part hd.1, D'.close_part hd.2⟩

/-- Reading one construct keeps to the discipline. -/
theorem construct_ends {w : Workbench} {scope : Scope} {role : Role} {e : Xml.Element}
    (htag : D.tag e.tag) (hkids : Xml.Node.EveryIn D.tag e.children) :
    Ends (Reader.construct cx scope role e) w
      (fun p w' => Workbench.Run cx.schema D.component w w' ∧ D.part w'.components role p)
      (D.Fails w) := by
  unfold construct
  refine Ends.bind ((D.begin_ends htag).mono (fun _ _ h => h) ?_) ?_
  · rintro e' w' ⟨rfl, he⟩
    exact ⟨.refl, he⟩
  rintro o w₁ ⟨hcs, hrun, ho⟩
  cases o with
  | part p =>
      refine ⟨hrun, ?_⟩
      rw [hcs]
      exact ho
  | draft nested =>
      refine Ends.bind ((D.children_ends hkids (D.draft_of_opened ho.1)).mono
        (fun _ _ h => h) fun _ _ h => .after D hrun h) ?_
      rintro nested' w₂ ⟨hrun₂, hnested'⟩
      refine (D.close_ends hnested').mono ?_ fun _ _ h => h.elim
      rintro p w₃ ⟨hrun₃, hp⟩
      exact ⟨(hrun.trans hrun₂).trans hrun₃, hp⟩

end Discipline

end Reader

end XmlSchema

namespace XmlSchema.Reader

open Attempt

variable {α β : Type} {supplied : (kind : ComponentKind) → kind.Component → Prop} {schema : Nat}
  {w : Workbench}

/-- A step of reading that owns nothing but components with a property.  What
it yields when it succeeds has another one. -/
def Supplies (supplied : (kind : ComponentKind) → kind.Component → Prop) (schema : Nat)
    (m : Attempt Workbench α) (w : Workbench) (Q : α → Prop) : Prop :=
  Ends m w (fun a w' => Workbench.Run schema (fun _ => supplied) w w' ∧ Q a)
    (fun _ w' => Workbench.Run schema (fun _ => supplied) w w')

namespace Supplies

theorem bind {m : Attempt Workbench α} {f : α → Attempt Workbench β} {Q : α → Prop}
    {R : β → Prop} (h : Supplies supplied schema m w Q)
    (hf : ∀ a w', Q a → Supplies supplied schema (f a) w' R) :
    Supplies supplied schema (m >>= f) w R := by
  refine Ends.bind h ?_
  rintro a w' ⟨hrun, ha⟩
  exact (hf a w' ha).mono (fun _ _ h => ⟨hrun.trans h.1, h.2⟩) fun _ _ h => hrun.trans h

theorem mono {m : Attempt Workbench α} {Q Q' : α → Prop} (h : Supplies supplied schema m w Q)
    (hQ : ∀ a, Q a → Q' a) : Supplies supplied schema m w Q' :=
  Ends.mono h (fun _ _ h => ⟨h.1, hQ _ h.2⟩) fun _ _ h => h

end Supplies

variable {cx : Context} {P : Draft → Prop}

theorem meet_supplies {content : ForeignContent} (hP : ∀ d, P d → P (d.addForeign content))
    {d : Draft} (hd : P d) (w : Workbench) :
    Supplies supplied cx.schema (meet cx content d) w P := by
  unfold meet Supplies
  rw [ends_bind, ends_modify, ends_pure]
  refine ⟨.single (.meet w content), ?_⟩
  cases cx.policy with
  | keep => exact hP d hd
  | drop => exact hd

/-- Foreign content leaves alone what does not depend on it. -/
theorem meetAll_supplies {contents : List ForeignContent}
    (hP : ∀ content ∈ contents, ∀ d, P d → P (d.addForeign content)) {d : Draft} (hd : P d)
    (w : Workbench) : Supplies supplied cx.schema (meetAll cx contents d) w P := by
  induction contents generalizing d w with
  | nil => exact ⟨.refl, hd⟩
  | cons content rest ih =>
      refine (meet_supplies (hP content List.mem_cons_self) hd w).bind fun d' w' hd' => ?_
      exact ih (fun c hc => hP c (List.mem_cons_of_mem content hc)) hd' w'

end XmlSchema.Reader
