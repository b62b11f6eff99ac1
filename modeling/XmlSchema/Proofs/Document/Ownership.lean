import XmlSchema.Proofs.Component.Ledger
import XmlSchema.Proofs.Document.Grounding

/-!
# What reading owns is used at most once

Reading a construct owns components one after the other.  Whatever becomes
part of a component, or is at hand in the end, was at hand before or has been
owned meanwhile, and it is used in one place only: what a draft takes up is
handed over, and what it replaces is dropped.
-/

namespace XmlSchema

open Attempt List

section Parts

variable {α : Type}

theorem replace_subperm (new old kept : List α) : new ++ kept <+~ old ++ kept ++ new := by
  have hperm : new ++ kept ~ kept ++ new := perm_append_comm
  rw [append_assoc]
  exact hperm.subperm.trans (sublist_append_right old _).subperm

theorem Content.parts_adopt_subperm (c : Content) (p : Part) :
    (c.adopt p).parts <+~ c.parts ++ p.parts := by
  cases p with
  | particle p => exact replace_subperm _ _ _
  | attributeItem i =>
      simp only [adopt, Content.parts, Part.parts, attributeParts_append, append_assoc]
      exact .refl _
  | _ => exact (sublist_append_left _ _).subperm

/-- What a draft takes up comes from one place. -/
theorem Draft.parts_adopt_subperm (d : Draft) (p : Part) :
    (d.adopt p).parts <+~ d.parts ++ p.parts := by
  fun_cases Draft.adopt d p
  case case1 a =>
      rw [parts_annotate]
      exact (sublist_append_left _ _).subperm
  case case5 t c direct model m =>
      have hkept : direct.parts <+ direct.parts ++ (model.map ContentModel.parts).getD [] :=
        sublist_append_left _ _
      exact (hkept.append (Sublist.refl m.parts)).subperm
  case case6 t c direct model _ _ =>
      have hdirect := (subperm_append_right ((model.map ContentModel.parts).getD [])).2
        (direct.parts_adopt_subperm p)
      refine hdirect.trans (Perm.subperm ?_)
      simp only [Draft.parts, append_assoc]
      exact perm_append_comm.append_left _
  case case13 d id =>
      exact replace_subperm (typeRefs [id]) (typeRefs d.simpleType.toList) d.content.parts
  case case15 d _ _ _ =>
      have hcontent := (subperm_append_left (typeRefs d.simpleType.toList)).2
        (d.content.parts_adopt_subperm p)
      rw [← append_assoc] at hcontent
      exact hcontent
  all_goals
    simp only [Draft.parts, Part.parts, SimpleType.parts, TypeBody.parts,
      TypeSlot.inline, attributeParts_append, Particle.elementsList_append,
      Particle.elementsList, Particle.parts, typeRefs,
      Option.map_some, Option.getD_some, Option.toList_some, map_cons, map_nil,
      map_append, append_nil]
  all_goals
    first
    | exact .refl _
    | exact (sublist_append_right _ _).subperm
    | exact (sublist_append_left _ _).subperm

/-- A component is made of what its draft has taken up. -/
theorem Draft.parts_owned_subperm {d : Draft} {x : AnyComponent} (h : d.owned? = some x) :
    x.parts <+~ d.parts := by
  cases d with
  | complexType t c direct model =>
      cases h
      cases model with
      | none => exact (sublist_append_left _ _).subperm
      | some m => exact (sublist_append_right _ _).subperm
  | simpleType | element | «attribute» | group | attributeGroup | notationDecl =>
      cases h
      exact .refl _
  | _ => cases h

end Parts

/-- Components have been owned, each after its parts.  What was at hand
`before`, with what has been issued, is enough for what the new components are
made of and for what is at hand `after`. -/
def Components.Yields (n : Nat) (cs cs' : Components) (before after : List ComponentRef) : Prop :=
  ∃ log, cs' = cs.pushAll log ∧ Founded n cs log ∧
    after ++ taken log <+~ before ++ issued n cs log

namespace Components.Yields

variable {n : Nat} {cs cs' cs'' : Components} {before middle after : List ComponentRef}

theorem refl (n : Nat) (cs : Components) (before : List ComponentRef) :
    Yields n cs cs before before := by
  refine ⟨[], rfl, trivial, ?_⟩
  exact .refl _

theorem mono {less : List ComponentRef} (h : Yields n cs cs' before after)
    (hless : less <+~ after) : Yields n cs cs' before less := by
  obtain ⟨log, hcs, hfounded, hle⟩ := h
  exact ⟨log, hcs, hfounded, ((subperm_append_right _).2 hless).trans hle⟩

/-- What is not touched stays at hand. -/
theorem frame (h : Yields n cs cs' before after) (rest : List ComponentRef) :
    Yields n cs cs' (rest ++ before) (rest ++ after) := by
  obtain ⟨log, hcs, hfounded, hle⟩ := h
  refine ⟨log, hcs, hfounded, ?_⟩
  rw [append_assoc, append_assoc]
  exact (subperm_append_left rest).2 hle

theorem trans (h : Yields n cs cs' before middle) (h' : Yields n cs' cs'' middle after) :
    Yields n cs cs'' before after := by
  obtain ⟨log, rfl, hfounded, hle⟩ := h
  obtain ⟨log', rfl, hfounded', hle'⟩ := h'
  refine ⟨log ++ log', pushAll_append.symm, founded_append.2 ⟨hfounded, hfounded'⟩, ?_⟩
  rw [taken_append, issued_append]
  have hswap : after ++ (taken log ++ taken log') ~ (after ++ taken log') ++ taken log := by
    rw [append_assoc]
    exact perm_append_comm.append_left after
  have hback : (middle ++ issued n (cs.pushAll log) log') ++ taken log ~
      (middle ++ taken log) ++ issued n (cs.pushAll log) log' := by
    rw [append_assoc, append_assoc]
    exact perm_append_comm.append_left middle
  have hfirst : (middle ++ taken log) ++ issued n (cs.pushAll log) log' <+~
      (before ++ issued n cs log) ++ issued n (cs.pushAll log) log' :=
    (subperm_append_right _).2 hle
  have hsecond : (after ++ taken log') ++ taken log <+~
      (middle ++ issued n (cs.pushAll log) log') ++ taken log :=
    (subperm_append_right _).2 hle'
  rw [← append_assoc before]
  exact hswap.subperm.trans (hsecond.trans (hback.subperm.trans hfirst))

/-- What is at hand has been issued. -/
theorem has (h : Yields n cs cs' before after) (hbefore : ∀ ref ∈ before, cs.Has n ref) :
    ∀ ref ∈ after, cs'.Has n ref := by
  obtain ⟨log, rfl, -, hle⟩ := h
  intro ref href
  rcases mem_append.1 (hle.subset (mem_append_left _ href)) with hold | hnew
  · exact (hbefore ref hold).extend extends_pushAll
  · exact (mem_issued_iff.1 hnew).1

end Components.Yields

namespace Reader

open Components

variable {cx : Context} {w : Workbench} {scope : Scope} {d : Draft}

/-- A draft has taken up only what has been issued. -/
def Grounded (cx : Context) (w : Workbench) (d : Draft) : Prop :=
  ∀ ref ∈ d.parts, w.components.Has cx.schema ref

theorem meet_owns (content : ForeignContent) :
    Ends (meet cx content d) w
      (fun d' w' => w'.components = w.components ∧ d'.parts = d.parts) fun _ _ => False := by
  unfold meet
  rw [ends_bind, ends_modify, ends_pure]
  refine ⟨rfl, ?_⟩
  cases cx.policy with
  | keep => exact d.parts_addForeign content
  | drop => rfl

theorem meetAll_owns (contents : List ForeignContent) :
    Ends (meetAll cx contents d) w
      (fun d' w' => w'.components = w.components ∧ d'.parts = d.parts) fun _ _ => False := by
  induction contents generalizing w d with
  | nil => exact ⟨rfl, rfl⟩
  | cons content rest ih =>
      refine Ends.bind (meet_owns content) ?_
      rintro d₁ w₁ ⟨hcs, hparts⟩
      refine ih.mono ?_ fun _ _ h => h
      rintro d₂ w₂ ⟨hcs₂, hparts₂⟩
      exact ⟨hcs₂.trans hcs, hparts₂.trans hparts⟩

/-- A construct begins with nothing at hand. -/
theorem begin_owns (tag : Xml.Tag) (kids : List Xml.Node) (role : Role) :
    Ends (begin cx scope tag kids role) w
      (fun o w' => w'.components = w.components ∧
        match o with
        | .draft d => d.parts = []
        | .part p => p.parts = [])
      fun _ w' => w' = w := by
  unfold begin
  rw [ends_bind, ends_lift]
  cases ho : role.opening cx scope tag kids with
  | error e => exact rfl
  | ok o =>
      cases o with
      | part p => exact ⟨rfl, (opening_part_supplied ho).1⟩
      | draft d =>
          have hparts := (opening_supplied ho).1
          dsimp only
          split
          · rw [ends_bind]
            refine (meetAll_owns _).mono ?_ fun _ _ h => h.elim
            rintro d' w' ⟨hcs, hd'⟩
            exact ⟨hcs, hd'.trans hparts⟩
          · exact ⟨rfl, hparts⟩

/-- A draft that is closed hands over what it has taken up, or becomes a
component itself. -/
theorem close_owns (hd : Grounded cx w d) :
    Ends (close cx d) w
      (fun p w' => Yields cx.schema w.components w'.components d.parts p.parts)
      fun _ _ => False := by
  unfold Ends
  rw [exec_close]
  dsimp only
  rw [components_afterClose, toPart_parts, Draft.closed]
  cases hx : d.owned? with
  | none => exact .refl _ _ _
  | some x =>
      have hparts := Draft.parts_owned_subperm hx
      refine ⟨[x], rfl, ⟨fun part hpart => hd part (hparts.subset hpart), trivial⟩, ?_⟩
      have htaken : taken [x] = AnyComponent.parts x := flatMap_singleton _ _
      have hissued : issued cx.schema w.components [x] =
          [⟨x.1, cx.schema, w.components.count x.1⟩] :=
        rfl
      rw [htaken, hissued]
      exact perm_append_comm.subperm.trans ((subperm_append_right _).2 hparts)

mutual

/-- Reading a child uses what it owns at most once. -/
theorem child_owns {w : Workbench} {scope : Scope} {d : Draft} (hd : Grounded cx w d) :
    ∀ node : Xml.Node,
    Ends (child cx scope d node) w
      (fun d' w' => Yields cx.schema w.components w'.components d.parts d'.parts)
      (fun _ w' => Yields cx.schema w.components w'.components d.parts [])
  | .text _ => by
      unfold child
      exact .refl _ _ _
  | .comment _ => by
      unfold child
      exact .refl _ _ _
  | .element tag kids => by
      unfold child
      cases hc : ChildClass.of tag.name with
      | unknown => exact .refl _ _ _
      | foreign =>
          dsimp only
          split
          · refine (meet_owns _).mono ?_ fun _ _ h => h.elim
            rintro d' w' ⟨hcs, hparts⟩
            rw [hcs, hparts]
            exact .refl _ _ _
          · exact .refl _ _ _
      | known construct =>
          dsimp only
          cases hr : d.role? construct with
          | none => exact .refl _ _ _
          | some role =>
              refine Ends.bind ((begin_owns tag kids role).mono (fun _ _ h => h) ?_) ?_
              · rintro e w' rfl
                exact (Yields.refl _ _ _).mono (nil_subperm)
              rintro o w₁ ⟨hcs, ho⟩
              rw [← hcs]
              -- whatever the construct yields is added to what the draft has
              have hadopt : ∀ {p : Part} {w₂ : Workbench},
                  Yields cx.schema w₁.components w₂.components [] p.parts →
                  Yields cx.schema w₁.components w₂.components d.parts (d.adopt p).parts := by
                intro p w₂ h
                have hframe := h.frame d.parts
                rw [append_nil] at hframe
                exact hframe.mono (d.parts_adopt_subperm p)
              cases o with
              | part p =>
                  refine hadopt ?_
                  rw [ho]
                  exact .refl _ _ _
              | draft nested =>
                  have hnested : Grounded cx w₁ nested := by
                    rw [Grounded, ho]
                    exact fun _ h => absurd h not_mem_nil
                  have hkids : Ends (children cx (scope.enter tag.declared) nested kids) w₁ _ _ :=
                    children_owns hnested kids
                  rw [ho] at hkids
                  refine Ends.bind (hkids.mono (fun _ _ h => h) ?_) ?_
                  · intro e w' h
                    have hframe := h.frame d.parts
                    rw [append_nil] at hframe
                    exact hframe.mono nil_subperm
                  intro nested' w₂ h₂
                  refine Ends.bind ((close_owns (h₂.has ?_)).mono (fun _ _ h => h)
                    fun _ _ h => h.elim) ?_
                  · exact fun _ h => absurd h not_mem_nil
                  · exact fun p w₃ h₃ => hadopt (h₂.trans h₃)

/-- Reading children uses what it owns at most once. -/
theorem children_owns {w : Workbench} {scope : Scope} {d : Draft} (hd : Grounded cx w d) :
    ∀ nodes : List Xml.Node,
    Ends (children cx scope d nodes) w
      (fun d' w' => Yields cx.schema w.components w'.components d.parts d'.parts)
      (fun _ w' => Yields cx.schema w.components w'.components d.parts [])
  | [] => by
      unfold children
      exact .refl _ _ _
  | node :: rest => by
      unfold children
      refine Ends.bind (child_owns hd node) ?_
      intro d₁ w₁ h₁
      refine (children_owns (h₁.has hd) rest).mono ?_ ?_
      · exact fun d₂ w₂ h₂ => h₁.trans h₂
      · exact fun e w₂ h₂ => h₁.trans h₂

end

/-- Reading a construct uses what it owns at most once. -/
theorem construct_owns (role : Role) (e : Xml.Element) :
    Ends (construct cx scope role e) w
      (fun p w' => Yields cx.schema w.components w'.components [] p.parts)
      (fun _ w' => Yields cx.schema w.components w'.components [] []) := by
  unfold construct
  refine Ends.bind ((begin_owns e.tag e.children role).mono (fun _ _ h => h) ?_) ?_
  · rintro e' w' rfl
    exact .refl _ _ _
  rintro o w₁ ⟨hcs, ho⟩
  rw [← hcs]
  cases o with
  | part p =>
      rw [← ho]
      exact .refl _ _ _
  | draft d =>
      have hd : Grounded cx w₁ d := by
        rw [Grounded, ho]
        exact fun _ h => absurd h not_mem_nil
      have hkids : Ends (children cx (scope.enter e.tag.declared) d e.children) w₁ _ _ :=
        children_owns hd e.children
      rw [ho] at hkids
      refine Ends.bind hkids ?_
      intro d' w₂ h₂
      refine (close_owns (h₂.has fun _ h => absurd h not_mem_nil)).mono ?_ fun _ _ h => h.elim
      exact fun p w₃ h₃ => h₂.trans h₃

end Reader

end XmlSchema
