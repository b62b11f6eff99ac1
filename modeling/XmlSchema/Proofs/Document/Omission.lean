import XmlSchema.Proofs.Document.Forwarding

/-!
# Children that are passed over

A construct passes over the children that it does not hold, and over references
that do not say to what.  Leaving them out makes no difference to what is read,
with one exception: a reference to a group that does not say to which takes the
place of a particle that a type or a derivation has got before.
-/

namespace XmlSchema

open Attempt

/-- Whether a construct in some part is read as a particle. -/
def Role.isParticle : Role → Bool
  | .compositor _ | .groupRef | .any => true
  | .element topLevel => !topLevel
  | _ => false

namespace Holder

/-- What a construct may hold that stands inside another one. -/
def inner? : Holder → Construct → Option Holder
  | .root, .external kind => some (.external kind)
  | h, construct => (h.child? construct).map Role.holder

/-- Whether there is a particle behind a child, when it is known whether there
is one before it. -/
def filledAfter (h : Holder) (filled : Bool) : Xml.Node → Bool
  | .text _ => filled
  | .comment _ => filled
  | .element tag _ =>
      match ChildClass.of tag.name with
      | .unknown => filled
      | .foreign => filled
      | .known construct =>
          match h.child? construct with
          | none => filled
          | some role => if role.isParticle then role.keeps tag else filled

/-- Whether a child is passed over.  What stands in a remark belongs to its
text.  A group reference that says nothing does no harm in a compositor, or
where there is no particle yet. -/
def ignores (h : Holder) (filled : Bool) : Xml.Node → Bool
  | .text _ => h != .remark
  | .comment _ => h != .remark
  | .element tag _ =>
      h != .remark &&
        match ChildClass.of tag.name with
        | .unknown => true
        | .foreign => h.silent
        | .known construct =>
            match h.child? construct with
            | none => (h.inner? construct).isNone
            | some role =>
                !role.keeps tag && (!role.isParticle || h == .compositor || !filled)

/-- Everywhere but at the root a construct stands in some part. -/
theorem exists_role {h inner : Holder} {construct : Construct} (hroot : h ≠ .root)
    (hinner : h.inner? construct = some inner) :
    ∃ role, h.child? construct = some role ∧ role.holder = inner := by
  unfold inner? at hinner
  split at hinner
  · exact absurd rfl hroot
  · exact Option.map_eq_some_iff.1 hinner

end Holder

namespace Xml

/-- Nodes without some of the children that are passed over, among them and
below them. -/
inductive Node.Omits : Holder → Bool → List Node → List Node → Prop
  | nil {h : Holder} {filled : Bool} : Omits h filled [] []
  | drop {h : Holder} {filled : Bool} {node : Node} {nodes fewer : List Node}
      (hnode : h.ignores filled node)
      (hrest : Omits (h.after node) (h.filledAfter filled node) nodes fewer) :
      Omits h filled (node :: nodes) fewer
  | keep {h : Holder} {filled : Bool} {node : Node} {nodes fewer : List Node}
      (hrest : Omits (h.after node) (h.filledAfter filled node) nodes fewer) :
      Omits h filled (node :: nodes) (node :: fewer)
  | inside {h inner : Holder} {filled : Bool} {tag : Tag} {kids fewerKids nodes fewer : List Node}
      {construct : Construct} (hclass : ChildClass.of tag.name = .known construct)
      (hinner : h.inner? construct = some inner) (hkids : Omits inner false kids fewerKids)
      (hrest : Omits (h.after (.element tag kids)) (h.filledAfter filled (.element tag kids))
        nodes fewer) :
      Omits h filled (.element tag kids :: nodes) (.element tag fewerKids :: fewer)

/-- A document without some of the children that are passed over. -/
def Element.Omits (document fewer : Element) : Prop :=
  fewer.tag = document.tag ∧ Node.Omits .root false document.children fewer.children

theorem Node.Omits.refl (h : Holder) (filled : Bool) (nodes : List Node) :
    Node.Omits h filled nodes nodes := by
  induction nodes generalizing h filled with
  | nil => exact .nil
  | cons node rest ih => exact .keep (ih _ _)

mutual

/-- A node without anything that is passed over below it. -/
def Node.essential (h : Holder) : Node → Node
  | .text content => .text content
  | .comment content => .comment content
  | .element tag kids =>
      match ChildClass.of tag.name with
      | .unknown => .element tag kids
      | .foreign => .element tag kids
      | .known construct =>
          match h.inner? construct with
          | none => .element tag kids
          | some inner => .element tag (essentials inner false kids)

/-- Nodes without anything that is passed over. -/
def Node.essentials (h : Holder) (filled : Bool) : List Node → List Node
  | [] => []
  | node :: rest =>
      let later := essentials (h.after node) (h.filledAfter filled node) rest
      if h.ignores filled node then later else essential h node :: later

end

/-- A document without anything that is passed over. -/
def Element.essential (document : Element) : Element :=
  { document with children := Node.essentials .root false document.children }

mutual

theorem Node.Omits.essential {h : Holder} {filled : Bool} {rest fewer : List Node} :
    ∀ node : Node,
      Node.Omits (h.after node) (h.filledAfter filled node) rest fewer →
        Node.Omits h filled (node :: rest) (node.essential h :: fewer)
  | .text content, hrest => by
      unfold Node.essential
      exact .keep hrest
  | .comment content, hrest => by
      unfold Node.essential
      exact .keep hrest
  | .element tag kids, hrest => by
      unfold Node.essential
      split
      · exact .keep hrest
      · exact .keep hrest
      · rename_i construct hclass
        split
        · exact .keep hrest
        · rename_i inner hinner
          exact .inside hclass hinner (Node.Omits.essentials inner false kids) hrest

theorem Node.Omits.essentials (h : Holder) (filled : Bool) : ∀ nodes : List Node,
    Node.Omits h filled nodes (Node.essentials h filled nodes)
  | [] => by
      unfold Node.essentials
      exact .nil
  | node :: rest => by
      unfold Node.essentials
      dsimp only
      have hrest := Node.Omits.essentials (h.after node) (h.filledAfter filled node) rest
      split
      · rename_i hnode
        exact .drop hnode hrest
      · exact Node.Omits.essential node hrest

end

/-- All that is passed over can be left out. -/
theorem Element.omits_essential (document : Element) : document.Omits document.essential :=
  ⟨rfl, Node.Omits.essentials .root false document.children⟩

/-- Nothing is left out of a remark. -/
theorem Node.Omits.eq_of_remark {h : Holder} {filled : Bool} {nodes fewer : List Node}
    (hp : Node.Omits h filled nodes fewer) (hremark : h = .remark) : fewer = nodes := by
  induction hp with
  | nil => rfl
  | @drop h filled node nodes fewer hnode _ _ =>
      subst hremark
      cases node <;> cases hnode
  | @keep h filled node nodes fewer _ ih =>
      rw [ih ((Holder.after_eq_iff .remark nofun node).2 hremark)]
  | inside hclass hinner =>
      subst hremark
      cases hinner

end Xml

namespace Draft

/-- Whether a draft is to become a particle. -/
def isParticle : Draft → Bool
  | .compositor _ _ _ _ | .groupRef _ _ | .any _ _ => true
  | .element _ e => !e.topLevel
  | _ => false

/-- Whether a draft has a particle that a later one would replace. -/
def filled : Draft → Bool
  | .complexType _ _ direct _ => direct.particle.isSome
  | .derivation d => d.content.particle.isSome
  | .group g => g.particle.isSome
  | _ => false

/-- A draft of what may be held, which has a particle only if there is one. -/
structure Stands (d : Draft) (h : Holder) (filled : Bool) : Prop where
  holder_eq : d.holder = h
  filled_of : d.filled = true → filled = true

variable {d : Draft} {p : Part}

/-- Nothing stands in a draft that begins. -/
theorem Stands.of_unfilled (h : d.filled = false) : d.Stands d.holder false :=
  ⟨rfl, fun hfilled => absurd (h.symm.trans hfilled) Bool.false_ne_true⟩

theorem isParticle_addForeign (content : ForeignContent) (d : Draft) :
    (d.addForeign content).isParticle = d.isParticle := by
  cases d <;> rfl

theorem filled_addForeign (content : ForeignContent) (d : Draft) :
    (d.addForeign content).filled = d.filled := by
  cases d <;> rfl

theorem Stands.addForeign {h : Holder} {filled : Bool} (hd : d.Stands h filled)
    (content : ForeignContent) : (d.addForeign content).Stands h filled := by
  refine ⟨(d.holder_addForeign content).trans hd.holder_eq, fun hfilled => ?_⟩
  rw [d.filled_addForeign] at hfilled
  exact hd.filled_of hfilled

theorem isParticle_adopt (d : Draft) (p : Part) : (d.adopt p).isParticle = d.isParticle := by
  fun_cases adopt d p
  case case1 a => cases d <;> rfl
  all_goals rfl

theorem filled_adopt (d : Draft) (hp : ∀ q, p ≠ .particle q) :
    (d.adopt p).filled = d.filled := by
  have hcontent : ∀ c : Content, (c.adopt p).particle = c.particle := by
    intro c
    cases p with
    | particle q => exact absurd rfl (hp q)
    | _ => rfl
  fun_cases adopt d p
  case case1 a => cases d <;> rfl
  case case6 t c direct model _ _ => exact congrArg Option.isSome (hcontent direct)
  case case15 d _ _ _ => exact congrArg Option.isSome (hcontent d.content)
  all_goals first
    | rfl
    | exact absurd rfl (hp _)

/-- A group reference that says nothing takes the place of a particle. -/
theorem filled_adopt_none (d : Draft) : (d.adopt (.particle none)).filled = false := by
  cases d <;> rfl

/-- Where there is no particle, it takes the place of nothing. -/
theorem adopt_none (h : d.filled = false) : d.adopt (.particle none) = d := by
  have hcontent : ∀ c : Content, c.particle.isSome = false → c.adopt (.particle none) = c := by
    intro c hc
    obtain ⟨particle, attributes, anyAttribute⟩ := c
    cases particle with
    | none => rfl
    | some q => cases hc
  cases d with
  | complexType t c direct model =>
      exact congrArg (Draft.complexType t c · model) (hcontent direct h)
  | derivation d =>
      exact congrArg (fun content => Draft.derivation { d with content }) (hcontent d.content h)
  | group g =>
      have hparticle : g.particle = none := Option.not_isSome_iff_eq_none.1 (ne_true_of_eq_false h)
      exact congrArg (fun particle => Draft.group { g with particle }) hparticle.symm
  | _ => rfl

theorem filled_of_compositor (h : d.holder = .compositor) : d.filled = false := by
  cases d <;> first
  | rfl
  | cases h

theorem holder_ne_root (d : Draft) : d.holder ≠ .root := by
  cases d <;> nofun

theorem adopt_nothing (d : Draft) : d.adopt .nothing = d := by
  cases d <;> rfl

/-- A draft that is to become no particle amounts to none. -/
theorem toPart_ne_particle (h : d.isParticle = false) (schema : Nat) (cs : Components)
    (q : Option Particle) : d.toPart schema cs ≠ .particle q := by
  cases d with
  | compositor | groupRef | any => cases h
  | element o e =>
      have htop : e.topLevel = true := by simpa [isParticle] using h
      simp [toPart, htop]
  | «attribute» a => cases ha : a.topLevel <;> simp [toPart, ha]
  | _ =>
      intro hq
      cases hq

end Draft

namespace Role

variable {cx : Context} {scope : Scope} {tag : Xml.Tag} {kids : List Xml.Node} {role : Role}

/-- What a construct in some part begins as. -/
def Starts (role : Role) : Opening → Prop
  | .draft d => d.Stands role.holder false ∧ d.isParticle = role.isParticle
  | .part p => role.isParticle = false → ∀ q, p ≠ .particle q

theorem openElement_topLevel {topLevel : Bool} {e : ElementDecl}
    (h : openElement cx scope tag topLevel = .ok e) : e.topLevel = topLevel := by
  obtain ⟨group, -, h⟩ := bind_eq_ok_iff.1 h
  obtain ⟨names, -, h⟩ := bind_eq_ok_iff.1 h
  obtain ⟨type, -, h⟩ := bind_eq_ok_iff.1 h
  cases h
  rfl

theorem starts_opening {o : Opening} (h : role.opening cx scope tag kids = .ok o) :
    role.Starts o := by
  match role, h with
  -- attributes can be faulty, but do not decide what the construct becomes
  | .restriction, h | .list, h | .union, h | .derivation _, h | .constraint _, h =>
      obtain ⟨_, -, h⟩ := bind_eq_ok_iff.1 h
      cases h
      exact ⟨.of_unfilled rfl, rfl⟩
  | .element topLevel, h =>
      obtain ⟨e, he, h⟩ := bind_eq_ok_iff.1 h
      cases h
      exact ⟨.of_unfilled rfl, congrArg not (openElement_topLevel he)⟩
  | .attribute _, h =>
      obtain ⟨_, -, h⟩ := bind_eq_ok_iff.1 h
      cases h
      exact ⟨.of_unfilled rfl, rfl⟩
  | .groupRef, h | .attributeGroupRef, h =>
      simp only [Role.opening] at h
      split at h
      · cases h
        intro hparticle q hq
        cases hparticle <;> cases hq
      · obtain ⟨_, -, h⟩ := bind_eq_ok_iff.1 h
        cases h
        exact ⟨.of_unfilled rfl, rfl⟩
  | .remark audience, h =>
      cases audience <;> cases h <;> intro hparticle q hq <;> cases hq
  | .note, h | .simpleType _, h | .complexType _, h | .simpleContent, h | .complexContent, h
  | .compositor _, h | .any, h | .anyAttribute, h | .group, h | .attributeGroup, h
  | .notationDecl, h | .selector, h | .field, h | .facet _, h =>
      cases h
      exact ⟨.of_unfilled rfl, rfl⟩

/-- Only a remark depends on what stands in it. -/
theorem opening_eq (h : role.holder ≠ .remark) (kids fewer : List Xml.Node) :
    role.opening cx scope tag kids = role.opening cx scope tag fewer := by
  cases role with
  | remark audience => exact absurd rfl h
  | _ => rfl

end Role

namespace Reader

variable {cx : Context} {scope : Scope} {d : Draft} {h : Holder} {filled : Bool} {tag : Xml.Tag}
  {kids fewer : List Xml.Node} {role : Role}

/-- Foreign content does not touch what it says nothing about. -/
theorem meetAll_keeps {P : Draft → Prop} (hP : ∀ content d, P d → P (d.addForeign content))
    (contents : List ForeignContent) (hd : P d) (w : Workbench) :
    Ends (meetAll cx contents d) w (fun d' _ => P d') fun _ _ => True := by
  induction contents generalizing d w with
  | nil => exact hd
  | cons content rest ih =>
      unfold meetAll meet
      rw [bind_assoc, ends_bind, ends_modify, ends_bind, ends_pure]
      refine ih ?_ _
      cases cx.policy with
      | keep => exact hP content d hd
      | drop => exact hd

/-- A construct begins in its part. -/
theorem begin_starts (tag : Xml.Tag) (kids : List Xml.Node) (role : Role) (w : Workbench) :
    Ends (begin cx scope tag kids role) w (fun o _ => role.Starts o) fun _ _ => True := by
  unfold begin
  rw [ends_bind, ends_lift]
  cases ho : role.opening cx scope tag kids with
  | error e => trivial
  | ok o =>
      have hstarts := Role.starts_opening ho
      cases o with
      | part p => exact hstarts
      | draft d =>
          dsimp only
          split
          · refine (meetAll_keeps (P := fun d => role.Starts (.draft d)) ?_ _ hstarts w).bind
              fun d' _ hd' => hd'
            intro content d hd
            exact ⟨hd.1.addForeign content, (d.isParticle_addForeign content).trans hd.2⟩
          · exact hstarts

/-- What reading does with a child of a draft: it goes by, hands over foreign
content, or reads a construct in its part. -/
inductive Treats (cx : Context) (scope : Scope) (d : Draft) :
    Xml.Node → Attempt Workbench Draft → Prop
  | pass {node : Xml.Node} (hafter : ∀ filled, d.holder.filledAfter filled node = filled) :
      Treats cx scope d node (pure d)
  | meet {node : Xml.Node} (content : ForeignContent)
      (hafter : ∀ filled, d.holder.filledAfter filled node = filled)
      (hignores : ∀ filled, d.holder.ignores filled node = false) :
      Treats cx scope d node (meet cx content d)
  | read {tag : Xml.Tag} {kids : List Xml.Node} (role : Role)
      (hafter : ∀ filled, d.holder.filledAfter filled (.element tag kids) =
        if role.isParticle then role.keeps tag else filled)
      (hignores : ∀ filled, d.holder.ignores filled (.element tag kids) =
        (!role.keeps tag && (!role.isParticle || d.holder == .compositor || !filled))) :
      Treats cx scope d (.element tag kids)
        (construct cx scope role ⟨tag, kids⟩ >>= fun p => pure (d.adopt p))

theorem child_treats (cx : Context) (scope : Scope) (d : Draft) (node : Xml.Node) :
    Treats cx scope d node (child cx scope d node) := by
  cases node with
  | text t =>
      unfold child
      exact .pass fun _ => rfl
  | comment t =>
      unfold child
      exact .pass fun _ => rfl
  | element tag kids =>
      have hremark : (d.holder != .remark) = true := bne_iff_ne.2 d.holder_ne_remark
      cases hclass : ChildClass.of tag.name with
      | unknown =>
          unfold child
          rw [hclass]
          exact .pass fun filled => by simp only [Holder.filledAfter, hclass]
      | foreign =>
          have hafter : ∀ filled, d.holder.filledAfter filled (.element tag kids) = filled :=
            fun filled => by simp only [Holder.filledAfter, hclass]
          unfold child
          rw [hclass]
          dsimp only
          rw [d.takesForeign_eq]
          cases hsilent : d.holder.silent with
          | true => exact .pass hafter
          | false =>
              exact .meet _ hafter fun filled => by
                simp only [Holder.ignores, hclass, hsilent, Bool.and_false]
      | known construct =>
          have hchild := d.role?_eq_child? construct
          cases hrole : d.holder.child? construct with
          | none =>
              unfold child
              rw [hclass]
              dsimp only
              rw [hchild, hrole]
              exact .pass fun filled => by simp only [Holder.filledAfter, hclass, hrole]
          | some role =>
              rw [child_known hclass (hchild.trans hrole)]
              refine .read role (fun filled => ?_) fun filled => ?_
              · simp only [Holder.filledAfter, hclass, hrole]
              · simp only [Holder.ignores, hclass, hrole, hremark, Bool.true_and]

/-- A child does not touch what no part and no foreign content touches. -/
theorem child_keeps {P : Draft → Prop} (hforeign : ∀ content d, P d → P (d.addForeign content))
    (hadopt : ∀ p d, P d → P (d.adopt p)) (scope : Scope) (hd : P d) (node : Xml.Node)
    (w : Workbench) : Ends (child cx scope d node) w (fun d' _ => P d') fun _ _ => True := by
  have htreats := child_treats cx scope d node
  generalize child cx scope d node = m at htreats
  cases htreats with
  | pass => exact hd
  | meet content => exact meetAll_keeps hforeign [content] hd w
  | read role => exact (Ends.trivial _ w).bind fun p w' _ => hadopt p d hd

/-- What becomes of a draft does not depend on its children. -/
theorem children_isParticle (scope : Scope) (d : Draft) (nodes : List Xml.Node) (w : Workbench) :
    Ends (children cx scope d nodes) w (fun d' _ => d'.isParticle = d.isParticle)
      fun _ _ => True := by
  induction nodes generalizing d w with
  | nil => exact rfl
  | cons node rest ih =>
      unfold children
      refine (child_keeps (P := fun d' => d'.isParticle = d.isParticle) ?_ ?_ scope rfl node
        w).bind fun d' w' hd' => (ih d' w').mono (fun _ _ h => h.trans hd') fun _ _ h => h
      · exact fun content d' h => (d'.isParticle_addForeign content).trans h
      · exact fun p d' h => (d'.isParticle_adopt p).trans h

/-- A construct that is no particle is not read as one. -/
theorem construct_ne_particle (hrole : role.isParticle = false) (e : Xml.Element) (w : Workbench) :
    Ends (construct cx scope role e) w (fun p _ => ∀ q, p ≠ .particle q) fun _ _ => True := by
  unfold construct
  refine (begin_starts e.tag e.children role w).bind fun o w₁ ho => ?_
  cases o with
  | part p => exact ho hrole
  | draft d =>
      refine (children_isParticle _ d e.children w₁).bind fun d' w₂ hd' => ?_
      unfold Ends
      rw [exec_close]
      exact d'.toPart_ne_particle (hd'.trans (ho.2.trans hrole)) _ _

/-- A reference that does not say to what is nothing, or no particle. -/
theorem construct_of_not_keeps (hkeeps : role.keeps tag = false) (kids : List Xml.Node) :
    construct cx scope role ⟨tag, kids⟩ =
      pure (if role.isParticle then .particle none else .nothing) := by
  have hnone : ∀ {label : Option String}, label.isSome = false → label = none := fun h =>
    Option.not_isSome_iff_eq_none.1 (ne_true_of_eq_false h)
  unfold Role.keeps at hkeeps
  unfold construct begin
  split at hkeeps
  · simp only [Role.opening, hnone hkeeps]
    rfl
  · simp only [Role.opening, hnone hkeeps]
    rfl
  · cases hkeeps

/-- A child that is passed over leaves a draft as it is. -/
theorem child_of_ignores (hd : d.Stands h filled) {node : Xml.Node}
    (hnode : h.ignores filled node) : child cx scope d node = pure d := by
  have htreats := child_treats cx scope d node
  rw [← hd.holder_eq] at hnode
  generalize child cx scope d node = m at htreats
  cases htreats with
  | pass => rfl
  | meet content _ hignores => exact absurd hnode (ne_true_of_eq_false (hignores filled))
  | @read tag kids role _ hignores =>
      rw [hignores filled, Bool.and_eq_true] at hnode
      obtain ⟨hkeeps, hharm⟩ := hnode
      rw [construct_of_not_keeps (by simpa using hkeeps), pure_bind]
      cases hparticle : role.isParticle with
      | false => exact congrArg pure d.adopt_nothing
      | true =>
          -- the draft takes up that there is no particle, so it may not have one
          refine congrArg pure (Draft.adopt_none ?_)
          by_cases hcompositor : d.holder = .compositor
          · exact Draft.filled_of_compositor hcompositor
          · have hempty : filled = false := by
              simpa [hparticle, hcompositor] using hharm
            exact Bool.eq_false_iff.2 fun hfilled =>
              ne_true_of_eq_false hempty (hd.filled_of hfilled)

theorem child_filled (hd : d.Stands h filled) (node : Xml.Node) (w : Workbench) :
    Ends (child cx scope d node) w
      (fun d' _ => d'.filled = true → h.filledAfter filled node = true) fun _ _ => True := by
  have htreats := child_treats cx scope d node
  rw [← hd.holder_eq]
  generalize child cx scope d node = m at htreats
  cases htreats with
  | pass hafter =>
      rw [hafter filled]
      exact hd.filled_of
  | meet content hafter =>
      rw [hafter filled]
      exact meetAll_keeps (P := fun d' => d'.filled = true → filled = true)
        (fun content d' h => d'.filled_addForeign content ▸ h) [content] hd.filled_of w
  | @read tag kids role hafter =>
      rw [hafter filled]
      cases hparticle : role.isParticle with
      | false =>
          refine (construct_ne_particle hparticle ⟨tag, kids⟩ w).bind fun p w' hp => ?_
          rw [ends_pure, d.filled_adopt hp]
          exact hd.filled_of
      | true =>
          cases hkeeps : role.keeps tag with
          | true => exact (Ends.trivial _ w).bind fun p w' _ _ => rfl
          | false =>
              -- whatever particle there was has been taken away
              rw [construct_of_not_keeps hkeeps, pure_bind, ends_pure, hparticle]
              intro hfilled
              rw [if_pos rfl, d.filled_adopt_none] at hfilled
              exact hfilled

/-- Behind a child a draft stands where the child leads. -/
theorem child_stands (hd : d.Stands h filled) (node : Xml.Node) (w : Workbench) :
    Ends (child cx scope d node) w
      (fun d' _ => d'.Stands (h.after node) (h.filledAfter filled node)) fun _ _ => True := by
  unfold Ends
  rcases hexec : exec (child cx scope d node) w with ⟨e | d', w'⟩
  · trivial
  · obtain ⟨-, hholder⟩ := (child_hands scope d node w).of_ok hexec
    rw [hd.holder_eq] at hholder
    exact ⟨hholder, (child_filled hd node w).of_ok hexec⟩

/-- Constructs whose children are read alike are read alike. -/
theorem exec_construct_congr (hremark : role.holder = .remark → fewer = kids)
    (hkids : ∀ {scope d}, d.Stands role.holder false → ∀ w,
      exec (children cx scope d kids) w = exec (children cx scope d fewer) w) (w : Workbench) :
    exec (construct cx scope role ⟨tag, kids⟩) w =
      exec (construct cx scope role ⟨tag, fewer⟩) w := by
  -- a remark is opened with the text of its children, anything else by its tag alone
  by_cases hholder : role.holder = .remark
  · rw [hremark hholder]
  · have hbegin : begin cx (scope.enter tag.declared) tag kids role =
        begin cx (scope.enter tag.declared) tag fewer role := by
      unfold begin
      rw [Role.opening_eq hholder kids fewer]
    unfold construct
    dsimp only
    rw [hbegin]
    refine (begin_starts tag fewer role w).exec_bind_congr fun o w' ho => ?_
    cases o with
    | part p => rfl
    | draft d =>
        dsimp only
        rw [exec_bind, exec_bind, hkids ho.1]

/-- Leaving out children that are passed over makes no difference. -/
theorem exec_children_omits {nodes : List Xml.Node} (hp : Xml.Node.Omits h filled nodes fewer)
    {scope : Scope} {d : Draft} (hd : d.Stands h filled) (w : Workbench) :
    exec (children cx scope d nodes) w = exec (children cx scope d fewer) w := by
  induction hp generalizing scope d w with
  | nil => rfl
  | @drop h filled node nodes fewer hnode _ ih =>
      -- the child leaves the draft as it is, so what holds behind it holds of the draft
      have hstands : Ends (child cx scope d node) w
          (fun d' _ => d'.Stands (h.after node) (h.filledAfter filled node)) fun _ _ => True :=
        child_stands hd node w
      rw [children, child_of_ignores hd hnode, pure_bind]
      rw [child_of_ignores hd hnode, ends_pure] at hstands
      exact ih hstands w
  | @keep h filled node nodes fewer _ ih =>
      rw [children, children]
      exact (child_stands hd node w).exec_bind_congr fun d' w' hd' => ih hd' w'
  | @inside h inner filled tag kids fewerKids nodes fewer construct hclass hinner hkids _
      ihkids ih =>
      obtain ⟨role, hrole, rfl⟩ := Holder.exists_role (hd.holder_eq ▸ d.holder_ne_root) hinner
      have hchild := d.role?_eq_child? construct
      rw [hd.holder_eq] at hchild
      -- where the child leads is known of the one with all of its children
      have heq : exec (child cx scope d (.element tag kids)) w =
          exec (child cx scope d (.element tag fewerKids)) w := by
        rw [child_known hclass (hchild.trans hrole), child_known hclass (hchild.trans hrole),
          exec_bind, exec_bind, exec_construct_congr hkids.eq_of_remark fun hd w => ihkids hd w]
      rw [children, children, exec_bind (child cx scope d (.element tag fewerKids)), ← heq,
        ← exec_bind]
      exact (child_stands hd _ w).exec_bind_congr fun d' w' hd' => ih hd' w'

end Reader

end XmlSchema
