import XmlSchema.Proofs.Document.Discipline
import XmlSchema.Proofs.Document.Site

/-!
# What is read, traced to where it is written

A construct is opened at a site, takes up what is read from its children one
after the other, and is closed.  A tracing says what holds of a draft of which
some children have been read, of the part that it amounts to, and of the
component that it becomes; when each of these steps keeps to it, so does the
reading of a whole document.
-/

namespace XmlSchema

open Attempt

/-- A construct is read in a part: at the top level, or inside another one. -/
def Role.PlayedBy (role : Role) (construct : Construct) : Prop :=
  Role.ofTopLevel? construct = some role ∨ ∃ d : Draft, d.role? construct = some role

/-- What is known of all that is read below the root of a document.  A draft is
known at its site with the children that have been read, a part at its site. -/
structure Tracing (root : Site) where
  stems : (kind : ComponentKind) → kind.Component → Prop
  forms : Site → List Xml.Node → Draft → Prop
  gives : Site → Part → Prop
  forms_reference : ∀ {π} (r : ExternalRef), forms π [] (.external r)
  forms_opening : ∀ {cx scope π construct d} {role : Role},
    ChildClass.of π.tag.name = .known construct → role.PlayedBy construct →
    role.opening cx scope π.tag π.kids = .ok (.draft d) → forms π [] d
  gives_opening : ∀ {cx scope π p} {role : Role},
    role.opening cx scope π.tag π.kids = .ok (.part p) → gives π p
  pass : ∀ {π d} {done : List Xml.Node} (node : Xml.Node), forms π done d → forms π (done ++ [node]) d
  foreign_attribute : ∀ {π done content} {d : Draft}, content ∈ Reader.foreignAttributes π.tag →
    forms π done d → forms π done (d.addForeign content)
  foreign_element : ∀ {π done tag kids} {d : Draft}, ChildClass.of tag.name = .foreign →
    forms π done d → forms π done (d.addForeign (Reader.foreignElement tag kids))
  adopt : ∀ {π tag kids p} {done : List Xml.Node} {d : Draft}, forms π done d →
    gives (π.below tag kids) p →
    forms π (done ++ [.element tag kids]) (d.adopt p)
  stems_owned : ∀ {π x} {d : Draft}, root.Within π → forms π π.kids d → d.owned? = some x → stems x.1 x.2
  gives_toPart : ∀ {π schema cs} {d : Draft}, root.Within π → forms π π.kids d →
    gives π (d.toPart schema cs)

namespace Tracing

open Reader

variable {root : Site} (T : Tracing root) {cx : Context} {π : Site} {scope : Scope}

/-- A construct begins as a draft or is read at once. -/
def Initiates (π : Site) : Opening → Prop
  | .draft d => T.forms π [] d
  | .part p => T.gives π p

theorem begin_supplies {role : Role} {construct : Construct}
    (hc : ChildClass.of π.tag.name = .known construct) (hrole : role.PlayedBy construct)
    (w : Workbench) :
    Supplies T.stems cx.schema (Reader.begin cx scope π.tag π.kids role) w (T.Initiates π) := by
  unfold Reader.begin Supplies
  rw [ends_bind, ends_lift]
  cases ho : role.opening cx scope π.tag π.kids with
  | error e => exact .refl
  | ok o =>
      cases o with
      | part p => exact ⟨.refl, T.gives_opening ho⟩
      | draft d =>
          have hd : T.forms π [] d := T.forms_opening hc hrole ho
          dsimp only
          split
          · exact (meetAll_supplies (fun content hcontent _ => T.foreign_attribute hcontent) hd
              w).bind fun _ _ hd' => ⟨.refl, hd'⟩
          · exact ⟨.refl, hd⟩

theorem close_supplies {d : Draft} (hπ : root.Within π) (hd : T.forms π π.kids d)
    (w : Workbench) :
    Supplies T.stems cx.schema (Reader.close cx d) w (T.gives π) := by
  unfold Supplies Ends
  rw [exec_close]
  refine ⟨?_, T.gives_toPart hπ hd⟩
  unfold afterClose
  split
  · exact .refl
  · rename_i x hx
    exact .single (.own w x.1 x.2 (T.stems_owned hπ hd hx))

mutual

/-- Reading a child of a construct, when those before it have been read. -/
theorem child_supplies {π : Site} (hπ : root.Within π) {scope : Scope} {d : Draft}
    {done : List Xml.Node} (hd : T.forms π done d) (w : Workbench) :
    ∀ {node : Xml.Node}, node ∈ π.kids →
      Supplies T.stems cx.schema (child cx scope d node) w (T.forms π (done ++ [node]))
  | .text _, _ => by
      unfold child
      exact ⟨.refl, T.pass _ hd⟩
  | .comment _, _ => by
      unfold child
      exact ⟨.refl, T.pass _ hd⟩
  | .element tag kids, hnode => by
      unfold child
      cases hc : ChildClass.of tag.name with
      | unknown => exact ⟨.refl, T.pass _ hd⟩
      | foreign =>
          dsimp only
          split
          · exact meet_supplies (P := T.forms π (done ++ [.element tag kids]))
              (fun _ => T.foreign_element hc) (T.pass _ hd) w
          · exact ⟨.refl, T.pass _ hd⟩
      | known construct =>
          dsimp only
          cases hr : d.role? construct with
          | none => exact ⟨.refl, T.pass _ hd⟩
          | some role =>
              have hinner : root.Within (π.below tag kids) := hπ.child ⟨tag, kids, hnode, hc, rfl⟩
              have hbegin : Supplies T.stems cx.schema
                  (Reader.begin cx (scope.enter tag.declared) tag kids role) w
                  (T.Initiates (π.below tag kids)) :=
                T.begin_supplies (π := π.below tag kids) hc (.inr ⟨d, hr⟩) w
              refine hbegin.bind fun o w₁ ho => ?_
              cases o with
              | part p => exact ⟨.refl, T.adopt hd ho⟩
              | draft nested =>
                  have hread : Supplies T.stems cx.schema
                      (children cx (scope.enter tag.declared) nested kids) w₁
                      (T.forms (π.below tag kids) ([] ++ kids)) :=
                    children_supplies hinner ho w₁ (List.Subset.refl _)
                  refine hread.bind fun nested' w₂ hnested' => ?_
                  refine (T.close_supplies hinner hnested' w₂).bind fun p w₃ hp => ?_
                  exact ⟨.refl, T.adopt hd hp⟩

/-- Reading children of a construct one after the other. -/
theorem children_supplies {π : Site} (hπ : root.Within π) {scope : Scope} {d : Draft}
    {done : List Xml.Node} (hd : T.forms π done d) (w : Workbench) :
    ∀ {nodes : List Xml.Node}, nodes ⊆ π.kids →
      Supplies T.stems cx.schema (children cx scope d nodes) w (T.forms π (done ++ nodes))
  | [], _ => by
      unfold children
      rw [List.append_nil]
      exact ⟨.refl, hd⟩
  | node :: rest, hnodes => by
      obtain ⟨hnode, hrest⟩ := List.cons_subset.1 hnodes
      unfold children
      refine (child_supplies hπ hd w hnode).bind fun d₁ w₁ hd₁ => ?_
      rw [List.append_cons]
      exact children_supplies hπ hd₁ w₁ hrest

end

/-- Reading a construct at the top level of a document. -/
theorem construct_supplies {role : Role} {e : Xml.Element} {construct : Construct}
    (he : .element e.tag e.children ∈ root.kids)
    (hc : ChildClass.of e.tag.name = .known construct)
    (hrole : Role.ofTopLevel? construct = some role) (w : Workbench) :
    Supplies T.stems cx.schema (Reader.construct cx scope role e) w fun _ => True := by
  have hinner : root.Within (root.below e.tag e.children) :=
    (Site.Within.refl root).child ⟨e.tag, e.children, he, hc, rfl⟩
  have hbegin : Supplies T.stems cx.schema
      (Reader.begin cx (scope.enter e.tag.declared) e.tag e.children role) w
      (T.Initiates (root.below e.tag e.children)) :=
    T.begin_supplies (π := root.below e.tag e.children) hc (.inl hrole) w
  unfold Reader.construct
  refine hbegin.bind fun o w₁ ho => ?_
  cases o with
  | part p => exact ⟨.refl, trivial⟩
  | draft d =>
      refine Supplies.bind (Q := T.forms (root.below e.tag e.children) ([] ++ e.children))
        (T.children_supplies hinner ho w₁ (List.Subset.refl _)) fun d' w₂ hd' => ?_
      exact (T.close_supplies hinner hd' w₂).mono fun _ _ => trivial

/-- Reading what stands inside a reference to another document. -/
theorem reference_supplies {e : Xml.Element} {kind : ExternalKind}
    (he : .element e.tag e.children ∈ root.kids)
    (hc : ChildClass.of e.tag.name = .known (.external kind)) (r : ExternalRef) (w : Workbench) :
    Supplies T.stems cx.schema (children cx scope (.external r) e.children) w fun _ => True := by
  have hinner : root.Within (root.below e.tag e.children) :=
    (Site.Within.refl root).child ⟨e.tag, e.children, he, hc, rfl⟩
  have hforms : T.forms (root.below e.tag e.children) [] (.external r) := T.forms_reference r
  exact Supplies.mono (Q := T.forms (root.below e.tag e.children) ([] ++ e.children))
    (T.children_supplies hinner hforms w (List.Subset.refl _)) fun _ _ => trivial

end Tracing

end XmlSchema
