import XmlSchema.Proofs.Component.Ledger
import XmlSchema.Proofs.Document.Closing

/-!
# Reading without regard to types

A reader never looks at the components that a schema already has; it only
counts them.  On two workbenches that differ in nothing but the types that have
been found, it does the same.
-/

namespace XmlSchema

open Attempt

/-- Two workbenches differ in nothing but types that have been found. -/
structure Workbench.Alike (b b' : Workbench) : Prop where
  components : b.components.Alike b'.components
  pending_eq : b'.pending = b.pending
  met_eq : b'.met = b.met

namespace Reader

variable {α β : Type} {cx : Context}

/-- A step pays no regard to the types that have been found. -/
def Heedless (m : Attempt Workbench α) : Prop :=
  ∀ b b' : Workbench, b.Alike b' → Alongside Workbench.Alike m b m b'

namespace Heedless

theorem pure (a : α) : Heedless (Pure.pure a) := fun _ _ h => .of_pure a h

theorem lift (x : Except SchemaError α) : Heedless (liftM x : Attempt Workbench α) :=
  fun _ _ h => .of_lift x h

theorem bind {m : Attempt Workbench α} {f : α → Attempt Workbench β} (h : Heedless m)
    (hf : ∀ a, Heedless (f a)) : Heedless (m >>= f) :=
  fun b b' hb => (h b b' hb).bind fun a _ _ hb' => hf a _ _ hb'

end Heedless

theorem heedless_own (cx : Context) (kind : ComponentKind) (x : kind.Component) :
    Heedless (own cx kind x) := by
  intro b b' h
  have hcount := h.components.count_eq kind
  rw [Alongside, exec_own, exec_own, hcount]
  refine ⟨rfl, ?_⟩
  have hcomponents := h.components.push kind x
  unfold Workbench.allocate
  dsimp only
  rw [hcount]
  split
  · exact ⟨hcomponents, congrArg (· ++ _) h.pending_eq, h.met_eq⟩
  · exact ⟨hcomponents, h.pending_eq, h.met_eq⟩

theorem heedless_meet (cx : Context) (content : ForeignContent) (d : Draft) :
    Heedless (meet cx content d) :=
  fun _ _ h => ⟨rfl, h.components, h.pending_eq, congrArg (· ++ [content]) h.met_eq⟩

theorem heedless_meetAll (cx : Context) (contents : List ForeignContent) (d : Draft) :
    Heedless (meetAll cx contents d) := by
  induction contents generalizing d with
  | nil => exact .pure d
  | cons content rest ih => exact (heedless_meet cx content d).bind ih

theorem heedless_begin (cx : Context) (scope : Scope) (tag : Xml.Tag) (kids : List Xml.Node)
    (role : Role) : Heedless (begin cx scope tag kids role) := by
  refine (Heedless.lift _).bind fun o => ?_
  cases o with
  | part p => exact .pure _
  | draft d =>
      dsimp only
      split
      · exact (heedless_meetAll cx _ d).bind fun d => .pure _
      · exact .pure _

theorem heedless_close (cx : Context) (d : Draft) : Heedless (close cx d) := by
  cases d with
  | simpleType | complexType | group | attributeGroup | notationDecl | element | «attribute» =>
      exact (heedless_own cx _ _).bind fun _ => .pure _
  | _ => exact .pure _

mutual

theorem heedless_child (cx : Context) (scope : Scope) (d : Draft) :
    ∀ node : Xml.Node, Heedless (child cx scope d node)
  | .text _ => by
      unfold child
      exact .pure d
  | .comment _ => by
      unfold child
      exact .pure d
  | .element tag kids => by
      unfold child
      split
      · exact .pure d
      · split
        · exact heedless_meet cx _ d
        · exact .pure d
      · split
        · exact .pure d
        · rename_i role _
          refine (heedless_begin cx _ tag kids role).bind fun o => ?_
          cases o with
          | part p => exact .pure _
          | draft nested =>
              exact (heedless_children cx _ nested kids).bind fun nested =>
                (heedless_close cx nested).bind fun p => .pure _

theorem heedless_children (cx : Context) (scope : Scope) (d : Draft) :
    ∀ nodes : List Xml.Node, Heedless (children cx scope d nodes)
  | [] => by
      unfold children
      exact .pure d
  | node :: rest => by
      unfold children
      exact (heedless_child cx scope d node).bind fun d => heedless_children cx scope d rest

end

/-- A construct is read in the same way, whatever types have been found. -/
theorem heedless_construct (cx : Context) (scope : Scope) (role : Role) (e : Xml.Element) :
    Heedless (construct cx scope role e) := by
  refine (heedless_begin cx _ e.tag e.children role).bind fun o => ?_
  cases o with
  | part p => exact .pure p
  | draft d => exact (heedless_children cx _ d e.children).bind fun d => heedless_close cx d

end Reader

end XmlSchema
