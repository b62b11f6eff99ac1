import XmlSchema.Proofs.Document.Forwarding
import XmlSchema.Proofs.Resolution.Walk

/-!
# Foreign content handed over while a document is built

A document that refers to no located documents is built from its own
constructs, and its foreign content reaches the record in document order.  It
does so completely exactly when nothing foreign stands on a silent construct.
-/

namespace XmlSchema

open Attempt

namespace Xml.Element

/-- The foreign content on a child of the root of a document and below it. -/
def foreignAtTop (e : Element) : List Found :=
  match ChildClass.of e.tag.name with
  | .known (.external kind) =>
      Found.on (.external kind) (Reader.foreignAttributes e.tag) ++
        Node.foreignIn (.external kind) e.children
  | _ => (Node.element e.tag e.children).foreign .root

/-- The foreign content of a document, in document order. -/
def foreign (document : Element) : List Found :=
  Found.on .root (Reader.foreignAttributes document.tag) ++
    document.childElements.flatMap foreignAtTop

/-- Whether an element refers to another document. -/
def refers (e : Element) : Bool :=
  match ChildClass.of e.tag.name with
  | .known (.external _) => true
  | _ => false

/-- No reference to another document says where that is. -/
def Unlocated (document : Element) : Prop :=
  ∀ e ∈ document.childElements, e.refers → Compose.locationOf? e.tag = none

instance (document : Element) : Decidable document.Unlocated :=
  inferInstanceAs (Decidable (∀ e ∈ document.childElements, _))

end Xml.Element

namespace Compose

variable {env : Environment} {cx : Context}

/-- Reading into a schema hands over what the reader does. -/
theorem onBench_hands {α : Type} {reader : Attempt Workbench α} {entries : List ForeignContent}
    {Q : α → Prop} (h : Hands Workbench.met reader entries Q) (number : Nat) :
    Hands Workspace.met (onBench number reader) entries Q := by
  intro w
  have hreader := h { components := w.collection.components number }
  unfold Ends at hreader ⊢
  rw [Plan.exec_onBench]
  rcases hexec : exec reader { components := w.collection.components number } with ⟨e | a, bench⟩
  all_goals rw [hexec] at hreader
  · obtain ⟨first, hfirst, hmet⟩ := hreader
    exact ⟨first, hfirst, congrArg (w.met ++ ·) hmet⟩
  · exact ⟨congrArg (w.met ++ ·) hreader.1, hreader.2⟩

theorem update_hands (f : Collection → Collection) :
    Hands Workspace.met (update f) [] fun _ => True :=
  hands_of_ends fun _ => ⟨rfl, trivial⟩

theorem enlist_hands (p : Part) : Hands Workspace.met (enlist cx p) [] fun _ => True := by
  cases p with
  | note a => exact update_hands fun c => c.addItem cx.schema (.note a)
  | component ref =>
      refine hands_of_ends fun w => ?_
      unfold enlist attempt
      rw [ends_bind, ends_get]
      dsimp only
      split
      · exact ⟨rfl, trivial⟩
      · rfl
  | _ => exact hands_pure trivial

theorem meet_hands (content : ForeignContent) :
    Hands Workspace.met (meet cx content) [content] fun _ => True := by
  intro w
  unfold meet
  rw [ends_bind, ends_modify]
  split <;> exact ⟨rfl, trivial⟩

/-- A reference without a location hands over what stands on it and below it. -/
theorem external_hands {build : Build} {scope : Scope} {kind : ExternalKind} {e : Xml.Element}
    (hlocation : locationOf? e.tag = none) :
    Hands Workspace.met (external env build cx scope kind e)
      (Found.handed (Found.on (.external kind) (Reader.foreignAttributes e.tag)) ++
        Found.handed (Xml.Node.foreignIn (.external kind) e.children)) fun _ => True := by
  have hseek : seek env build cx (reference kind e.tag) = pure none := by
    unfold seek reference
    dsimp only
    rw [hlocation]
  rw [external_eq, Found.handed_on rfl]
  refine (onBench_hands (Reader.meetAll_hands _ _) _).bind fun d hd => ?_
  rw [hseek, pure_bind]
  unfold listExternal
  refine Hands.after (hands_of_ends fun _ => ⟨rfl, trivial⟩ : Hands _ get [] fun _ => True)
    fun _ _ => ?_
  rw [show Holder.external kind = d.holder from hd.symm]
  refine (onBench_hands (Reader.children_hands _ d e.children) _).before fun d' _ => ?_
  split
  · exact update_hands _
  · exact hands_pure trivial

theorem topLevelChild_hands (build : Build) (scope : Scope) {e : Xml.Element}
    (hlocation : e.refers → locationOf? e.tag = none) :
    Hands Workspace.met (topLevelChild env build cx scope e) (Found.handed e.foreignAtTop)
      fun _ => True := by
  unfold topLevelChild Xml.Element.foreignAtTop Xml.Node.foreign
  cases hclass : ChildClass.of e.tag.name with
  | unknown => exact hands_pure trivial
  | foreign => exact meet_hands _
  | known construct =>
      cases construct with
      | external kind =>
          dsimp only
          rw [Found.handed_append]
          exact external_hands (hlocation (by rw [Xml.Element.refers, hclass]))
      | note | simpleType | complexType | element | «attribute» | group | attributeGroup
      | notationDecl =>
          exact (onBench_hands (Reader.construct_hands scope _ e) cx.schema).before
            fun p _ => enlist_hands p
      | _ => exact hands_pure trivial

theorem topLevelPass_hands (build : Build) (scope : Scope) {elements : List Xml.Element}
    (hlocation : ∀ e ∈ elements, e.refers → locationOf? e.tag = none) :
    Hands Workspace.met (topLevelPass env build cx scope elements)
      (Found.handed (elements.flatMap Xml.Element.foreignAtTop)) fun _ => True := by
  induction elements with
  | nil => exact hands_pure trivial
  | cons e rest ih =>
      rw [List.flatMap_cons, Found.handed_append]
      exact (topLevelChild_hands build scope (hlocation e List.mem_cons_self)).bind fun _ _ =>
        ih fun e' he' => hlocation e' (List.mem_cons_of_mem _ he')

/-- Building a document from its own constructs hands over its foreign content
in document order, and a failure cuts that off. -/
theorem buildSource_hands (fuel : Nat) (source : Source) (parent : Option SchemaKey)
    (inherited : Option String) (hlocal : source.document.Unlocated) :
    Hands Workspace.met (buildSource env fuel source parent inherited)
      (Found.handed source.document.foreign) fun _ => True := by
  intro w
  cases fuel with
  | zero => exact hands_throw (Q := fun _ => True) _ w
  | succ fuel =>
      have hnothing : ∃ first : List ForeignContent,
          first <+: Found.handed source.document.foreign ∧ w.met = w.met ++ first :=
        ⟨[], List.nil_prefix, (List.append_nil _).symm⟩
      cases hroot : source.document.tag.is schemaNamespace "schema" with
      | false =>
          unfold Ends
          rw [exec_buildSource_of_not_schema env parent hroot]
          exact hnothing
      | true =>
          cases hkey : w.collection.schema? (keyOf source inherited) with
          | some s =>
              have hregistered : (w.collection.schema? (keyOf source inherited)).isSome := by
                rw [hkey]; rfl
              unfold Ends
              rw [exec_buildSource_of_registered env parent hroot hregistered]
              exact hnothing
          | none =>
              have hforeign : Found.handed source.document.foreign =
                  Reader.foreignAttributes source.document.tag ++
                    Found.handed
                      (source.document.childElements.flatMap Xml.Element.foreignAtTop) := by
                rw [Xml.Element.foreign, Found.handed_append, Found.handed_on rfl]
              let cx := Context.ofSchema
                (rootSchema env.policy w.collection.schemas.size source parent inherited)
                env.policy
              let scope := (Scope.inherited (fallback w source parent inherited)).enter
                source.document.tag.declared
              have hpass : Ends (topLevelPass env (buildSource env fuel) cx scope _)
                  (opened env w source parent inherited) _ _ :=
                topLevelPass_hands (buildSource env fuel) scope hlocal _
              unfold Ends at hpass ⊢
              rw [exec_buildSource env parent hroot hkey, hforeign]
              split at hpass
              · rename_i hexec
                rw [hexec]
                exact ⟨hpass.1.trans (List.append_assoc _ _ _), trivial⟩
              · rename_i hexec
                obtain ⟨first, hfirst, hmet⟩ := hpass
                rw [hexec]
                exact ⟨_ ++ first, (List.prefix_append_right_inj _).2 hfirst,
                  hmet.trans (List.append_assoc _ _ _)⟩

/-- A document without located references hands over its foreign content in
document order, whatever else has been built; what stands on silent constructs
is all that is missing, and a failure cuts the rest off. -/
theorem build_forwards (d : Located) (w : Workspace) (hlocal : d.document.Unlocated) :
    Ends (build env d) w
      (fun _ w' =>
        w'.met = w.met ++ Found.handed d.document.foreign ∧
          (w'.met = w.met ++ d.document.foreign.map Found.content ↔
            ∀ f ∈ d.document.foreign, f.silent = false))
      fun _ w' =>
        ∃ first, first <+: Found.handed d.document.foreign ∧ w'.met = w.met ++ first := by
  unfold build
  rw [ends_bind]
  refine (buildSource_hands (env.resolver.depth + 1) ⟨d.locator, d.document, w.nextTicket⟩
    none none hlocal _).mono ?_ fun _ _ h => h
  intro _ w' ⟨hmet, _⟩
  refine ⟨hmet, ?_⟩
  rw [hmet, List.append_cancel_left_eq]
  exact Found.handed_eq_iff _

/-- A document with a foreign attribute on a restriction and one on a facet. -/
def markedFacet : Except SchemaError Located :=
  Located.parse "a.xsd"
    ("<xs:schema xmlns:xs=\"http://www.w3.org/2001/XMLSchema\" xmlns:m=\"urn:m\">" ++
      "<xs:simpleType name=\"t\"><xs:restriction base=\"xs:string\" m:kept=\"1\">" ++
      "<xs:length value=\"3\" m:lost=\"2\"/></xs:restriction></xs:simpleType></xs:schema>")

/-- The attribute on the facet is not handed over. -/
theorem build_forwards_markedFacet :
    ∃ d n w, markedFacet = .ok d ∧ exec (build ⟨.nothing, .keep⟩ d) {} = (.ok n, w) ∧
      w.met.map ForeignContent.name = [⟨"urn:m", "kept"⟩] ∧
      w.met ≠ d.document.foreign.map Found.content := by
  have hevaluated : markedFacet.toOption.map (fun d =>
      (decide d.document.Unlocated, d.document.foreign.map Found.silent,
        (exec (build ⟨.nothing, .keep⟩ d) {}).1.toOption,
        (exec (build ⟨.nothing, .keep⟩ d) {}).2.met.map ForeignContent.name)) =
      some (true, [false, true], some 1, [⟨"urn:m", "kept"⟩]) := by decide +kernel
  cases hmarked : markedFacet with
  | error e =>
      rw [hmarked] at hevaluated
      cases hevaluated
  | ok d =>
      rw [hmarked] at hevaluated
      obtain ⟨hlocal, hsilent, hbuilt, hmet⟩ :
          decide d.document.Unlocated = true ∧
          d.document.foreign.map Found.silent = [false, true] ∧
          (exec (build ⟨.nothing, .keep⟩ d) {}).1.toOption = some 1 ∧
          (exec (build ⟨.nothing, .keep⟩ d) {}).2.met.map ForeignContent.name =
            [⟨"urn:m", "kept"⟩] := by
        simpa using Option.some.inj hevaluated
      rcases hexec : exec (build ⟨.nothing, .keep⟩ d) {} with ⟨e | n, w⟩
      all_goals rw [hexec] at hbuilt hmet
      · cases hbuilt
      · have hforwards := (build_forwards d {} (of_decide_eq_true hlocal)).of_ok hexec
        refine ⟨d, n, w, rfl, hexec, hmet, fun hall => ?_⟩
        have hnone := hforwards.2.1 hall
        have hlost : true ∈ d.document.foreign.map Found.silent := by rw [hsilent]; simp
        obtain ⟨f, hf, hfsilent⟩ := List.mem_map.1 hlost
        rw [hnone f hf] at hfsilent
        cases hfsilent

end Compose

end XmlSchema
