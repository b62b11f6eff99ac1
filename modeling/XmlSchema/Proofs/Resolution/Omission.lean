import XmlSchema.Proofs.Document.Omission
import XmlSchema.Proofs.Resolution.Revision

/-!
# Documents without what is passed over

Documents from which children that are passed over have been left out are built
like the documents as they were.  The schemas keep other documents, and these
are all that differs: items, components, names and references are the same, and
so are the failures.
-/

namespace XmlSchema

open Attempt

namespace Compose

section Passes

variable {env : Environment} {build : Build} {cx : Context} {scope : Scope}

/-- What a reader yields is what is yielded. -/
theorem onBench_yields {α : Type} {reader : Attempt Workbench α} {Q : α → Prop}
    (h : ∀ bench, Ends reader bench (fun a _ => Q a) fun _ _ => True) (number : Nat)
    (w : Workspace) : Ends (onBench number reader) w (fun a _ => Q a) fun _ _ => True := by
  have hreader := h { components := w.collection.components number }
  unfold Ends at hreader ⊢
  rw [Plan.exec_onBench]
  rcases hexec : exec reader { components := w.collection.components number } with ⟨e | a, bench⟩
  · trivial
  · rw [hexec] at hreader
    exact hreader

/-- A child of the root that is passed over does nothing. -/
theorem topLevelChild_of_ignores {e : Xml.Element} {filled : Bool}
    (h : Holder.root.ignores filled (.element e.tag e.children)) :
    topLevelChild env build cx scope e = pure () := by
  rw [Holder.ignores] at h
  unfold topLevelChild
  cases hclass : ChildClass.of e.tag.name with
  | unknown => rfl
  | foreign =>
      rw [hclass] at h
      cases h
  | known construct =>
      rw [hclass] at h
      cases construct with
      | external kind => cases h
      | note | simpleType | complexType | element | «attribute» | group | attributeGroup
      | notationDecl => cases h
      | _ => rfl

/-- References to documents whose children are read alike are read alike. -/
theorem exec_external_congr {kind : ExternalKind} {tag : Xml.Tag} {kids fewer : List Xml.Node}
    (h : Xml.Node.Omits (.external kind) false kids fewer) (w : Workspace) :
    exec (external env build cx scope kind ⟨tag, kids⟩) w =
      exec (external env build cx scope kind ⟨tag, fewer⟩) w := by
  -- which document is sought stands in the tag, and the children add to the item only
  have hstands : Draft.Stands (.external (reference kind tag)) (.external kind) false :=
    ⟨rfl, nofun⟩
  have hmeet : ∀ bench, Ends (Reader.meetAll cx (Reader.foreignAttributes tag)
      (.external (reference kind tag))) bench (fun d _ => d.Stands (.external kind) false)
      fun _ _ => True :=
    Reader.meetAll_keeps (fun content _ hd => hd.addForeign content) _ hstands
  rw [external_eq, external_eq]
  refine (onBench_yields hmeet cx.schema w).exec_bind_congr fun d w₁ hd => ?_
  refine (Ends.trivial _ w₁).exec_bind_congr fun found w₂ _ => ?_
  unfold listExternal
  refine (Ends.trivial _ w₂).exec_bind_congr fun v w₃ _ => ?_
  dsimp only
  rw [exec_bind, exec_bind, Plan.exec_onBench, Plan.exec_onBench, Reader.exec_children_omits h hd]

/-- Children of the root are read alike when what stands in them is. -/
theorem exec_topLevelChild_congr {inner : Holder} {construct : Construct} {tag : Xml.Tag}
    {kids fewer : List Xml.Node} (hclass : ChildClass.of tag.name = .known construct)
    (hinner : Holder.root.inner? construct = some inner)
    (h : Xml.Node.Omits inner false kids fewer) (w : Workspace) :
    exec (topLevelChild env build cx scope ⟨tag, kids⟩) w =
      exec (topLevelChild env build cx scope ⟨tag, fewer⟩) w := by
  have hconstruct : ∀ role : Role, role.holder = inner →
      exec (onBench cx.schema (Reader.construct cx scope role ⟨tag, kids⟩) >>= enlist cx) w =
        exec (onBench cx.schema (Reader.construct cx scope role ⟨tag, fewer⟩) >>= enlist cx) w := by
    rintro role rfl
    rw [exec_bind, exec_bind, Plan.exec_onBench, Plan.exec_onBench,
      Reader.exec_construct_congr h.eq_of_remark fun hd w' => Reader.exec_children_omits h hd w']
  unfold topLevelChild
  dsimp only
  rw [hclass]
  cases construct with
  | external kind =>
      cases hinner
      exact exec_external_congr h w
  | note | simpleType | complexType | element | «attribute» | group | attributeGroup
  | notationDecl => exact hconstruct _ (Option.some.inj hinner)
  | _ => rfl

/-- The children of a root that are not passed over are all that counts. -/
theorem exec_topLevelPass_omits {h : Holder} {filled : Bool} {nodes fewer : List Xml.Node}
    (hp : Xml.Node.Omits h filled nodes fewer) (hroot : h = .root) (w : Workspace) :
    exec (topLevelPass env build cx scope (nodes.filterMap Xml.Node.element?)) w =
      exec (topLevelPass env build cx scope (fewer.filterMap Xml.Node.element?)) w := by
  -- behind a child of the root it is the root again that holds the next one
  induction hp generalizing w with
  | nil => rfl
  | @drop h filled node nodes fewer hnode _ ih =>
      subst hroot
      have hrest := ih ((Holder.after_eq_iff .root nofun node).2 rfl)
      cases node with
      | text t => exact hrest w
      | comment t => exact hrest w
      | element tag kids =>
          have hchild : topLevelChild env build cx scope ⟨tag, kids⟩ = pure () :=
            topLevelChild_of_ignores hnode
          rw [List.filterMap_cons, Xml.Node.element?]
          dsimp only
          rw [topLevelPass, hchild, pure_bind]
          exact hrest w
  | @keep h filled node nodes fewer _ ih =>
      subst hroot
      have hrest := ih ((Holder.after_eq_iff .root nofun node).2 rfl)
      cases node with
      | text t => exact hrest w
      | comment t => exact hrest w
      | element tag kids =>
          exact (Ends.trivial _ w).exec_bind_congr fun _ w' _ => hrest w'
  | @inside h inner filled tag kids fewerKids nodes fewer construct hclass hinner hkids _ _ ih =>
      subst hroot
      have hrest := ih ((Holder.after_eq_iff .root nofun _).2 rfl)
      have hchild : ∀ w, exec (topLevelChild env build cx scope ⟨tag, kids⟩) w =
          exec (topLevelChild env build cx scope ⟨tag, fewerKids⟩) w :=
        exec_topLevelChild_congr hclass hinner hkids
      show exec (topLevelChild env build cx scope ⟨tag, kids⟩ >>= fun _ => _) w =
        exec (topLevelChild env build cx scope ⟨tag, fewerKids⟩ >>= fun _ => _) w
      rw [exec_bind (topLevelChild env build cx scope ⟨tag, fewerKids⟩), ← hchild, ← exec_bind]
      exact (Ends.trivial _ w).exec_bind_congr fun _ w' _ => hrest w'

end Passes

/-- To leave out what is passed over is harmless. -/
theorem Harmless.of_omits {f : Xml.Element → Xml.Element}
    (hf : ∀ document : Xml.Element, document.Omits (f document)) : Harmless f :=
  ⟨fun document => (hf document).1, fun _ _ _ _ document w =>
    (exec_topLevelPass_omits (hf document).2 rfl w).symm⟩

/-- Children that are passed over can be left out of the documents that are
read: the outcome is the same, and the schemas are the same except for the
documents that they keep. -/
theorem build_omits {f : Xml.Element → Xml.Element}
    (hf : ∀ document : Xml.Element, document.Omits (f document)) (env : Environment) (d : Located)
    (w : Workspace) :
    let built := exec (Compose.build env d) w
    let rebuilt := exec (Compose.build (env.revised f) (d.revised f)) (w.revised f)
    rebuilt.1 = built.1 ∧ rebuilt.2 = built.2.revised f ∧
      ∀ n : Nat, (rebuilt.2.collection.schemas[n]?).map (fun s => { s with source := none }) =
        (built.2.collection.schemas[n]?).map fun s => { s with source := none } := by
  intro built rebuilt
  have hrevises := build_revises (.of_omits hf) env d w
  have houtcome : rebuilt.1 = built.1 := by
    rw [show rebuilt = _ from hrevises]
    exact congrFun Except.map_id built.1
  have hlater : rebuilt.2 = built.2.revised f := congrArg Prod.snd hrevises
  refine ⟨houtcome, hlater, fun n => ?_⟩
  rw [hlater, show (built.2.revised f).collection.schemas[n]? =
    (built.2.collection.schemas[n]?).map (Schema.mapSource (Source.revised f)) from
      built.2.collection.schemas_mapSources _ n, Option.map_map]
  rfl

/-- A group reference without a target and an unknown element, neither of which
is missed. -/
theorem build_omits_stray :
    let name := fun localName => ({ uri := some schemaNamespace, localName } : Xml.Name)
    let particle : Xml.Node := .element { name := name "sequence" } []
    let stray : List Xml.Node :=
      [.element { name := name "group" } [], .element { name := name "unknown" } []]
    let label : Xml.Attribute := { name := { localName := "name" }, value := "t" }
    let document := fun nodes : List Xml.Node => ({
      tag := { name := name "schema" }
      children := [.element { name := name "complexType", attributes := [label] } nodes] } :
        Xml.Element)
    let env : Environment := ⟨.nothing, .keep⟩
    (document (stray ++ [particle])).essential = document [particle] ∧
      (exec (Compose.build (env.revised .essential) ⟨"a.xsd", document [particle]⟩) {}).1 =
        (exec (Compose.build env ⟨"a.xsd", document (stray ++ [particle])⟩) {}).1 ∧
      (exec (Compose.build env ⟨"a.xsd", document (stray ++ [particle])⟩) {}).1.toOption =
        some 1 := by
  intro name particle stray label document env
  have hessential : (document (stray ++ [particle])).essential = document [particle] := rfl
  obtain ⟨houtcome, -⟩ := build_omits Xml.Element.omits_essential env
    ⟨"a.xsd", document (stray ++ [particle])⟩ {}
  rw [Workspace.revised_fresh] at houtcome
  exact ⟨hessential, houtcome, by decide +kernel⟩

end Compose

end XmlSchema
