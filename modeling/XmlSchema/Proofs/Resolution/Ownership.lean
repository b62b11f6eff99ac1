import XmlSchema.Proofs.Collection.Ownership
import XmlSchema.Proofs.Resolution.Origin

/-!
# Compositions keep what they own in its place

However documents are composed, and whether or not it succeeds, the schemas
that are built stay balanced, and those that were there before are left alone
but for types that are found.
-/

namespace XmlSchema

open Attempt

namespace Collection

variable {c later : Collection} {first n : Nat}

theorem Tends.elsewhere (h : c.Tends first n [] later) (m : Nat) : c.Tends first m [] later :=
  ⟨h.balanced.elsewhere m, h.size_le, h.before⟩

/-- What is on hand can be dropped. -/
theorem Tends.drop {loose : List ComponentRef} (h : c.Tends first n loose later) :
    c.Tends first n [] later := by
  refine ⟨⟨h.balanced.numbered, h.balanced.first_le, fun m s hm hs => ?_⟩, h.size_le, h.before⟩
  rw [ite_self]
  exact (h.balanced.schema m s hm hs).mono List.nil_subperm

end Collection

namespace Compose

open Collection

variable {env : Environment} {w : Workspace} {cx : Context} {first n : Nat} {α β : Type}

/-- A step that keeps all schemas balanced and has something on hand in the
end; when it fails, nothing is left on hand. -/
def Tidies (first n : Nat) (m : Compose α) (w : Workspace) (loose : α → List ComponentRef) :
    Prop :=
  Ends m w (fun a w' => w.collection.Tends first n (loose a) w'.collection)
    (fun _ w' => w.collection.Tends first n [] w'.collection)

/-- Building a document keeps all schemas balanced. -/
def BuildsTidily (first : Nat) (build : Build) : Prop :=
  ∀ n w source parent inherited, w.collection.Balanced first n [] →
    Tidies first n (build source parent inherited) w fun _ => []

theorem Tidies.bind {m : Compose α} {f : α → Compose β} {loose : α → List ComponentRef}
    {loose' : β → List ComponentRef} (h : Tidies first n m w loose)
    (hf : ∀ a w', w.collection.Tends first n (loose a) w'.collection →
      Tidies first n (f a) w' loose') : Tidies first n (m >>= f) w loose' := by
  refine Ends.bind h fun a w' hw' => (hf a w' hw').mono ?_ ?_
  · exact fun b w'' hw'' => hw'.trans hw''
  · exact fun e w'' hw'' => hw'.trans hw''

theorem fetch_tidies (h : w.collection.Balanced first n []) (r : Request) :
    Tidies first n (fetch env r) w fun _ => [] := by
  have hask : ∀ w₁ : Workspace, w₁.collection = w.collection →
      Ends (ask env r) w₁ (fun _ w' => w.collection.Tends first n [] w'.collection)
        (fun _ w' => w.collection.Tends first n [] w'.collection) := by
    intro w₁ hw₁
    have hsame : w.collection.Tends first n [] w₁.collection := hw₁ ▸ h.refl
    exact ask_ends (fun _ _ => hsame) (fun _ => hsame) fun _ _ => hsame
  refine fetch_ends_of ?_ ?_ ?_
  · exact fun _ => hask w rfl
  · exact fun _ _ => hask _ rfl
  · exact fun _ _ _ _ => h.refl

theorem resolveNested_tidies {build : Build} (hbuild : BuildsTidily first build)
    (h : w.collection.Balanced first n []) (r : Request) (parent : Option SchemaKey)
    (inherited : Option String) :
    Tidies first n (resolveNested env build r parent inherited) w fun _ => [] := by
  unfold resolveNested
  refine Tidies.bind (fetch_tidies h r) fun found w₁ hw₁ => ?_
  cases found with
  | none => exact hw₁.balanced.refl
  | some source =>
      dsimp only
      unfold Tidies
      rw [ends_bind, ends_get]
      split
      · exact hw₁.balanced.refl
      · exact Tidies.bind (hbuild n w₁ source parent inherited hw₁.balanced) fun _ _ hw₂ =>
          hw₂.balanced.refl

/-- What a reader yields is taken over into the schema. -/
theorem onBench_tidies {reader : Attempt Workbench α} {before : List ComponentRef}
    {after : α → List ComponentRef} (h : w.collection.Balanced first n before) (hfirst : first ≤ n)
    (hreader : Ends reader { components := w.collection.components n }
      (fun a b => Components.Yields n (w.collection.components n) b.components before (after a))
      (fun _ b => Components.Yields n (w.collection.components n) b.components before [])) :
    Tidies first n (onBench n reader) w after := by
  unfold Tidies Ends at *
  rw [Plan.exec_onBench]
  rcases hexec : exec reader { components := w.collection.components n } with ⟨e | a, bench⟩
  all_goals
    rw [hexec] at hreader
    exact h.absorb hfirst hreader

theorem listExternal_tidies (h : w.collection.Balanced first cx.schema [])
    (hfirst : first ≤ cx.schema) (scope : Scope) {d : Draft} (hd : d.parts = [])
    (children : List Xml.Node) (target : Collection → Option Nat) :
    Tidies first cx.schema (listExternal cx scope d children target) w fun _ => [] := by
  unfold listExternal Tidies
  rw [ends_bind, ends_get]
  have hread : Tidies first cx.schema (onBench cx.schema (Reader.children cx scope d children)) w
      Draft.parts := by
    refine onBench_tidies h hfirst ?_
    have hgrounded : Reader.Grounded cx { components := w.collection.components cx.schema } d := by
      rw [Reader.Grounded, hd]
      exact nofun
    have hchildren : Ends (Reader.children cx scope d children) _ _ _ :=
      Reader.children_owns hgrounded children
    rw [hd] at hchildren
    exact hchildren
  refine Tidies.bind hread fun d' w₁ hw₁ => ?_
  cases d' with
  | external e =>
      have hlist : w₁.collection.Tends first cx.schema [] (w₁.collection.addItem cx.schema
          (.external { e with target := target w.collection })) :=
        hw₁.balanced.addItem hfirst
      exact hlist
  | _ => exact hw₁.balanced.refl.drop

theorem seek_tidies {build : Build} (hbuild : BuildsTidily first build)
    (h : w.collection.Balanced first cx.schema []) (e : ExternalRef) :
    Tidies first cx.schema (seek env build cx e) w fun _ => [] := by
  unfold seek
  split
  · exact h.refl
  · exact resolveNested_tidies hbuild h _ _ _

theorem external_tidies {build : Build} (hbuild : BuildsTidily first build)
    (h : w.collection.Balanced first cx.schema []) (hfirst : first ≤ cx.schema) (scope : Scope)
    (kind : ExternalKind) (e : Xml.Element) :
    Tidies first cx.schema (external env build cx scope kind e) w fun _ => [] := by
  rw [external_eq]
  -- a reference begins with nothing redefined, and its attributes change nothing there
  have hbegin : Ends (onBench cx.schema (Reader.meetAll cx (Reader.foreignAttributes e.tag)
      (.external (reference kind e.tag)))) w
      (fun d w₁ => w.collection.Tends first cx.schema [] w₁.collection ∧ d.parts = [])
      (fun _ w₁ => w.collection.Tends first cx.schema [] w₁.collection) := by
    have hmeet : Ends (Reader.meetAll cx (Reader.foreignAttributes e.tag)
        (.external (reference kind e.tag)))
        { components := w.collection.components cx.schema } _ _ := Reader.meetAll_owns _
    unfold Ends at hmeet ⊢
    rw [Plan.exec_onBench]
    split at hmeet
    · rename_i d bench hexec
      obtain ⟨hcs, hd⟩ := hmeet
      rw [hexec]
      refine ⟨h.absorb hfirst ?_, hd⟩
      rw [hcs]
      exact .refl _ _ _
    · exact hmeet.elim
  refine Ends.bind hbegin ?_
  rintro d w₁ ⟨hw₁, hd⟩
  refine Ends.bind ((seek_tidies hbuild hw₁.balanced _).mono (fun _ _ h => hw₁.trans h)
    fun _ _ h => hw₁.trans h) ?_
  intro found w₂ hw₂
  exact (listExternal_tidies hw₂.balanced hfirst _ hd e.children _).mono
    (fun _ _ h => hw₂.trans h) fun _ _ h => hw₂.trans h

theorem meet_tidies (h : w.collection.Balanced first cx.schema []) (hfirst : first ≤ cx.schema)
    (content : ForeignContent) :
    Tidies first cx.schema (meet cx content) w fun _ => [] := by
  unfold meet Tidies
  rw [ends_bind, ends_modify]
  split
  · exact h.remark hfirst (fun _ => rfl) (fun _ => rfl) fun _ => rfl
  · exact h.refl

/-- What has been read at the top level is on hand, to be listed. -/
theorem enlist_tidies (hfirst : first ≤ cx.schema) (hcx : cx.schema < w.collection.schemas.size)
    (p : Part) (h : w.collection.Balanced first cx.schema p.parts) :
    Tidies first cx.schema (enlist cx p) w fun _ => [] := by
  cases p with
  | note a =>
      have hlist : w.collection.Tends first cx.schema []
          (w.collection.addItem cx.schema (.note a)) :=
        h.addItem hfirst
      exact hlist
  | component ref =>
      unfold enlist attempt Tidies
      rw [ends_bind, ends_get]
      dsimp only
      cases hc : w.collection.enlist ref.id with
      | error e => exact h.refl.drop
      | ok c => exact h.enlist hfirst hcx hc
  | _ => exact h.refl.drop

theorem topLevelChild_tidies {build : Build} (hbuild : BuildsTidily first build)
    (h : w.collection.Balanced first cx.schema []) (hfirst : first ≤ cx.schema)
    (hcx : cx.schema < w.collection.schemas.size) (scope : Scope) (e : Xml.Element) :
    Tidies first cx.schema (topLevelChild env build cx scope e) w fun _ => [] := by
  unfold topLevelChild
  split
  · exact h.refl
  · exact meet_tidies h hfirst _
  · exact external_tidies hbuild h hfirst scope _ e
  · split
    · exact h.refl
    · rename_i role _
      have hread : Tidies first cx.schema (onBench cx.schema (Reader.construct cx scope role e)) w
          Part.parts := onBench_tidies h hfirst (Reader.construct_owns role e)
      refine Tidies.bind hread fun p w₁ hw₁ => ?_
      exact enlist_tidies hfirst (Nat.lt_of_lt_of_le hcx hw₁.size_le) p hw₁.balanced

theorem topLevelPass_tidies {build : Build} (hbuild : BuildsTidily first build)
    (hfirst : first ≤ cx.schema) (scope : Scope) {elements : List Xml.Element}
    (h : w.collection.Balanced first cx.schema [])
    (hcx : cx.schema < w.collection.schemas.size) :
    Tidies first cx.schema (topLevelPass env build cx scope elements) w fun _ => [] := by
  induction elements generalizing w with
  | nil => exact h.refl
  | cons e rest ih =>
      refine Tidies.bind (topLevelChild_tidies hbuild h hfirst hcx scope e) fun _ w₁ hw₁ => ?_
      exact ih hw₁.balanced (Nat.lt_of_lt_of_le hcx hw₁.size_le)

theorem buildSource_tidies (fuel : Nat) : BuildsTidily first (buildSource env fuel) := by
  induction fuel with
  | zero => exact fun n w source parent inherited h => h.refl
  | succ fuel ih =>
      intro n w source parent inherited h
      unfold Tidies Ends
      cases hroot : source.document.tag.is schemaNamespace "schema" with
      | false =>
          rw [exec_buildSource_of_not_schema env parent hroot]
          exact h.refl
      | true =>
          cases hnew : w.collection.schema? (keyOf source inherited) with
          | some s =>
              rw [exec_buildSource_of_registered env parent hroot (by rw [hnew]; rfl)]
              exact h.refl
          | none =>
              let number := w.collection.schemas.size
              have hopened : w.collection.Tends first number []
                  (opened env w source parent inherited).collection :=
                (h.elsewhere number).push rfl rfl rfl
              have hsize :
                  number < (opened env w source parent inherited).collection.schemas.size :=
                (Array.getElem?_eq_some_iff.1 (Plan.schemas_opened env w source parent inherited)).1
              have hpass : Tidies first number (topLevelPass env (buildSource env fuel)
                  (Context.ofSchema (rootSchema env.policy number source parent inherited)
                    env.policy)
                  ((Scope.inherited (fallback w source parent inherited)).enter
                    source.document.tag.declared)
                  source.document.childElements) (opened env w source parent inherited)
                  fun _ => [] :=
                topLevelPass_tidies ih h.first_le _ hopened.balanced hsize
              rw [exec_buildSource env parent hroot hnew fuel]
              unfold Tidies Ends at hpass
              split at hpass
              · rename_i w₂ heq
                rw [heq]
                have hfinish := hpass.balanced.remark h.first_le
                  (f := fun s => { s with progress := .complete }) (fun _ => rfl) (fun _ => rfl)
                  fun _ => rfl
                exact ((hopened.trans hpass).trans hfinish).elsewhere n
              · rename_i e w₂ heq
                rw [heq]
                exact (hopened.trans hpass).elsewhere n

theorem build_tidies (h : w.collection.Balanced first n []) (d : Located) :
    Tidies first n (build env d) w fun _ => [] := by
  have hissue : Tidies first n (issue d) w fun _ => [] := h.refl
  exact hissue.bind fun source w₁ hw₁ =>
    buildSource_tidies _ n w₁ source none none hw₁.balanced

theorem buildText_tidies (h : w.collection.Balanced first n []) (locator text : String) :
    Tidies first n (buildText env locator text) w fun _ => [] := by
  unfold buildText
  split
  · exact h.refl
  · exact build_tidies h _

theorem readLocation_tidies (h : w.collection.Balanced first n []) (location : String)
    (base : Option String) : Tidies first n (readLocation env location base) w fun _ => [] :=
  resolveNested_tidies (buildSource_tidies _) h _ none none

end Compose

/-- Calls that build documents keep all schemas balanced. -/
theorem Collection.Balanced.tends {c : Collection} {first n : Nat} (h : c.Balanced first n [])
    {op : Operation} (hop : op.Builds) : c.Tends first n [] (c.perform op) := by
  cases op with
  | build env w d => exact Ends.state (Compose.build_tidies (w := { w with collection := c }) h d)
  | buildText env w locator text =>
      exact Ends.state
        (Compose.buildText_tidies (w := { w with collection := c }) h locator text)
  | readLocation env w location base =>
      exact Ends.state
        (Compose.readLocation_tidies (w := { w with collection := c }) h location base)
  | _ => cases hop

end XmlSchema
