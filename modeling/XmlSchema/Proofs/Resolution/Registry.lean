import XmlSchema.Proofs.Collection.Registry
import XmlSchema.Proofs.Document.Titling
import XmlSchema.Proofs.Resolution.Ownership
import XmlSchema.Proofs.Resolution.Permanence
import XmlSchema.Proofs.Resolution.Record
import XmlSchema.Proofs.Text.Trimming

/-!
# Names and items after all calls

Whatever calls are made, and whether or not they succeed, the registered names
of a schema and the components that its items list agree.  Documents register
what stands at their top level alone, under names of their own.
-/

namespace XmlSchema

open Attempt

namespace Compose.Plan

open Collection

variable {env : Environment} {P : Plan env} {c later : Collection}

theorem Change.inStep (step : P.Change c later) (h : c.InStep) : later.InStep := by
  cases step with
  | begin source parent inherited hnew hkey => exact h.push rfl
  | meet n t kids ht =>
      refine h.grow (.modify fun _ _ => ?_) (.modify fun _ => rfl)
      exact ⟨rfl, .refl _, List.prefix_refl _, List.prefix_refl _⟩
  | absorb cx bench hcx hrun => exact h.grow (.absorb hrun.extends) (SameFrame.absorb _ bench).roll
  | note => exact h.grow (.addItem _ _ _) (.addItem rfl)
  | external => exact h.grow (.addItem _ _ _) (.addItem rfl)
  | enlist _ cx construct role ref hcx hrole href hc => exact h.enlist hc
  | finish n =>
      refine h.grow (.modify fun _ _ => ?_) (.modify fun _ => rfl)
      exact ⟨rfl, .refl _, List.prefix_refl _, List.prefix_refl _⟩

theorem Run.inStep (hrun : P.Run c later) (h : c.InStep) : later.InStep := by
  induction hrun with
  | refl => exact h
  | tail _ step ih => exact step.inStep ih

/-- The plan by which what documents define has names of their own. -/
def titled (env : Environment) : Plan env where
  cacheless := False
  reading cx := (Reader.grounding cx).and (Reader.titling cx)
  key _ := True
  admits _ _ := True
  first := 0
  tag_of_admits _ _ :=
    ⟨⟨trivial, trivial⟩, Xml.Node.everyIn_of_forall (fun _ => ⟨trivial, trivial⟩) _⟩
  opened_reference _ _ := ⟨⟨rfl, trivial⟩, nofun⟩
  schema_of_part h := (h.1.1 _ List.mem_cons_self).schema_eq
  key_of_offers _ _ := trivial
  admits_of_offers _ _ := trivial

theorem titled_lax (env : Environment) : (titled env).Lax :=
  ⟨id, fun _ => trivial, fun _ _ => trivial, rfl⟩

end Compose.Plan

namespace Collection

variable {c later : Collection} {n : Nat} {kind : ComponentKind}

namespace InStep

theorem add (h : c.InStep) (hc : c.Numbered) (n : Nat) (x : kind.Component) :
    (c.add n kind x).2.InStep := by
  have hall : (c.allocate n kind (kind.markTopLevel x)).2.InStep :=
    h.grow (.allocate hc _ _ _) (SameFrame.allocate hc n _).roll
  rcases c.add_cases n kind x with ⟨-, heq⟩ | ⟨later, hlater, heq⟩
  · rw [heq]
    exact hall
  · rw [heq]
    exact hall.enlist hlater

theorem perform (h : c.InStep) (hc : c.Numbered) (op : Operation) : (c.perform op).InStep := by
  have hbuild : op.Builds → (c.perform op).InStep := fun hop =>
    have ⟨_, hrun⟩ := exists_grounded_run hc hop
    hrun.inStep h
  cases op with
  | addSchema key target =>
      rcases c.perform_addSchema key target with heq | ⟨-, heq⟩
      · rw [heq]
        exact h
      · rw [heq]
        exact h.push rfl
  | mapNamespace uri number => exact h
  | addNote number a => exact h.grow (.addItem _ _ _) (.addItem rfl)
  | addExternal number e => exact h.grow (.addItem _ _ _) (.addItem rfl)
  | allocate number kind x => exact h.grow (.allocate hc _ _ _) (SameFrame.allocate hc _ x).roll
  | add number kind x => exact h.add hc number x
  | build | buildText | readLocation => exact hbuild trivial

end InStep

theorem Reachable.inStep {allowed : Collection → Operation → Prop} (h : c.Reachable allowed) :
    c.InStep := by
  induction h with
  | empty =>
      intro n s hn hs
      exact absurd (schemas_empty hs).1 hn
  | perform hc op _ ih => exact ih.perform hc.keyed.numbered op

/-- What the documents that are built into a collection register.  Schemas that
were there keep their names.  In those that are new, a registered component is a
global one of the schema, its name is a trimmed one of the namespace of the
schema, and it is neither defined inside a component of a new schema nor a
redefinition. -/
structure Enrolls (c later : Collection) : Prop where
  before : ∀ n < c.schemas.size,
    (later.schemas[n]?).map Schema.names = (c.schemas[n]?).map Schema.names
  homed : ∀ (n : Nat) (s : Schema), c.schemas.size ≤ n → later.schemas[n]? = some s →
    ∀ r ∈ s.names, r.name.namespaceName = s.logicalNamespace ∧
      Text.trim r.name.localName = r.name.localName
  global : ∀ (n : Nat) (s : Schema), c.schemas.size ≤ n → later.schemas[n]? = some s →
    ∀ r ∈ s.names, ∃ x, later.get? (r.ref n).id = some x ∧ r.kind.nameOf x = some r.name ∧
      r.kind.isGlobal x = true
  apart : ∀ (n m : Nat) (s t : Schema), c.schemas.size ≤ n → later.schemas[n]? = some s →
    c.schemas.size ≤ m → later.schemas[m]? = some t → ∀ r ∈ s.names, r.ref n ∉ t.nested

/-- A registered component of a new schema is what a construct at the top level
of the document amounts to. -/
theorem exists_titled {env : Environment} {first : Nat} {s : Schema} {r : Registration}
    (hkeeps : (Compose.Plan.titled env).Keeps first c) (hc : c.Numbered) (hn : first ≤ n)
    (hs : c.schemas[n]? = some s) (hstep : s.InStep) (hr : r ∈ s.names) :
    ∃ x, c.get? (r.ref n).id = some x ∧ r.kind.nameOf x = some r.name ∧
      r.kind.isGlobal x = true ∧ ∃ localName, r.name = s.qualify (Text.trim localName) := by
  have hnumber := hc n s hs
  have hlisted : r.ref n ∈ s.listed := by
    rw [hstep.listed_eq, hnumber]
    exact List.mem_map_of_mem hr
  obtain ⟨item, hitem, href⟩ := List.mem_filterMap.1 hlisted
  cases item with
  | note a => cases href
  | external e => cases href
  | component ref =>
      obtain ⟨cx, construct, role, -, hcxn, hcx, hrole, hpart, -, -⟩ :=
        hkeeps.items n s hn hs _ hitem
      obtain ⟨-, x, hx, htitles⟩ := hpart.2 ⟨construct, hrole⟩ ref rfl
      cases href
      rw [components_of_schema hs] at hx
      obtain ⟨y, hy, hname⟩ := hstep.named r hr
      rw [hnumber] at hy
      cases Option.some.inj (hx.symm.trans hy)
      have hget : c.get? (r.ref n).id = s.components.get? (r.ref n).id := get?_of_schema hc hs rfl
      refine ⟨x, hget.trans hx, hname, htitles.isGlobal, ?_⟩
      obtain ⟨localName, hlocal⟩ := htitles.name _ hname
      refine ⟨localName, hlocal.trans ?_⟩
      rw [Context.qualify, hcx.key_eq (hcxn ▸ hs)]
      rfl

theorem InStep.enrolls {env : Environment} (h : later.InStep)
    (hrun : (Compose.Plan.titled env).Run c later) (hc : c.Numbered) (hpos : 0 < c.schemas.size)
    (htends : c.Tends c.schemas.size 0 [] later) : c.Enrolls later := by
  have hkeeps := hrun.keeps hc
  have hnumbered := htends.balanced.numbered
  have hstep : ∀ (n : Nat) (s : Schema), c.schemas.size ≤ n → later.schemas[n]? = some s →
      s.InStep := fun n s hn hs => h n s (by omega) hs
  refine ⟨fun n hn => ?_, fun n s hn hs r hr => ?_, fun n s hn hs r hr => ?_, ?_⟩
  · have hnames := congrArg (Option.map Schema.names) (htends.before n hn)
    rw [Option.map_map, Option.map_map] at hnames
    exact hnames
  · obtain ⟨-, -, -, -, localName, hname⟩ :=
      exists_titled hkeeps hnumbered hn hs (hstep n s hn hs) hr
    rw [hname]
    exact ⟨rfl, Text.trim_trim _⟩
  · obtain ⟨x, hx, hname, hglobal, -⟩ := exists_titled hkeeps hnumbered hn hs (hstep n s hn hs) hr
    exact ⟨x, hx, hname, hglobal⟩
  · intro n m s t hn hs hm ht r hr hnested
    have hlisted : r.ref n ∈ s.listed := by
      rw [(hstep n s hn hs).listed_eq, hnumbered n s hs]
      exact List.mem_map_of_mem hr
    -- what is nested belongs to the schema that it is nested in
    have hnm : n = m :=
      (htends.balanced.has_of_mem hm ht (List.mem_append_right _ hnested)).1
    subst hnm
    cases Option.some.inj (hs.symm.trans ht)
    obtain ⟨log, hlog⟩ := htends.balanced.exists_ledger hm ht
    exact List.disjoint_of_nodup_append hlog.nodup hlisted hnested

theorem InStep.builds (h : c.InStep) (hc : c.Numbered) (hpos : 0 < c.schemas.size)
    {op : Operation} (hop : op.Builds) : c.Enrolls (c.perform op) := by
  -- the schemas that are still to come are balanced
  have hbalanced : c.Balanced c.schemas.size 0 [] := by
    refine ⟨hc, Nat.le_refl _, fun m s hm hs => ?_⟩
    rw [Array.getElem?_eq_none hm] at hs
    cases hs
  obtain ⟨env, hrun⟩ := Compose.Plan.exists_run Compose.Plan.titled_lax hc hop
  exact (h.perform hc op).enrolls hrun hc hpos (hbalanced.tends hop)

theorem Reachable.grows {allowed : Collection → Operation → Prop} (h : c.Reachable allowed) :
    Collection.empty.Grows c := by
  induction h with
  | empty => exact .refl _
  | perform hc op _ ih => exact ih.trans (hc.parked.continues hc.keyed.numbered op).grows

/-- Names and items agree.  In every collection that calls lead to, each schema
but the built-in one lists the components that it has registered, one to one and
in the same order, under the names that they bear; it has as many names as
component items.  Documents register components of their top level alone, under
trimmed names of the namespace of their schema. -/
theorem Reachable.namesMatchItems {allowed : Collection → Operation → Prop}
    (h : c.Reachable allowed) :
    (∀ (n : Nat) (s : Schema), c.schemas[n]? = some s → s.builtin = false →
      (∀ kind, s.NamesListed kind) ∧
        s.names.length = s.items.countP fun item => item.component?.isSome) ∧
      ∀ op : Operation, op.Builds → c.Enrolls (c.perform op) := by
  have hfirst : ∃ s, c.schemas[0]? = some s ∧ s.builtin = true := by
    obtain ⟨s, hs, hgrows⟩ := h.grows 0 Catalogue.schema rfl
    exact ⟨s, hs, hgrows.builtin_eq⟩
  obtain ⟨first, hfirst, hbuiltin⟩ := hfirst
  refine ⟨fun n s hs hauthored => ?_, fun op hop => ?_⟩
  · have hn : n ≠ 0 := by
      rintro rfl
      cases Option.some.inj (hs.symm.trans hfirst)
      rw [hbuiltin] at hauthored
      cases hauthored
    have hstep := h.inStep n s hn hs
    exact ⟨hstep.namesListed, hstep.length_names⟩
  · exact h.inStep.builds h.keyed.numbered (Array.getElem?_eq_some_iff.1 hfirst).1 hop

/-- A collection with an element of its own, another one of the same name that
has been refused, and one that is allocated alone. -/
def refusedElement : Collection :=
  (((Collection.empty.perform (.addSchema ⟨"urn:a", "a.xsd"⟩ (some "urn:a"))).perform
    (.add 1 .element { name := some ⟨"urn:a", "e"⟩ })).perform
      (.add 1 .element { name := some ⟨"urn:a", "e"⟩ })).perform
        (.allocate 1 .element { name := some ⟨"urn:a", "f"⟩ })

/-- A document with a redefinition, an element with another one inside and a
group. -/
def redefiningDocument : Operation :=
  .buildText ⟨.nothing, .keep⟩ {} "b.xsd"
    ("<schema xmlns=\"http://www.w3.org/2001/XMLSchema\" targetNamespace=\"urn:b\">" ++
      "<redefine schemaLocation=\"c.xsd\"><group name=\"g\"/></redefine>" ++
      "<element name=\" e \"><complexType><sequence><element name=\"f\"/></sequence>" ++
      "</complexType></element><group name=\"g\"/></schema>")

/-- The refused element is owned but neither named nor listed, and of the
document the outer element and the second group are registered. -/
theorem namesMatchItems_redefiningDocument :
    refusedElement.Reachable (fun _ _ => True) ∧ redefiningDocument.Builds ∧
      refusedElement.Enrolls (refusedElement.perform redefiningDocument) ∧
      ((refusedElement.perform redefiningDocument).registered.map fun s =>
        (s.components.total, s.names, s.listed)) =
        [(3, [⟨.element, ⟨"urn:a", "e"⟩, 0⟩], [⟨.element, ⟨1, 0⟩⟩]),
         (5, [⟨.element, ⟨"urn:b", "e"⟩, 1⟩, ⟨.group, ⟨"urn:b", "g"⟩, 1⟩],
          [⟨.element, ⟨2, 1⟩⟩, ⟨.group, ⟨2, 1⟩⟩])] := by
  have hreach : refusedElement.Reachable fun _ _ => True :=
    .perform (.perform (.perform (.perform .empty _ trivial) _ trivial) _ trivial) _ trivial
  exact ⟨hreach, trivial, hreach.namesMatchItems.2 _ trivial, by decide +kernel⟩

end Collection

end XmlSchema
