import XmlSchema.Proofs.Document.Declarations
import XmlSchema.Proofs.Resolution.Bounds

/-!
# What documents forbid, before and after writing

Every component of a schema that is read from a document is declared or defined
at a site of it, and a document that the schema is written as forbids of the
component what the site forbids, with one exception.  A site whose own
attribute denotes the empty set loses it, so that the common set of its document
comes into effect.
-/

namespace XmlSchema

open Attempt

/-- A schema has kept what the root of its document says of all components, and
of foreign content only what is foreign. -/
def Schema.Headed (s : Schema) : Prop :=
  ∀ source, s.source = some source →
    (∀ control : Control, control.stored s =
      (source.document.tag.attribute? control.default).map DerivationSet.parse) ∧
    (source.document.tag.Proper → ∀ content ∈ s.foreign, content.Outside)

theorem Schema.headed_congr {s s' : Schema} (hsource : s'.source = s.source)
    (hblock : s'.blockDefault = s.blockDefault) (hfinal : s'.finalDefault = s.finalDefault)
    (hforeign : s'.foreign = s.foreign) : s'.Headed = s.Headed := by
  have hstored : ∀ control : Control, control.stored s' = control.stored s := by
    intro control
    cases control with
    | block => exact hblock
    | final => exact hfinal
  unfold Headed
  simp only [hsource, hstored, hforeign]

theorem Schema.blind_headed : Schema.Blind Schema.Headed where
  frame _ := headed_congr rfl rfl rfl rfl
  names _ _ := headed_congr rfl rfl rfl rfl
  item _ _ _ := headed_congr rfl rfl rfl rfl

theorem Compose.headed_rootSchema (policy : ForeignPolicy) (n : Nat) (source : Source)
    (parent : Option SchemaKey) (inherited : Option String) :
    (rootSchema policy n source parent inherited).Headed := by
  intro source' hsource
  cases hsource
  refine ⟨fun control => ?_, fun h => (secluded_rootSchema h policy n parent inherited).own⟩
  cases control <;> rfl

/-- Components are declared or defined in the document. -/
def Provenance.declarations : Provenance where
  stems document := (Site.root document).Declared
  stems_congr h := fun ⟨π, hπ, hx⟩ => ⟨π, hπ, hx.congr h⟩
  construct_reads he hc hrole w :=
    (Tracing.headings _).construct_supplies (Compose.mem_kids he) hc hrole w
  reference_reads he hc r w :=
    (Tracing.headings _).reference_supplies (Compose.mem_kids he) hc r w

namespace Collection

/-- Every schema has kept what the root of its document says. -/
def Headed (c : Collection) : Prop := ∀ (n : Nat) (s : Schema), c.schemas[n]? = some s → s.Headed

variable {c later : Collection} {n : Nat}

theorem SameView.headed (h : c.SameView Schema.Headed later) (hc : c.Headed) : later.Headed := by
  intro n s' hs'
  have hn := h.view_eq n
  rw [hs', Option.map_some, eq_comm, Option.map_eq_some_iff] at hn
  obtain ⟨s, hs, heq⟩ := hn
  exact heq.mp (hc n s hs)

theorem Headed.push (h : c.Headed) {s : Schema} (hs : s.Headed) : (c.push s).Headed := by
  intro n t ht
  rw [schemas_push] at ht
  split at ht
  · cases ht
    exact hs
  · exact h n t ht

end Collection

namespace Compose.Plan

open Collection

variable {env : Environment} {P : Plan env} {c later : Collection}

theorem Change.headed (step : P.Change c later) (h : c.Headed) : later.Headed := by
  cases step with
  | begin source parent inherited _ _ => exact h.push (headed_rootSchema _ _ source parent inherited)
  | meet n t kids ht =>
      intro i s' hs'
      obtain ⟨s, hs, rfl⟩ := schemas_modify_some hs'
      split
      · intro source hsource
        obtain ⟨hstored, hforeign⟩ := h i s hs source hsource
        refine ⟨fun control => ?_, fun hproper content hcontent => ?_⟩
        · rw [← hstored control]
          cases control <;> rfl
        · rcases List.mem_append.1 hcontent with hcontent | hcontent
          · exact hforeign hproper content hcontent
          · rw [List.mem_singleton.1 hcontent]
            exact Reader.outside_of_class ht
      · exact h i s hs
  | absorb cx bench _ _ => exact (SameView.absorb Schema.blind_headed cx.schema bench).headed h
  | note cx _ _ a _ _ _ =>
      exact (SameView.addItem Schema.blind_headed rfl cx.schema).headed h
  | external cx e target _ _ _ =>
      have hview : ∀ s : Schema, (s.addItem (.external { e with target })).Headed = s.Headed :=
        fun _ => Schema.headed_congr rfl rfl rfl rfl
      exact (SameView.modify hview).headed h
  | enlist _ _ _ _ _ _ _ _ h' => exact (SameView.enlist Schema.blind_headed h').headed h
  | finish n =>
      have hview : ∀ s : Schema, ({ s with progress := .complete } : Schema).Headed = s.Headed :=
        fun _ => Schema.headed_congr rfl rfl rfl rfl
      exact (SameView.modify hview).headed h

theorem Run.headed (hrun : P.Run c later) (h : c.Headed) : later.Headed := by
  induction hrun with
  | refl => exact h
  | tail _ step ih => exact step.headed ih

end Compose.Plan

namespace Collection

variable {c : Collection} {n : Nat}

theorem Reachable.headed (h : c.Reachable fun _ op => op.Documentary) : c.Headed := by
  have hboth : c.Numbered ∧ c.Headed := by
    refine h.documentary_induction (P := fun c => c.Numbered ∧ c.Headed) ?_ ?_ ?_ ?_
    · refine ⟨tallied_empty.numbered, fun n s hs source hsource => ?_⟩
      obtain ⟨rfl, rfl⟩ := schemas_empty hs
      cases hsource
    · exact fun c key target ih => ⟨ih.1.push rfl, ih.2.push fun source hsource => by cases hsource⟩
    · exact fun c uri number ih => ih
    · intro c op hop ih
      obtain ⟨env, hrun⟩ := exists_grounded_run ih.1 hop
      exact ⟨hrun.numbered ih.1, hrun.headed ih.2⟩
  exact hboth.2

/-- Every component of a schema that has been read from a document, however
deep it is defined in others, is declared or defined at a site of the document.
Let the schema be written, and let the component be written in any way that
there is.  What the tag of the component then forbids below the root of the new
document is what the tag of the site forbids below the root of the old one,
unless the site opts out of what is common there by an attribute that denotes
the empty set: that attribute is lost, and what is common comes into effect.
Attributes in a namespace without a name, which no parsed document has, are left
aside. -/
theorem Reachable.control_written (h : c.Reachable fun _ op => op.Documentary) {s : Schema}
    {source : Source} (hs : c.schemas[n]? = some s) (hsource : s.source = some source)
    {policy : ForeignPolicy} {d : Xml.Element} (hd : c.document policy s = .ok d)
    {kind : ComponentKind} {i : Nat} {x : kind.Component}
    (hx : (s.components.ofKind kind)[i]? = some x) :
    ∃ π, (Site.root source.document).Within π ∧ π.Declares kind x ∧
      (source.document.tag.Proper → π.tag.Proper → ∀ inline m,
        Writer.Renders ⟨c, s, policy⟩ inline kind ⟨n, i⟩ m → Writer.Gives m fun e =>
          ∀ control, (kind.control? x control).isSome →
            control.Carries source.document.tag π.tag d.tag e.tag) := by
  obtain ⟨π, hπ, hdeclares⟩ := h.stems (V := .declarations) n s source hs hsource kind i x hx
  obtain ⟨hstored, hforeign⟩ := h.headed n s hs source hsource
  refine ⟨π, hπ, hdeclares, fun hroot hown inline m hm => ?_⟩
  have hget : c.get? (⟨n, i⟩ : ComponentId kind) = some x := by
    rw [Collection.get?_eq h.documentary.numbered, components_of_schema hs]
    exact hx
  refine (Writer.gives_rendered hm hget (hdeclares.foreign hown)).mono fun e he control hset => ?_
  obtain ⟨set, hset⟩ := Option.isSome_iff_exists.1 hset
  have hshown := he control set hset
  rw [hdeclares.control_eq hset] at hshown
  refine Control.carries_written hshown (Control.common_written ?_)
  rw [Writer.attribute?_document hd (hforeign hroot) control, hstored control]

/-- A document in which nothing may stand in for anything, but for one element
that takes itself out of this. -/
def optedOutText : String :=
  "<xs:schema xmlns:xs=\"http://www.w3.org/2001/XMLSchema\" blockDefault=\"#all\">" ++
    "<xs:element name=\"e\" block=\"\"/></xs:schema>"

/-- The collection once that document has been built. -/
def optedOut : Collection :=
  Collection.empty.perform (.buildText ⟨.nothing, .keep⟩ {} "a.xsd" optedOutText)

/-- What the children of the root of a document forbid to stand in for them. -/
def blocked (document : Xml.Element) : List DerivationSet :=
  document.childElements.map fun e => Control.block.effective document.tag e.tag

/-- Nothing is forbidden in the document, and everything once it has been
written. -/
theorem blocked_optedOut :
    (optedOut.schemas[1]?.map fun s => (s.source.map fun source => blocked source.document,
      (optedOut.document .keep s).toOption.map blocked, s.components.elements.size)) =
      some (some [.empty], some [.full], 1) := by
  decide +kernel

/-- The element is declared at a site of the document, and its block is what
that site says or what is common, whichever way it is written. -/
theorem control_written_optedOut :
    ∃ (s : Schema) (source : Source) (d : Xml.Element) (x : ElementDecl),
      optedOut.schemas[1]? = some s ∧ s.source = some source ∧
        optedOut.document .keep s = .ok d ∧ s.components.elements[0]? = some x ∧
        ∃ π, (Site.root source.document).Within π ∧ π.Declares .element x ∧
          (source.document.tag.Proper → π.tag.Proper → ∀ inline m,
            Writer.Renders ⟨optedOut, s, .keep⟩ inline .element ⟨1, 0⟩ m →
              Writer.Gives m fun e => ∀ control,
                (ComponentKind.control? .element x control).isSome →
                  control.Carries source.document.tag π.tag d.tag e.tag) := by
  have hreach : optedOut.Reachable fun _ op => op.Documentary := .perform .empty _ trivial
  obtain ⟨s, hs, hbuilt⟩ := Option.map_eq_some_iff.1 blocked_optedOut
  obtain ⟨hsource, hbuilt⟩ := Prod.mk.inj hbuilt
  obtain ⟨hdocument, hsize⟩ := Prod.mk.inj hbuilt
  obtain ⟨source, hsource, -⟩ := Option.map_eq_some_iff.1 hsource
  obtain ⟨d, hd, -⟩ := Option.map_eq_some_iff.1 hdocument
  have hd : optedOut.document .keep s = .ok d := by
    cases hwritten : optedOut.document .keep s with
    | error e =>
        rw [hwritten] at hd
        cases hd
    | ok d' =>
        rw [hwritten] at hd
        cases hd
        rfl
  have hx : (s.components.ofKind .element)[0]? = some s.components.elements[0] :=
    Array.getElem?_eq_getElem _
  exact ⟨s, source, d, _, hs, hsource, hd, hx, hreach.control_written hs hsource hd hx⟩

end Collection

end XmlSchema
