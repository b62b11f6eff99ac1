import XmlSchema.Proofs.Collection.Emission
import XmlSchema.Proofs.Collection.Writable
import XmlSchema.Proofs.Resolution.Record
import XmlSchema.Proofs.Resolution.TypeRegistry

/-!
# Documents that can be written again

In a collection that holds nothing but what documents have supplied, nothing is
missing and no types are nested without end.  Whether a schema can be written
is therefore a matter of the shapes of its types and of the names of its
redefinitions alone.
-/

namespace XmlSchema

open Attempt

/-- A call that reads documents, or registers a schema or a namespace for them. -/
def Operation.Documentary : Operation → Prop
  | addSchema _ _ => True
  | mapNamespace _ _ => True
  | build _ _ _ => True
  | buildText _ _ _ _ => True
  | readLocation _ _ _ _ => True
  | _ => False

namespace Collection

/-- What holds of the empty collection and is kept by the calls that register a
schema, map a namespace or build documents, holds of all that documents lead
to. -/
theorem Reachable.documentary_induction {P : Collection → Prop} {c : Collection}
    (h : c.Reachable fun _ op => op.Documentary) (hempty : P .empty)
    (hregister : ∀ (c : Collection) (key : SchemaKey) (target : Option String), P c →
      P (c.push { number := c.schemas.size, key, targetNamespace := target }))
    (hmap : ∀ (c : Collection) (uri : String) (number : Nat), P c → P (c.mapNamespace uri number))
    (hbuild : ∀ (c : Collection) (op : Operation), op.Builds → P c → P (c.perform op)) : P c := by
  induction h with
  | empty => exact hempty
  | @perform c h op hop ih =>
      cases op with
      | addSchema key target =>
          rcases c.perform_addSchema key target with heq | ⟨-, heq⟩
          · rw [heq]
            exact ih
          · rw [heq]
            exact hregister c key target ih
      | mapNamespace uri number => exact hmap c uri number ih
      | build | buildText | readLocation => exact hbuild c _ trivial ih
      | _ => cases hop

/-- Nothing is missing in any schema but the built-in one. -/
structure Documentary (c : Collection) : Prop where
  numbered : c.Numbered
  authored : ∀ n s, c.schemas[n]? = some s → s.builtin = false → c.Authored n

variable {c later : Collection} {n : Nat}

end Collection

namespace Compose.Plan

open Collection

variable {env : Environment} {c later : Collection} {n : Nat}

theorem Change.documentary (step : (grounded env).Change c later) (h : c.Documentary) :
    later.Documentary := by
  have hgrows := step.grows
  refine ⟨step.numbered h.numbered, fun n s' hs' hauthored => ?_⟩
  -- what was there before was in a schema that is not built in
  have hbefore : n < c.schemas.size → c.Authored n := by
    intro hn
    obtain ⟨t, ht, hst⟩ := hgrows n _ (Array.getElem?_eq_getElem hn)
    cases Option.some.inj (hs'.symm.trans ht)
    exact h.authored n _ (Array.getElem?_eq_getElem hn) (hst.builtin_eq ▸ hauthored)
  have hlt : ∀ {kind : ComponentKind} {i : Nat} {x : kind.Component},
      ((c.components n).ofKind kind)[i]? = some x → n < c.schemas.size := by
    intro kind i x hx
    refine Nat.lt_of_not_le fun hle => ?_
    unfold Collection.components at hx
    rw [Array.getElem?_eq_none hle] at hx
    cases kind <;> simp [Components.ofKind] at hx
  have hextends := hgrows.components n
  refine ⟨fun {kind} id y hy => ?_, fun t ht ref href => ?_, fun t ht e he ref href => ?_⟩
  · rcases step.component_cases hy with ⟨x, hx, hyx⟩ | ⟨cx, cs, x, hn, -, hx, hcount, hcs, hyx⟩
    · exact ((hbefore (hlt hx)).carries id x hx).extend hextends hyx
    · have hcarries : cs.Carries n id.index x := by
        refine ⟨fun part hpart => (hx.parts part hpart).schema_eq.trans hn, ?_, ?_, hx.authored⟩
        · intro part hpart
          obtain ⟨z, hz, -⟩ := (hx.parts part hpart).exists_homed
          exact ⟨z, hz⟩
        · intro hkind part hpart
          subst hkind
          rw [← hcount]
          exact (hx.parts part hpart).before
      exact hcarries.extend hcs hyx
  · cases Option.some.inj (hs'.symm.trans ht)
    rcases step.item_cases h.numbered hs' href with ⟨s, hs, href⟩ | hlisted
    · have hn := (Array.getElem?_eq_some_iff.1 hs).1
      obtain ⟨hschema, name, hname⟩ := (hbefore hn).components s hs ref href
      exact ⟨hschema, name, hname.extend hextends⟩
    · obtain ⟨cx, construct, role, name, hn, -, -, hpart, -, hname⟩ := hlisted
      exact ⟨(hpart.1 _ List.mem_cons_self).schema_eq.trans hn, name, hname⟩
  · cases Option.some.inj (hs'.symm.trans ht)
    rcases step.item_cases h.numbered hs' he with ⟨s, hs, he⟩ | hlisted
    · have hn := (Array.getElem?_eq_some_iff.1 hs).1
      obtain ⟨hschema, x, hx⟩ := (hbefore hn).redefined s hs e he ref href
      obtain ⟨y, hy, -⟩ := hextends ref.kind ref.id.index x hx
      exact ⟨hschema, y, hy⟩
    · obtain ⟨cx, e₀, hn, -, heq, hdraft, -⟩ := hlisted
      rw [heq] at href
      have hground := hdraft.1 ref href
      obtain ⟨x, hx, -⟩ := hground.exists_homed
      exact ⟨hground.schema_eq.trans hn, x, hx⟩

theorem Run.documentary (h : (grounded env).Run c later) (hc : c.Documentary) :
    later.Documentary := by
  induction h with
  | refl => exact hc
  | tail _ step ih => exact step.documentary ih

end Compose.Plan

namespace Collection

variable {c : Collection}

theorem Documentary.push (h : c.Documentary) {s : Schema} (hnumber : s.number = c.schemas.size)
    (hcs : s.components = {}) (hitems : s.items = []) : (c.push s).Documentary := by
  refine ⟨h.numbered.push hnumber, fun n t ht hauthored => ?_⟩
  have hcomponents := components_push (c := c) hcs n
  rw [schemas_push] at ht
  split at ht
  · rename_i hn
    cases ht
    have hempty : c.components n = {} := by
      unfold Collection.components
      rw [hn, Array.getElem?_eq_none (Nat.le_refl _)]
      rfl
    have hnone : ∀ t, (c.push s).schemas[n]? = some t → t.items = [] := by
      intro t ht
      rw [schemas_push, if_pos hn] at ht
      cases ht
      exact hitems
    refine ⟨fun {kind} id x hx => ?_, fun t ht ref href => ?_, fun t ht e he => ?_⟩
    · rw [hcomponents, hempty] at hx
      cases kind <;> simp [Components.get?, Components.ofKind] at hx
    · rw [hnone t ht] at href
      cases href
    · rw [hnone t ht] at he
      cases he
  · rename_i hn
    obtain ⟨hcarries, hitem, hredefined⟩ := h.authored n t ht hauthored
    have hsame : ∀ u, (c.push s).schemas[n]? = some u → c.schemas[n]? = some u := by
      intro u hu
      rw [schemas_push, if_neg hn] at hu
      exact hu
    rw [← hcomponents] at hcarries hitem hredefined
    exact ⟨hcarries, fun u hu => hitem u (hsame u hu), fun u hu => hredefined u (hsame u hu)⟩

/-- The collections that documents lead to. -/
theorem Reachable.documentary (h : c.Reachable fun _ op => op.Documentary) : c.Documentary := by
  refine h.documentary_induction ?_ ?_ ?_ ?_
  · refine ⟨tallied_empty.numbered, fun n s hs hauthored => ?_⟩
    obtain ⟨rfl, rfl⟩ := schemas_empty hs
    cases hauthored
  · exact fun c key target ih => ih.push rfl rfl rfl
  · intro c uri number ih
    refine ⟨ih.numbered, fun n s hs hauthored => ?_⟩
    have hn := ih.authored n s hs hauthored
    exact ⟨hn.carries, hn.components, hn.redefined⟩
  · intro c op hop ih
    obtain ⟨_, hrun⟩ := exists_grounded_run ih.numbered hop
    exact hrun.documentary ih

/-- The document of a schema that documents have supplied. -/
theorem Documentary.document_ends (h : c.Documentary) (policy : ForeignPolicy) {n : Nat}
    {s : Schema} (hs : c.schemas[n]? = some s) (hauthored : s.builtin = false) :
    (∀ d, c.document policy s = .ok d → c.Writable s) ∧
      ∀ e, c.document policy s = .error e → ¬ c.Writable s ∧ Writer.Refusal e := by
  let cx : WriterContext := { collection := c, schema := s, policy }
  have hroot : Decides (Writer.root cx) (c.Writable s) Writer.Refusal :=
    Writer.decides_root (h.authored n s hs hauthored) h.numbered hs
  have hdecides := hroot { prefixes := PrefixTable.ofSchema s }
  have hdocument : c.document policy s =
      (exec (Writer.root cx) { prefixes := PrefixTable.ofSchema s }).1.map _ := rfl
  unfold Ends at hdecides
  rw [hdocument]
  rcases hexec : exec (Writer.root cx) { prefixes := PrefixTable.ofSchema s } with ⟨e | d, t⟩
  all_goals rw [hexec] at hdecides
  · refine ⟨nofun, fun e' he' => ?_⟩
    cases he'
    exact hdecides
  · exact ⟨fun _ _ => hdecides, nofun⟩

/-- What documents have supplied can be written, with what it refers to or
without, exactly when in each schema that is written the parts of every type go
together and every redefinition has a name.  Nothing else stands in the way:
no component is missing, none is built in, and no type contains itself. -/
theorem Reachable.write_ok_iff_writable (h : c.Reachable fun _ op => op.Documentary)
    (policy : ForeignPolicy) (n : Nat) (recursive : Bool) :
    ((∃ written, (c.write policy n recursive).1 = .ok written) ↔
      ∀ m s, c.Emits recursive n m → c.schemas[m]? = some s → s.builtin = false →
        c.Writable s) ∧
    ∀ e, (c.write policy n recursive).1 = .error e → Writer.Refusal e := by
  have hdocument := fun {m s} => h.documentary.document_ends policy (n := m) (s := s)
  constructor
  · rw [write_ok_iff]
    constructor
    · intro hall m s hemits hs hauthored
      obtain ⟨d, hd⟩ := hall m s hemits hs hauthored
      exact (hdocument hs hauthored).1 d hd
    · intro hall m s hemits hs hauthored
      cases hd : c.document policy s with
      | ok d => exact ⟨d, rfl⟩
      | error e => exact absurd (hall m s hemits hs hauthored) ((hdocument hs hauthored).2 e hd).1
  · intro e he
    obtain ⟨m, s, -, hs, hauthored, hd⟩ := exists_of_write_error he
    exact ((hdocument hs hauthored).2 e hd).2

/-- The collection of a document that restricts simple content by a base and,
as the schema language allows, by a type defined in place. -/
def narrowedContent : Collection :=
  Collection.empty.perform (.buildText ⟨.nothing, .keep⟩ {} "a.xsd"
    ("<xs:schema xmlns:xs=\"http://www.w3.org/2001/XMLSchema\">" ++
      "<xs:complexType name=\"a\"><xs:simpleContent><xs:extension base=\"xs:string\"/>" ++
      "</xs:simpleContent></xs:complexType>" ++
      "<xs:complexType name=\"b\"><xs:simpleContent><xs:restriction base=\"a\">" ++
      "<xs:simpleType><xs:restriction base=\"xs:string\"/></xs:simpleType>" ++
      "</xs:restriction></xs:simpleContent></xs:complexType></xs:schema>"))

/-- The document has been built, and it cannot be written. -/
theorem write_narrowedContent :
    narrowedContent.schemas.size = 2 ∧
      ¬ ∀ m s, narrowedContent.Emits false 1 m → narrowedContent.schemas[m]? = some s →
        s.builtin = false → narrowedContent.Writable s := by
  have hreach : narrowedContent.Reachable fun _ op => op.Documentary :=
    .perform .empty _ trivial
  have hbuilt : narrowedContent.schemas.size = 2 ∧
      (narrowedContent.write .keep 1 false).1.isOk = false := by
    decide +kernel
  refine ⟨hbuilt.1, fun hall => ?_⟩
  obtain ⟨written, hwritten⟩ := (hreach.write_ok_iff_writable .keep 1 false).1.2 hall
  have hfails := hbuilt.2
  rw [hwritten] at hfails
  cases hfails

end Collection

end XmlSchema
