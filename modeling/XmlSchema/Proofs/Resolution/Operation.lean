import XmlSchema.Proofs.Resolution.Walk

/-!
# The calls that change a collection

A collection is reached from the built-in types by calls: schemas and
components are added by hand, and documents are built, each with a resolver and
surroundings of its own.  A call that fails changes the collection all the
same.
-/

namespace XmlSchema

open Attempt

/-- A call that changes a collection.  A call that reads documents begins in a
workspace, of which the collection is exchanged. -/
inductive Operation where
  | addSchema (key : SchemaKey) (target : Option String)
  | mapNamespace (uri : String) (number : Nat)
  | addNote (number : Nat) (a : Annotation)
  | addExternal (number : Nat) (e : ExternalRef)
  | allocate (number : Nat) (kind : ComponentKind) (x : kind.Component)
  | add (number : Nat) (kind : ComponentKind) (x : kind.Component)
  | build (env : Environment) (w : Workspace) (d : Located)
  | buildText (env : Environment) (w : Workspace) (locator text : String)
  | readLocation (env : Environment) (w : Workspace) (location : String) (base : Option String)

namespace Collection

/-- The collection after a call. -/
def perform (c : Collection) : Operation → Collection
  | .addSchema key target =>
      match c.addSchema key target with
      | .ok (_, later) => later
      | .error _ => c
  | .mapNamespace uri number => c.mapNamespace uri number
  | .addNote number a => c.addItem number (.note a)
  | .addExternal number e => c.addItem number (.external e)
  | .allocate number kind x => (c.allocate number kind x).2
  | .add number kind x => (c.add number kind x).2
  | .build env w d => (exec (Compose.build env d) { w with collection := c }).2.collection
  | .buildText env w locator text =>
      (exec (Compose.buildText env locator text) { w with collection := c }).2.collection
  | .readLocation env w location base =>
      (exec (Compose.readLocation env location base) { w with collection := c }).2.collection

/-- A collection that some calls lead to. -/
inductive Reachable (allowed : Collection → Operation → Prop) : Collection → Prop
  | empty : Reachable allowed .empty
  | perform {c : Collection} (h : Reachable allowed c) (op : Operation) (hop : allowed c op) :
      Reachable allowed (c.perform op)

end Collection

/-- A call that builds documents. -/
def Operation.Builds : Operation → Prop
  | build _ _ _ => True
  | buildText _ _ _ _ => True
  | readLocation _ _ _ _ => True
  | _ => False

/-- To add a schema registers it under a key that is new, or does nothing. -/
theorem Collection.perform_addSchema (c : Collection) (key : SchemaKey) (target : Option String) :
    c.perform (.addSchema key target) = c ∨
      c.schema? key = none ∧ c.perform (.addSchema key target) =
        c.push { number := c.schemas.size, key, targetNamespace := target } := by
  unfold Collection.perform Collection.addSchema
  dsimp only
  cases hkey : c.schema? key with
  | none => exact .inr ⟨rfl, rfl⟩
  | some s => exact .inl rfl

namespace Compose

theorem exec_issue (d : Located) (w : Workspace) :
    exec (issue d) w = (.ok ⟨d.locator, d.document, w.nextTicket⟩,
      { w with nextTicket := w.nextTicket + 1 }) := rfl

/-- To build a document is to build it as a source with a ticket of its own. -/
theorem exec_build (env : Environment) (w : Workspace) (d : Located) :
    exec (build env d) w =
      exec (buildSource env (env.resolver.depth + 1) ⟨d.locator, d.document, w.nextTicket⟩ none
        none) { w with nextTicket := w.nextTicket + 1 } := by
  unfold build
  rw [exec_bind, exec_issue]

theorem exec_build_of_not_schema (env : Environment) (w : Workspace) (d : Located)
    (hroot : d.document.tag.is schemaNamespace "schema" = false) :
    exec (build env d) w =
      (.error (.notASchema d.locator d.document.tag.name.lexical),
        { w with nextTicket := w.nextTicket + 1 }) := by
  rw [exec_build, exec_buildSource_of_not_schema env none hroot]

theorem exec_build_of_registered (env : Environment) (w : Workspace) (d : Located)
    (hroot : d.document.tag.is schemaNamespace "schema" = true)
    (hkey : (w.collection.schema? (d.keyUnder none)).isSome) :
    exec (build env d) w =
      (.error (.duplicateSchema (d.keyUnder none)),
        { w with nextTicket := w.nextTicket + 1 }) := by
  have hsource : (({ w with nextTicket := w.nextTicket + 1 } : Workspace).collection.schema?
      (keyOf ⟨d.locator, d.document, w.nextTicket⟩ none)).isSome := hkey
  have hregistered := exec_buildSource_of_registered env none hroot hsource env.resolver.depth
  rw [exec_build, hregistered]
  rfl

namespace Plan

variable {env : Environment} {P : Plan env} {w w' : Workspace}

/-- What a top-level call fails with: a fault, or a schema that is there
already. -/
def Refused (P : Plan env) (w : Workspace) (d : Located) (e : SchemaError) (w' : Workspace) :
    Prop :=
  P.Broken w (env.resolver.depth + 1) e w' ∨
    w'.collection = w.collection ∧ (P.cacheless → w'.cache = none) ∧
      (w.collection.schema? (d.keyUnder none)).isSome ∧ e = .duplicateSchema (d.keyUnder none)

theorem build_ends (h : P.Ready w) (d : Located) (hkey : P.key (d.keyUnder none))
    (hadmits : ∀ ticket, P.admits w.collection.schemas.size ⟨d.locator, d.document, ticket⟩) :
    Ends (build env d) w
      (fun n w' => P.Walked w w' ∧
        ∃ s, w'.collection.schemas[n]? = some s ∧ s.key = d.keyUnder none)
      (P.Refused w d) := by
  have hready : P.Ready { w with nextTicket := w.nextTicket + 1 } :=
    ⟨h.numbered, h.cache, h.first_le⟩
  cases hnew : w.collection.schema? (d.keyUnder none) with
  | none =>
      unfold Ends
      rw [exec_build]
      refine (buildSource_ends _ _ _ none none hready (hadmits w.nextTicket) hkey hnew).mono ?_ ?_
      · rintro n w' ⟨hw', hs⟩
        exact ⟨⟨hw'.run, hw'.cache⟩, hs⟩
      · rintro e w' ⟨hw', hfault⟩
        exact .inl ⟨⟨hw'.run, hw'.cache⟩, hfault⟩
  | some s =>
      have hsome : (w.collection.schema? (d.keyUnder none)).isSome := by
        rw [hnew]
        rfl
      unfold Ends
      cases hroot : d.document.tag.is schemaNamespace "schema" with
      | false =>
          rw [exec_build_of_not_schema env w d hroot]
          exact .inl ⟨⟨.refl, h.cache⟩, .notASchema _ _⟩
      | true =>
          rw [exec_build_of_registered env w d hroot hsome]
          exact .inr ⟨rfl, h.cache, hsome, rfl⟩

theorem readLocation_ends (h : P.Ready w) (location : String) (base : Option String) :
    Ends (readLocation env location base) w
      (fun found w' => P.Walked w w' ∧
        env.LeadsTo P.cacheless w'.collection ⟨"", location, base⟩ none found)
      (P.Broken w (env.resolver.depth + 1)) :=
  resolveNested_ends h (buildSource_ends _) _ none nofun

theorem Refused.walked {d : Located} {e : SchemaError}
    (he : P.Refused w d e w') : P.Walked w w' := by
  rcases he with he | ⟨hc, hcache, -⟩
  · exact he.1
  · exact ⟨hc ▸ .refl, hcache⟩

theorem build_walked (h : P.Ready w) (d : Located) (hkey : P.key (d.keyUnder none))
    (hadmits : ∀ ticket, P.admits w.collection.schemas.size ⟨d.locator, d.document, ticket⟩) :
    P.Walked w (exec (build env d) w).2 :=
  Ends.state ((build_ends h d hkey hadmits).mono (fun _ _ h => h.1) fun _ _ he => he.walked)

theorem readLocation_walked (h : P.Ready w) (location : String) (base : Option String) :
    P.Walked w (exec (readLocation env location base) w).2 :=
  Ends.state ((readLocation_ends h location base).mono (fun _ _ h => h.1) fun _ _ he => he.1)

theorem buildText_walked (h : P.Ready w) (locator text : String)
    (hkey : ∀ d, Located.parse locator text = .ok d → P.key (d.keyUnder none))
    (hadmits : ∀ d ticket, Located.parse locator text = .ok d →
      P.admits w.collection.schemas.size ⟨d.locator, d.document, ticket⟩) :
    P.Walked w (exec (buildText env locator text) w).2 := by
  unfold buildText
  cases hd : Located.parse locator text with
  | error e => exact .refl h
  | ok d => exact build_walked h d (hkey d hd) fun ticket => hadmits d ticket hd

/-- A plan of which nothing is known but what reading a document guarantees. -/
structure Lax (P : Plan env) : Prop where
  cacheful : ¬ P.cacheless
  key : ∀ key, P.key key
  admits : ∀ n source, P.admits n source
  first_eq : P.first = 0

/-- A call that builds documents keeps to any such plan. -/
theorem exists_run {P : (env : Environment) → Plan env} (hP : ∀ env, (P env).Lax) {c : Collection}
    (hc : c.Numbered) {op : Operation} (hop : op.Builds) : ∃ env, (P env).Run c (c.perform op) := by
  have hready : ∀ (env : Environment) (w : Workspace), (P env).Ready { w with collection := c } :=
    fun env w =>
      ⟨hc, fun hless => ((hP env).cacheful hless).elim, (hP env).first_eq ▸ Nat.zero_le _⟩
  cases op with
  | build env w d =>
      exact ⟨env, (build_walked (hready env w) d ((hP env).key _) fun _ => (hP env).admits _ _).run⟩
  | buildText env w locator text =>
      exact ⟨env, (buildText_walked (hready env w) locator text (fun _ _ => (hP env).key _)
        fun _ _ _ => (hP env).admits _ _).run⟩
  | readLocation env w location base =>
      exact ⟨env, (readLocation_walked (hready env w) location base).run⟩
  | _ => cases hop

end Plan

end Compose

end XmlSchema
