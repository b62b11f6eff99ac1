import XmlSchema.Proofs.Resolution.Walk

/-!
# The depth of a composition

How deeply documents may be nested bounds the recursion of a composition.  A
composition that is not cut off by the bound comes out the same under every
larger one, so the bound only decides whether it comes out at all.
-/

namespace XmlSchema

open Attempt

/-- A composition was cut off because documents are nested too deeply. -/
def SchemaError.IsTooDeep (e : SchemaError) : Prop :=
  ∃ locator, e = .resolution locator .nestedTooDeep

namespace Attempt

variable {σ α β : Type}

/-- A step does what another one does, unless it is cut off. -/
def Approximates (m m' : Attempt σ α) : Prop :=
  ∀ s, (∃ e, e.IsTooDeep ∧ (exec m s).1 = .error e) ∨ exec m' s = exec m s

namespace Approximates

theorem refl (m : Attempt σ α) : m.Approximates m := fun _ => .inr rfl

theorem bind {m m' : Attempt σ α} {f f' : α → Attempt σ β} (h : m.Approximates m')
    (hf : ∀ a, (f a).Approximates (f' a)) : (m >>= f).Approximates (m' >>= f') := by
  intro s
  rw [exec_bind, exec_bind]
  rcases h s with ⟨e, he, hm⟩ | hm
  · rcases hexec : exec m s with ⟨e' | a, t⟩
    · rw [hexec] at hm
      cases hm
      exact .inl ⟨e, he, rfl⟩
    · rw [hexec] at hm
      cases hm
  · rw [hm]
    rcases exec m s with ⟨e | a, t⟩
    · exact .inr rfl
    · exact hf a t

theorem bindLeft {m m' : Attempt σ α} (h : m.Approximates m') (f : α → Attempt σ β) :
    (m >>= f).Approximates (m' >>= f) :=
  h.bind fun a => refl (f a)

theorem bindRight (m : Attempt σ α) {f f' : α → Attempt σ β}
    (hf : ∀ a, (f a).Approximates (f' a)) : (m >>= f).Approximates (m >>= f') :=
  (refl m).bind hf

theorem cutOff {e : SchemaError} (he : e.IsTooDeep) (m : Attempt σ α) :
    (throw e : Attempt σ α).Approximates m := fun _ => .inl ⟨e, he, rfl⟩

/-- A step that is not cut off is what it approximates. -/
theorem exec_eq {m m' : Attempt σ α} (h : m.Approximates m') {s : σ}
    (hm : ∀ e, e.IsTooDeep → (exec m s).1 ≠ .error e) : exec m' s = exec m s := by
  rcases h s with ⟨e, he, hexec⟩ | h
  · exact absurd hexec (hm e he)
  · exact h

end Approximates

end Attempt

namespace Compose

/-- A way of building does what another one does, unless it is cut off. -/
def BuildsLike (build build' : Build) : Prop :=
  ∀ source parent inherited,
    (build source parent inherited).Approximates (build' source parent inherited)

variable {env : Environment} {build build' : Build}

theorem BuildsLike.resolveNested (h : BuildsLike build build') (r : Request)
    (parent : Option SchemaKey) (inherited : Option String) :
    (resolveNested env build r parent inherited).Approximates
      (resolveNested env build' r parent inherited) := by
  unfold Compose.resolveNested
  refine .bindRight _ fun found => ?_
  cases found with
  | none => exact .refl _
  | some source =>
      refine .bindRight _ fun w => ?_
      cases w.collection.number? (keyOf source inherited) with
      | some number => exact .refl _
      | none => exact .bindLeft (h source parent inherited) _

theorem BuildsLike.external (h : BuildsLike build build') (cx : Context) (scope : Scope)
    (kind : ExternalKind) (e : Xml.Element) :
    (external env build cx scope kind e).Approximates
      (external env build' cx scope kind e) := by
  unfold Compose.external
  refine .bindRight _ fun draft => ?_
  dsimp only
  cases locationOf? e.tag with
  | none => exact .refl _
  | some location => exact .bindLeft (h.resolveNested _ _ _) _

theorem BuildsLike.topLevelChild (h : BuildsLike build build') (cx : Context) (scope : Scope)
    (e : Xml.Element) :
    (topLevelChild env build cx scope e).Approximates
      (topLevelChild env build' cx scope e) := by
  unfold Compose.topLevelChild
  split
  · exact .refl _
  · exact .refl _
  · exact h.external cx scope _ e
  · exact .refl _

theorem BuildsLike.topLevelPass (h : BuildsLike build build') (cx : Context) (scope : Scope)
    (elements : List Xml.Element) :
    (topLevelPass env build cx scope elements).Approximates
      (topLevelPass env build' cx scope elements) := by
  induction elements with
  | nil => exact .refl _
  | cons e rest ih => exact .bind (h.topLevelChild cx scope e) fun _ => ih

/-- One more level of nesting changes nothing but whether the building of a
document is cut off. -/
theorem buildSource_succ (env : Environment) (fuel : Nat) :
    BuildsLike (buildSource env fuel) (buildSource env (fuel + 1)) := by
  induction fuel with
  | zero => exact fun source _ _ => .cutOff ⟨source.locator, rfl⟩ _
  | succ fuel ih =>
      intro source parent inherited w
      cases hroot : source.document.tag.is schemaNamespace "schema" with
      | false =>
          right
          rw [exec_buildSource_of_not_schema env parent hroot,
            exec_buildSource_of_not_schema env parent hroot]
      | true =>
          cases hnew : w.collection.schema? (keyOf source inherited) with
          | some s =>
              have hkey : (w.collection.schema? (keyOf source inherited)).isSome := by
                rw [hnew]
                rfl
              right
              rw [exec_buildSource_of_registered env parent hroot hkey,
                exec_buildSource_of_registered env parent hroot hkey]
          | none =>
              rw [exec_buildSource env parent hroot hnew, exec_buildSource env parent hroot hnew]
              -- both are the same pass, one of them nested one level deeper
              rcases ih.topLevelPass _ _ _ (opened env w source parent inherited) with
                ⟨e, he, hpass⟩ | hpass
              · left
                refine ⟨e, he, ?_⟩
                split
                · rename_i heq
                  rw [heq] at hpass
                  cases hpass
                · rename_i heq
                  rw [heq] at hpass
                  cases hpass
                  rfl
              · right
                rw [hpass]

/-- The building of a document that is not cut off is the same with every
deeper nesting. -/
theorem exec_buildSource_of_le {fuel deeper : Nat} (hle : fuel ≤ deeper) {source : Source}
    {parent : Option SchemaKey} {inherited : Option String} {w : Workspace}
    (h : ∀ e, e.IsTooDeep → (exec (buildSource env fuel source parent inherited) w).1 ≠ .error e) :
    exec (buildSource env deeper source parent inherited) w =
      exec (buildSource env fuel source parent inherited) w := by
  induction hle with
  | refl => rfl
  | @step deeper _ ih =>
      have hstep := (buildSource_succ env deeper source parent inherited).exec_eq (s := w)
      rw [ih] at hstep
      exact hstep h

theorem exec_resolveNested_of_le {fuel deeper : Nat} (hle : fuel ≤ deeper) {r : Request}
    {parent : Option SchemaKey} {inherited : Option String} {w : Workspace}
    (h : ∀ e, e.IsTooDeep →
      (exec (resolveNested env (buildSource env fuel) r parent inherited) w).1 ≠ .error e) :
    exec (resolveNested env (buildSource env deeper) r parent inherited) w =
      exec (resolveNested env (buildSource env fuel) r parent inherited) w := by
  induction hle with
  | refl => rfl
  | @step deeper _ ih =>
      have happrox : (resolveNested env (buildSource env deeper) r parent inherited).Approximates
          (resolveNested env (buildSource env (deeper + 1)) r parent inherited) :=
        (buildSource_succ env deeper).resolveNested r parent inherited
      have hstep := happrox.exec_eq (s := w)
      rw [ih] at hstep
      exact hstep h

end Compose

end XmlSchema
