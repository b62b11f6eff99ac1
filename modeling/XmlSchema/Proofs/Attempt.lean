import XmlSchema.Component.Error

/-!
# Steps that may fail

A step that may fail runs from a state to an outcome and a state.  This module
runs such steps symbolically: what a sequence of steps does is read off what
each of them does, and a property of the way a step ends passes through its
parts.
-/

namespace XmlSchema.Attempt

variable {σ α β : Type}

/-- The outcome of a step begun in a state, with the state that it leaves. -/
def exec (m : Attempt σ α) (s : σ) : Except SchemaError α × σ := m.run.run s

/-- A step begun in a state ends well with `Q` or fails with `E`. -/
def Ends (m : Attempt σ α) (s : σ) (Q : α → σ → Prop) (E : SchemaError → σ → Prop) : Prop :=
  match exec m s with
  | (.ok a, t) => Q a t
  | (.error e, t) => E e t

theorem bind_eq_ok_iff {ε : Type} {x : Except ε α} {f : α → Except ε β} {b : β} :
    x >>= f = .ok b ↔ ∃ a, x = .ok a ∧ f a = .ok b := by
  cases x <;> simp [bind, Except.bind]

theorem bind_eq_error_iff {x : Except SchemaError α} {f : α → Except SchemaError β}
    {e : SchemaError} :
    x >>= f = .error e ↔ x = .error e ∨ ∃ a, x = .ok a ∧ f a = .error e := by
  cases x <;> simp [bind, Except.bind]

theorem exec_pure (a : α) (s : σ) : exec (pure a : Attempt σ α) s = (.ok a, s) := rfl

theorem exec_get (s : σ) : exec (get : Attempt σ σ) s = (.ok s, s) := rfl

theorem exec_set (t s : σ) : exec (set t : Attempt σ PUnit) s = (.ok ⟨⟩, t) := rfl

theorem exec_modify (f : σ → σ) (s : σ) :
    exec (modify f : Attempt σ PUnit) s = (.ok ⟨⟩, f s) := rfl

theorem exec_modifyGet (f : σ → α × σ) (s : σ) :
    exec (modifyGet f : Attempt σ α) s = (.ok (f s).1, (f s).2) := rfl

theorem exec_lift (x : Except SchemaError α) (s : σ) :
    exec (liftM x : Attempt σ α) s = (x, s) := by
  cases x <;> rfl

theorem exec_bind (m : Attempt σ α) (f : α → Attempt σ β) (s : σ) :
    exec (m >>= f) s =
      match exec m s with
      | (.ok a, t) => exec (f a) t
      | (.error e, t) => (.error e, t) := by
  unfold exec
  simp only [ExceptT.run_bind, StateT.run_bind]
  generalize m.run.run s = r
  obtain ⟨r, t⟩ := r
  cases r <;> rfl

section Ends

variable {s : σ} {Q : α → σ → Prop} {E : SchemaError → σ → Prop}

theorem ends_pure (a : α) : Ends (pure a) s Q E ↔ Q a s := Iff.rfl

theorem ends_get {Q : σ → σ → Prop} : Ends (get : Attempt σ σ) s Q E ↔ Q s s := Iff.rfl

theorem ends_set {Q : PUnit → σ → Prop} (t : σ) :
    Ends (set t : Attempt σ PUnit) s Q E ↔ Q ⟨⟩ t := Iff.rfl

theorem ends_modify {Q : PUnit → σ → Prop} (f : σ → σ) :
    Ends (modify f : Attempt σ PUnit) s Q E ↔ Q ⟨⟩ (f s) := Iff.rfl

theorem ends_modifyGet (f : σ → α × σ) :
    Ends (modifyGet f : Attempt σ α) s Q E ↔ Q (f s).1 (f s).2 := Iff.rfl

theorem ends_lift (x : Except SchemaError α) :
    Ends (liftM x : Attempt σ α) s Q E ↔
      match x with
      | .ok a => Q a s
      | .error e => E e s := by
  cases x <;> rfl

theorem ends_bind {R : β → σ → Prop} (m : Attempt σ α) (f : α → Attempt σ β) :
    Ends (m >>= f) s R E ↔ Ends m s (fun a t => Ends (f a) t R E) E := by
  unfold Ends
  rw [exec_bind]
  rcases exec m s with ⟨e | a, t⟩ <;> rfl

theorem Ends.mono {m : Attempt σ α} {Q' : α → σ → Prop} {E' : SchemaError → σ → Prop}
    (h : Ends m s Q E) (hQ : ∀ a t, Q a t → Q' a t) (hE : ∀ e t, E e t → E' e t) :
    Ends m s Q' E' := by
  unfold Ends at h ⊢
  rcases hm : exec m s with ⟨e | a, t⟩
  · rw [hm] at h
    exact hE _ _ h
  · rw [hm] at h
    exact hQ _ _ h

theorem Ends.bind {R : β → σ → Prop} {m : Attempt σ α} {f : α → Attempt σ β}
    (h : Ends m s Q E) (hf : ∀ a t, Q a t → Ends (f a) t R E) : Ends (m >>= f) s R E :=
  (ends_bind m f).2 (h.mono hf fun _ _ he => he)

theorem Ends.trivial (m : Attempt σ α) (s : σ) :
    Ends m s (fun _ _ => True) fun _ _ => True := by
  unfold Ends
  split <;> exact True.intro

/-- Steps that go on alike from wherever a first one ends well. -/
theorem Ends.exec_bind_congr {m : Attempt σ α} {f g : α → Attempt σ β} (h : Ends m s Q E)
    (hfg : ∀ a t, Q a t → exec (f a) t = exec (g a) t) : exec (m >>= f) s = exec (m >>= g) s := by
  unfold Ends at h
  rw [exec_bind, exec_bind]
  rcases hm : exec m s with ⟨e | a, t⟩
  · rfl
  · rw [hm] at h
    exact hfg a t h

theorem Ends.of_ok {m : Attempt σ α} {a : α} {t : σ} (h : Ends m s Q E)
    (hm : exec m s = (.ok a, t)) : Q a t := by
  unfold Ends at h
  rw [hm] at h
  exact h

theorem Ends.of_error {m : Attempt σ α} {e : SchemaError} {t : σ} (h : Ends m s Q E)
    (hm : exec m s = (.error e, t)) : E e t := by
  unfold Ends at h
  rw [hm] at h
  exact h

/-- What holds of the state however the step ends. -/
theorem Ends.state {m : Attempt σ α} {R : σ → Prop}
    (h : Ends m s (fun _ t => R t) (fun _ t => R t)) : R (exec m s).2 := by
  unfold Ends at h
  rcases hm : exec m s with ⟨e | a, t⟩
  · rw [hm] at h
    exact h
  · rw [hm] at h
    exact h

end Ends

section Alongside

variable {τ : Type} {R : σ → τ → Prop} {s : σ} {t : τ}

/-- Two steps have one outcome, and leave states that are related. -/
def Alongside (R : σ → τ → Prop) (m : Attempt σ α) (s : σ) (m' : Attempt τ α) (t : τ) : Prop :=
  (exec m s).1 = (exec m' t).1 ∧ R (exec m s).2 (exec m' t).2

namespace Alongside

theorem of_pure (a : α) (h : R s t) : Alongside R (pure a) s (pure a) t := ⟨rfl, h⟩

theorem of_throw (e : SchemaError) (h : R s t) :
    Alongside R (throw e : Attempt σ α) s (throw e) t := ⟨rfl, h⟩

theorem of_lift (x : Except SchemaError α) (h : R s t) :
    Alongside R (liftM x) s (liftM x) t := by
  rw [Alongside, exec_lift, exec_lift]
  exact ⟨rfl, h⟩

variable {m : Attempt σ α} {m' : Attempt τ α} {f : α → Attempt σ β} {f' : α → Attempt τ β}

theorem mono {R' : σ → τ → Prop} (h : Alongside R m s m' t) (hR : ∀ s t, R s t → R' s t) :
    Alongside R' m s m' t := ⟨h.1, hR _ _ h.2⟩

/-- Two steps go on together from wherever first ones have led, which is where
the first of them can have led. -/
theorem bind_of {Q : α → σ → Prop} {E : SchemaError → σ → Prop} (h : Alongside R m s m' t)
    (hm : Ends m s Q E)
    (hf : ∀ a s' t', Q a s' → R s' t' → Alongside R (f a) s' (f' a) t') :
    Alongside R (m >>= f) s (m' >>= f') t := by
  unfold Alongside at h ⊢
  unfold Ends at hm
  rw [exec_bind, exec_bind]
  generalize exec m s = r at h hm ⊢
  generalize exec m' t = r' at h ⊢
  obtain ⟨x, s'⟩ := r
  obtain ⟨x', t'⟩ := r'
  obtain ⟨hx, hR⟩ := h
  cases hx
  cases x with
  | error e => exact ⟨rfl, hR⟩
  | ok a => exact hf a s' t' hm hR

theorem bind (h : Alongside R m s m' t)
    (hf : ∀ a s' t', R s' t' → Alongside R (f a) s' (f' a) t') :
    Alongside R (m >>= f) s (m' >>= f') t :=
  h.bind_of (Ends.trivial m s) fun a s' t' _ => hf a s' t'

theorem get_bind {f : σ → Attempt σ α} {f' : τ → Attempt τ α}
    (h : Alongside R (f s) s (f' t) t) : Alongside R (get >>= f) s (get >>= f') t := by
  unfold Alongside at h ⊢
  rw [exec_bind, exec_bind]
  exact h

end Alongside

end Alongside

/-- A step succeeds from every state when some condition holds and fails with
certain errors when it does not. -/
def Decides (m : Attempt σ α) (P : Prop) (E : SchemaError → Prop) : Prop :=
  ∀ s, Ends m s (fun _ _ => P) (fun e _ => ¬ P ∧ E e)

/-- A step that never fails. -/
def Total (m : Attempt σ α) : Prop := ∀ s, Ends m s (fun _ _ => True) (fun _ _ => False)

section Total

theorem total_pure (a : α) : Total (pure a : Attempt σ α) := fun _ => trivial

theorem total_modify (f : σ → σ) : Total (modify f : Attempt σ PUnit) := fun _ => trivial

theorem total_modifyGet (f : σ → α × σ) : Total (modifyGet f : Attempt σ α) := fun _ => trivial

theorem Total.bind {m : Attempt σ α} {f : α → Attempt σ β} (h : Total m)
    (hf : ∀ a, Total (f a)) : Total (m >>= f) :=
  fun s => (h s).bind fun a t _ => hf a t

end Total

section Decides

variable {P P' : Prop} {E : SchemaError → Prop}

theorem Total.decides {m : Attempt σ α} (h : Total m) : Decides m True E :=
  fun s => (h s).mono (fun _ _ _ => trivial) fun _ _ h => h.elim

theorem decides_throw {e : SchemaError} (he : E e) (hP : ¬ P) :
    Decides (throw e : Attempt σ α) P E := fun _ => ⟨hP, he⟩

theorem Decides.congr {m : Attempt σ α} (h : Decides m P E) (hP : P ↔ P') :
    Decides m P' E :=
  fun s => (h s).mono (fun _ _ h => hP.1 h) fun _ _ h => ⟨fun h' => h.1 (hP.2 h'), h.2⟩

theorem Decides.bind {m : Attempt σ α} {f : α → Attempt σ β} (h : Decides m P E)
    (hf : ∀ a, Decides (f a) P' E) : Decides (m >>= f) (P ∧ P') E := by
  intro s
  refine (ends_bind m f).2 ((h s).mono (fun a t hP => ?_) fun e t he => ?_)
  · exact (hf a t).mono (fun _ _ h => ⟨hP, h⟩) fun _ _ h => ⟨fun h' => h.1 h'.2, h.2⟩
  · exact ⟨fun h' => he.1 h'.1, he.2⟩

/-- What never fails does not matter for the success of what follows. -/
theorem Decides.after {m : Attempt σ α} {f : α → Attempt σ β} (h : Total m)
    (hf : ∀ a, Decides (f a) P E) : Decides (m >>= f) P E :=
  (h.decides.bind hf).congr ⟨And.right, fun hP => ⟨trivial, hP⟩⟩

/-- Nor does what never fails afterwards. -/
theorem Decides.before {m : Attempt σ α} {f : α → Attempt σ β} (h : Decides m P E)
    (hf : ∀ a, Total (f a)) : Decides (m >>= f) P E :=
  (h.bind fun a => (hf a).decides).congr ⟨And.left, fun hP => ⟨hP, trivial⟩⟩

end Decides

end XmlSchema.Attempt
