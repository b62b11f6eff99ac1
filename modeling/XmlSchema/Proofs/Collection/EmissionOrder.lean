import Mathlib.Data.List.Basic
import Mathlib.Logic.Relation
import XmlSchema.Proofs.Collection.Emission
import XmlSchema.Proofs.Collection.Search
import XmlSchema.Proofs.Resolution.Keys

/-!
# The order in which schemas are written

A recursive writing is a walk that goes depth first and follows references in
item order.  It differs from the walk of a search in that the catalogue counts
as seen from the start.  Each schema that it enters contributes what a writing
of that schema alone gives, and the writing fails with the first of them that
has no document.
-/

namespace XmlSchema

open Attempt

namespace Collection

/-- The schemas of the catalogue. -/
def catalogued (c : Collection) : List Nat :=
  (List.range c.schemas.size).filter fun n => c.schemas[n]?.any (·.builtin)

/-- The schemas that are written together with one, in the order in which they
are written. -/
def emissionOrder (c : Collection) (n : Nat) : List Nat :=
  c.preorder c.catalogued [n]

/-- A walk that has seen some schemas passes over another one. -/
def Passes (c : Collection) (seen : List Nat) (n : Nat) : Prop :=
  n ∈ seen ∨ c.schemas[n]? = none

variable {c : Collection} {policy : ForeignPolicy} {seen more pending rest : List Nat} {n m : Nat}
  {s : Schema}

theorem mem_catalogued :
    n ∈ c.catalogued ↔ ∃ s, c.schemas[n]? = some s ∧ s.builtin = true := by
  rw [catalogued, List.mem_filter, List.mem_range, Option.any_eq_true]
  refine ⟨fun h => h.2, fun h => ⟨?_, h⟩⟩
  obtain ⟨s, hs, -⟩ := h
  exact (Array.getElem?_eq_some_iff.1 hs).1

theorem not_mem_catalogued (hs : c.schemas[n]? = some s) :
    n ∉ c.catalogued ↔ s.builtin = false := by
  rw [mem_catalogued]
  constructor
  · intro h
    rw [← Bool.not_eq_true]
    exact fun hbuiltin => h ⟨s, hs, hbuiltin⟩
  · rintro hauthored ⟨t, ht, hbuiltin⟩
    cases Option.some.inj (hs.symm.trans ht)
    rw [hauthored] at hbuiltin
    cases hbuiltin

theorem passes_append : c.Passes (more ++ seen) m ↔ m ∈ more ∨ c.Passes seen m := by
  rw [Passes, List.mem_append, or_assoc, Passes]

theorem passes_cons : c.Passes (n :: seen) m ↔ m = n ∨ c.Passes seen m := by
  rw [Passes, List.mem_cons, or_assoc, Passes]

section Walk

/-- Of what a walk has seen only that matters which it passes over. -/
theorem preorder_congr (h : ∀ m, c.Passes seen m ↔ c.Passes more m) :
    c.preorder seen pending = c.preorder more pending := by
  induction seen, pending using preorder_induct (c := c) generalizing more with
  | nil seen => rw [preorder_nil, preorder_nil]
  | pass seen n rest hn ih =>
      rw [preorder_pass hn, preorder_pass ((h n).1 hn)]
      exact ih h
  | enter seen n rest s hn hs ih =>
      have hnew : n ∉ more := by
        intro hmem
        rcases (h n).2 (.inl hmem) with hseen | hnone
        · exact hn hseen
        · rw [hs] at hnone
          cases hnone
      rw [preorder_enter hn hs, preorder_enter hnew hs]
      congr 1
      exact ih fun m => by rw [passes_cons, passes_cons, h m]

/-- A walk through two lists goes on with the second where the first has led
it. -/
theorem preorder_append (c : Collection) (seen pending rest : List Nat) :
    c.preorder seen (pending ++ rest) =
      c.preorder seen pending ++ c.preorder (c.preorder seen pending ++ seen) rest := by
  induction seen, pending using preorder_induct (c := c) with
  | nil seen => rw [preorder_nil, List.nil_append, List.nil_append, List.nil_append]
  | pass seen n pending hn ih => rw [List.cons_append, preorder_pass hn, preorder_pass hn, ih]
  | enter seen n pending s hn hs ih =>
      rw [List.cons_append, preorder_enter hn hs, preorder_enter hn hs, ← List.append_assoc, ih,
        List.cons_append]
      congr 2
      refine preorder_congr fun m => ?_
      rw [List.cons_append, passes_append, passes_cons, passes_cons, passes_append, or_left_comm]

end Walk

/-- A schema that is not of the catalogue is written alone as its document. -/
theorem write_alone (policy : ForeignPolicy) (hs : c.schemas[n]? = some s) (hauthored : s.builtin = false) :
    (c.write policy n false).1 = (c.document policy s).map fun d => [⟨s.key, d⟩] := by
  have hgo : ¬ ([] : List Nat).contains n = true := by simp
  rw [write_eq, Emission.visit, exec_bind, exec_get]
  dsimp only
  rw [if_neg hgo, exec_bind, exec_modify, hs]
  dsimp only
  rw [if_neg (by rw [hauthored]; exact Bool.false_ne_true), exec_bind, exec_modify]
  dsimp only
  unfold document
  cases (Writer.document { collection := c, schema := s, policy }).1 with
  | error e => rfl
  | ok d => rfl

end Collection

namespace Emission

variable (c : Collection) (policy : ForeignPolicy)

/-- The schemas that are written for some when others have been seen, in order. -/
def ahead (seen pending : List Nat) : List Nat :=
  c.preorder (seen ++ c.catalogued) pending

/-- The writings of the schemas ahead, each alone. -/
def alone (seen pending : List Nat) : Except SchemaError (List (List WrittenSchema)) :=
  (ahead c seen pending).mapM fun m => (c.write policy m false).1

/-- What the visit of some schemas adds: the schemas ahead have been seen, and
their documents written. -/
structure Follows (e : Emission) (pending : List Nat) (e' : Emission) : Prop where
  subset : e.seen ⊆ e'.seen
  passes : ∀ m, c.Passes (e'.seen ++ c.catalogued) m ↔
    m ∈ ahead c e.seen pending ∨ c.Passes (e.seen ++ c.catalogued) m
  written : ∃ documents, alone c policy e.seen pending = .ok documents ∧
    e'.written = e.written ++ documents.flatten

variable {c policy} {e e₁ e' : Emission} {seen pending rest : List Nat} {n : Nat} {s : Schema}

/-- The walk enters a schema that has not been seen and is not of the
catalogue. -/
theorem ahead_enter (hn : n ∉ seen) (hs : c.schemas[n]? = some s) (hauthored : s.builtin = false) :
    ahead c seen [n] = n :: ahead c (n :: seen) (c.targets s) := by
  have hnew : n ∉ seen ++ c.catalogued := by
    rw [List.mem_append, not_or]
    exact ⟨hn, (Collection.not_mem_catalogued hs).2 hauthored⟩
  rw [ahead, Collection.preorder_enter hnew hs, List.append_nil, ahead, List.cons_append]

theorem alone_enter (policy : ForeignPolicy) (hn : n ∉ seen) (hs : c.schemas[n]? = some s)
    (hauthored : s.builtin = false) :
    alone c policy seen [n] = (c.document policy s).bind fun d =>
      (alone c policy (n :: seen) (c.targets s)).map ([⟨s.key, d⟩] :: ·) := by
  rw [alone, ahead_enter hn hs hauthored, List.mapM_cons, Collection.write_alone policy hs hauthored,
    alone]
  cases c.document policy s <;> rfl

/-- A failure among the schemas ahead is not undone by what follows. -/
theorem alone_append_of_error {err : SchemaError} (h : alone c policy seen pending = .error err)
    (rest : List Nat) : alone c policy seen (pending ++ rest) = .error err := by
  rw [alone] at h
  rw [alone, ahead, Collection.preorder_append, List.mapM_append]
  exact congrArg (· >>= _) h

namespace Follows

/-- After a visit the walk goes on where the visit has led it. -/
theorem ahead_append (h : Follows c policy e pending e₁) (rest : List Nat) :
    ahead c e.seen (pending ++ rest) = ahead c e.seen pending ++ ahead c e₁.seen rest := by
  unfold ahead
  rw [Collection.preorder_append]
  congr 1
  exact Collection.preorder_congr fun m => by
    rw [Collection.passes_append]
    exact (h.passes m).symm

theorem alone_append (h : Follows c policy e pending e₁) (rest : List Nat) :
    alone c policy e.seen (pending ++ rest) = (alone c policy e.seen pending).bind fun documents =>
      (alone c policy e₁.seen rest).map (documents ++ ·) := by
  unfold alone
  rw [h.ahead_append, List.mapM_append]
  rfl

theorem refl (e : Emission) : Follows c policy e [] e where
  subset := List.Subset.refl _
  passes m := by
    rw [ahead, Collection.preorder_nil]
    exact (or_iff_right List.not_mem_nil).symm
  written := ⟨[], by rw [alone, ahead, Collection.preorder_nil]; rfl, by simp⟩

theorem append (h : Follows c policy e pending e₁) (h' : Follows c policy e₁ rest e') :
    Follows c policy e (pending ++ rest) e' where
  subset := List.Subset.trans h.subset h'.subset
  passes m := by
    rw [h'.passes m, h.passes m, h.ahead_append, List.mem_append, or_assoc, or_left_comm]
  written := by
    obtain ⟨documents, halone, hwritten⟩ := h.written
    obtain ⟨documents', halone', hwritten'⟩ := h'.written
    refine ⟨documents ++ documents', ?_, ?_⟩
    · rw [h.alone_append, halone, halone']
      rfl
    · rw [hwritten', hwritten, List.flatten_append, List.append_assoc]

/-- A visit that writes nothing. -/
theorem pass (hn : c.Passes (e.seen ++ c.catalogued) n)
    (hseen : e'.seen = e.seen ∨ e'.seen = n :: e.seen) (hwritten : e'.written = e.written) :
    Follows c policy e [n] e' := by
  have hahead : ahead c e.seen [n] = [] := by
    rw [ahead, Collection.preorder_pass hn, Collection.preorder_nil]
  refine ⟨?_, fun m => ?_, [], ?_, by rw [hwritten]; simp⟩
  · rcases hseen with hseen | hseen <;> rw [hseen]
    · exact List.Subset.refl _
    · exact List.subset_cons_self _ _
  · rw [hahead, or_iff_right List.not_mem_nil]
    rcases hseen with hseen | hseen <;> rw [hseen]
    rw [List.cons_append, Collection.passes_cons, or_iff_right_iff_imp]
    rintro rfl
    exact hn
  · rw [alone, hahead]
    rfl

/-- A schema that is not of the catalogue is written before those that it
refers to. -/
theorem enter {d : Xml.Element} (hn : n ∉ e.seen) (hs : c.schemas[n]? = some s)
    (hauthored : s.builtin = false) (hd : c.document policy s = .ok d)
    (hseen : e₁.seen = n :: e.seen) (hwritten : e₁.written = e.written ++ [⟨s.key, d⟩])
    (h : Follows c policy e₁ (c.targets s) e') : Follows c policy e [n] e' := by
  obtain ⟨hsubset, hpasses, documents, halone, hlater⟩ := h
  rw [hseen] at hsubset hpasses halone
  refine ⟨(List.cons_subset.1 hsubset).2, fun m => ?_, [⟨s.key, d⟩] :: documents, ?_, ?_⟩
  · rw [hpasses m, ahead_enter hn hs hauthored, List.cons_append, Collection.passes_cons,
      List.mem_cons, or_left_comm, or_assoc]
  · rw [alone_enter policy hn hs hauthored, hd, halone]
    rfl
  · rw [hlater, hwritten, List.flatten_cons, List.append_assoc]

end Follows

/-- Visiting one schema after the other. -/
theorem forM_follows {fuel : Nat} {visit : Nat → Attempt Emission Unit}
    (hvisit : ∀ n e, remaining c e.seen < fuel →
      Ends (visit n) e (fun _ e' => Follows c policy e [n] e')
        (fun err _ => alone c policy e.seen [n] = .error err))
    (pending : List Nat) : ∀ e : Emission, remaining c e.seen < fuel →
      Ends (pending.forM visit) e (fun _ e' => Follows c policy e pending e')
        (fun err _ => alone c policy e.seen pending = .error err) := by
  induction pending with
  | nil => exact fun e _ => .refl e
  | cons n rest ih =>
      intro e hfuel
      have hfirst := (hvisit n e hfuel).mono (fun _ _ h => h)
        fun err _ herr => alone_append_of_error herr rest
      refine Ends.bind hfirst ?_
      rintro - e₁ h₁
      have hfuel₁ : remaining c e₁.seen < fuel :=
        Nat.lt_of_le_of_lt (remaining_le h₁.subset) hfuel
      refine (ih e₁ hfuel₁).mono (fun _ _ h₂ => h₁.append h₂) fun err _ herr => ?_
      obtain ⟨documents, halone, -⟩ := h₁.written
      show alone c policy e.seen ([n] ++ rest) = _
      rw [h₁.alone_append, halone, herr]
      rfl

theorem visit_follows (policy : ForeignPolicy) (fuel : Nat) : ∀ (n : Nat) (e : Emission), remaining c e.seen < fuel →
    Ends (visit c policy true fuel n) e (fun _ e' => Follows c policy e [n] e')
      (fun err _ => alone c policy e.seen [n] = .error err) := by
  induction fuel with
  | zero => exact fun n e h => absurd h (Nat.not_lt_zero _)
  | succ fuel ih =>
      intro n e hfuel
      unfold visit
      rw [ends_bind, ends_get]
      split
      · rename_i hseen
        have hmem : n ∈ e.seen := by simpa using hseen
        exact .pass (.inl (List.mem_append_left _ hmem)) (.inl rfl) rfl
      rename_i hseen
      have hnew : n ∉ e.seen := by simpa using hseen
      rw [ends_bind, ends_modify]
      split
      · rename_i hs
        exact .pass (.inr hs) (.inr rfl) rfl
      rename_i s hs
      split
      · rename_i hbuiltin
        have hmem : n ∈ c.catalogued := Collection.mem_catalogued.2 ⟨s, hs, hbuiltin⟩
        exact .pass (.inl (List.mem_append_right _ hmem)) (.inr rfl) rfl
      rename_i hbuiltin
      have hauthored : s.builtin = false := by simpa using hbuiltin
      have halone := alone_enter policy hnew hs hauthored
      dsimp only
      rw [ends_bind, ends_modify]
      cases hd : c.document policy s with
      | error err =>
          rw [show (Writer.document { collection := c, schema := s, policy }).1 = _ from hd]
          show alone c policy e.seen [n] = .error err
          rw [halone, hd]
          rfl
      | ok d =>
          rw [show (Writer.document { collection := c, schema := s, policy }).1 = _ from hd]
          dsimp only
          rw [ends_bind, ends_modify, if_pos rfl]
          have hlt : n < c.schemas.size := (Array.getElem?_eq_some_iff.1 hs).1
          -- the schema itself counts as seen while its targets are visited
          refine (forM_follows ih (c.targets s) _ ?_).mono ?_ ?_
          · have := remaining_cons_lt hlt hnew
            show remaining c (n :: e.seen) < fuel
            omega
          · exact fun _ e' h => .enter hnew hs hauthored hd rfl rfl h
          · intro err _ herr
            rw [halone, hd]
            exact congrArg (Except.map _) herr

end Emission

namespace Collection

variable {c : Collection} {policy : ForeignPolicy} {seen pending : List Nat} {n m : Nat}
  {s : Schema}

/-- A walk to which the catalogue counts as seen stays with what is written
together with the schemas from which it starts. -/
theorem emits_of_mem_preorder (hseen : c.catalogued ⊆ seen) (hm : m ∈ c.preorder seen pending) :
    ∃ n ∈ pending, c.Emits true n m := by
  induction seen, pending using preorder_induct (c := c) with
  | nil seen => simp at hm
  | pass seen n rest h ih =>
      rw [preorder_pass h] at hm
      obtain ⟨k, hk, hemits⟩ := ih hseen hm
      exact ⟨k, List.mem_cons_of_mem n hk, hemits⟩
  | enter seen n rest s hn hs ih =>
      have hauthored : s.builtin = false := (not_mem_catalogued hs).1 fun hmem => hn (hseen hmem)
      rw [preorder_enter hn hs] at hm
      rcases List.mem_cons.1 hm with rfl | hm
      · exact ⟨m, List.mem_cons_self, .refl⟩
      · obtain ⟨k, hk, hemits⟩ := ih (List.Subset.trans hseen (List.subset_cons_self n seen)) hm
        rcases List.mem_append.1 hk with hk | hk
        · exact ⟨n, List.mem_cons_self, .head ⟨rfl, s, hs, hauthored, hk⟩ hemits⟩
        · exact ⟨k, List.mem_cons_of_mem n hk, hemits⟩

/-- The schemas that are written are those to which references lead that do not
pass through the catalogue, less those of the catalogue. -/
theorem mem_emissionOrder_iff :
    m ∈ c.emissionOrder n ↔
      c.Emits true n m ∧ ∃ s, c.schemas[m]? = some s ∧ s.builtin = false := by
  constructor
  · intro hm
    obtain ⟨k, hk, hemits⟩ := emits_of_mem_preorder (List.Subset.refl _) hm
    rw [List.mem_singleton.1 hk] at hemits
    have hentered := of_mem_preorder hm
    have hs := Array.getElem?_eq_getElem hentered.2
    exact ⟨hemits, _, hs, (not_mem_catalogued hs).1 hentered.1⟩
  · rintro ⟨hemits, hm⟩
    induction hemits with
    | refl =>
        obtain ⟨s, hs, hauthored⟩ := hm
        exact (mem_preorder_of_mem List.mem_cons_self (Array.getElem?_eq_some_iff.1 hs).1).resolve_left
          ((not_mem_catalogued hs).2 hauthored)
    | tail _ hleads ih =>
        obtain ⟨-, t, ht, htauthored, htarget⟩ := hleads
        obtain ⟨s, hs, hauthored⟩ := hm
        exact (mem_preorder_of_refers (ih ⟨t, ht, htauthored⟩) ⟨t, ht, htarget⟩
          (Array.getElem?_eq_some_iff.1 hs).1).resolve_left ((not_mem_catalogued hs).2 hauthored)

theorem nodup_emissionOrder (c : Collection) (n : Nat) : (c.emissionOrder n).Nodup :=
  nodup_preorder c _ _

/-- A schema that is not of the catalogue comes first. -/
theorem head?_emissionOrder (hs : c.schemas[n]? = some s) (hauthored : s.builtin = false) :
    (c.emissionOrder n).head? = some n := by
  rw [emissionOrder, preorder_enter ((not_mem_catalogued hs).2 hauthored) hs, List.head?_cons]

/-- Whatever bound above their number there is on the depth of a visit, it
writes the schemas in order, each as if it were written alone. -/
theorem visit_eq_mapM (policy : ForeignPolicy) (n : Nat) {fuel : Nat}
    (hfuel : c.schemas.size < fuel) :
    (exec (Emission.visit c policy true fuel n) {}).1.map
        (fun _ => (exec (Emission.visit c policy true fuel n) {}).2.written) =
      ((c.emissionOrder n).mapM fun m => (c.write policy m false).1).map List.flatten := by
  have hremaining : Emission.remaining c ({} : Emission).seen < fuel := by
    refine Nat.lt_of_le_of_lt ?_ hfuel
    have hle := List.length_filter_le (fun m => !([] : List Nat).contains m)
      (List.range c.schemas.size)
    rwa [List.length_range] at hle
  have hvisit := Emission.visit_follows policy fuel n {} hremaining
  show _ = (Emission.alone c policy [] [n]).map List.flatten
  cases hrun : (exec (Emission.visit c policy true fuel n) {}).1 with
  | error err =>
      rw [hvisit.of_error (Prod.ext hrun rfl)]
      rfl
  | ok a =>
      obtain ⟨documents, halone, hwritten⟩ := (hvisit.of_ok (Prod.ext hrun rfl)).written
      rw [halone, hwritten]
      rfl

theorem write_eq_mapM (policy : ForeignPolicy) (n : Nat) :
    (c.write policy n true).1 =
      ((c.emissionOrder n).mapM fun m => (c.write policy m false).1).map List.flatten :=
  (write_eq c policy n true).trans (visit_eq_mapM policy n (Nat.lt_succ_self _))

/-- A schema is written alone as one document under its key. -/
structure WrittenAs (c : Collection) (policy : ForeignPolicy) (m : Nat) (d : WrittenSchema) :
    Prop where
  write : (c.write policy m false).1 = .ok [d]
  key : c.schemas[m]?.map Schema.key = some d.key

/-- A schema that is written together with another one has one document alone,
or none. -/
theorem writtenAs_or_error (hm : m ∈ c.emissionOrder n) :
    (∃ d, c.WrittenAs policy m d) ∨ ∃ err, (c.write policy m false).1 = .error err := by
  obtain ⟨-, s, hs, hauthored⟩ := mem_emissionOrder_iff.1 hm
  have hwrite := write_alone policy hs hauthored
  cases hd : c.document policy s with
  | ok d => exact .inl ⟨⟨s.key, d⟩, by rw [hwrite, hd]; rfl, by rw [hs]; rfl⟩
  | error err => exact .inr ⟨err, by rw [hwrite, hd]; rfl⟩

/-- Schemas that all can be written are written one after the other. -/
theorem mapM_write_ok {numbers : List Nat} (h : ∀ m ∈ numbers, ∃ d, c.WrittenAs policy m d) :
    ∃ documents, (numbers.mapM fun m => (c.write policy m false).1) = .ok documents ∧
      List.Forall₂ (c.WrittenAs policy) numbers documents.flatten := by
  induction numbers with
  | nil => exact ⟨[], rfl, .nil⟩
  | cons m rest ih =>
      obtain ⟨d, hd⟩ := h m List.mem_cons_self
      obtain ⟨documents, hrest, heach⟩ := ih fun k hk => h k (List.mem_cons_of_mem m hk)
      refine ⟨[d] :: documents, ?_, .cons hd heach⟩
      rw [List.mapM_cons, hd.write, hrest]
      rfl

/-- Where one schema cannot be written, the writing of all fails. -/
theorem mapM_write_error {numbers : List Nat} (hm : m ∈ numbers)
    (h : ∃ err, (c.write policy m false).1 = .error err) :
    ∃ err, (numbers.mapM fun m => (c.write policy m false).1) = .error err := by
  induction numbers with
  | nil => cases hm
  | cons k rest ih =>
      rw [List.mapM_cons]
      cases hk : (c.write policy k false).1 with
      | error err => exact ⟨err, rfl⟩
      | ok documents =>
          have hrest : m ∈ rest := by
            refine (List.mem_cons.1 hm).resolve_left ?_
            rintro rfl
            obtain ⟨err, herr⟩ := h
            rw [hk] at herr
            cases herr
          obtain ⟨err, herr⟩ := ih hrest
          rw [herr]
          exact ⟨err, rfl⟩

/-- A recursive writing has written the schemas in order, or one of them cannot
be written and the writing has failed. -/
theorem write_cases (c : Collection) (policy : ForeignPolicy) (n : Nat) :
    ((∀ m ∈ c.emissionOrder n, ∃ d, c.WrittenAs policy m d) ∧
      ∃ written, (c.write policy n true).1 = .ok written ∧
        List.Forall₂ (c.WrittenAs policy) (c.emissionOrder n) written) ∨
    ((∃ m ∈ c.emissionOrder n, ∃ err, (c.write policy m false).1 = .error err) ∧
      ∃ err, (c.write policy n true).1 = .error err) := by
  rw [write_eq_mapM]
  by_cases hall : ∀ m ∈ c.emissionOrder n, ∃ d, c.WrittenAs policy m d
  · obtain ⟨documents, hrun, heach⟩ := mapM_write_ok hall
    exact .inl ⟨hall, documents.flatten, by rw [hrun]; rfl, heach⟩
  · push Not at hall
    obtain ⟨m, hm, hnone⟩ := hall
    have herror := (writtenAs_or_error hm).resolve_left fun ⟨d, hd⟩ => hnone d hd
    obtain ⟨err, hrun⟩ := mapM_write_error hm herror
    exact .inr ⟨⟨m, hm, herror⟩, err, by rw [hrun]; rfl⟩

/-- Schemas with different numbers are written under different keys. -/
theorem Keyed.nodup_writtenKeys {numbers : List Nat} {written : List WrittenSchema} (hc : c.Keyed)
    (hnumbers : numbers.Nodup) (hsize : ∀ m ∈ numbers, m < c.schemas.size)
    (h : List.Forall₂ (c.WrittenAs policy) numbers written) :
    (written.map WrittenSchema.key).Nodup := by
  have hkeys : numbers.map (fun m => c.schemas[m]?.map Schema.key) =
      (written.map WrittenSchema.key).map some := by
    rw [← List.forall₂_eq_eq_eq, List.map_map, List.forall₂_map_left_iff,
      List.forall₂_map_right_iff]
    exact h.imp fun _ _ hd => hd.key
  refine .of_map some (hkeys ▸ hnumbers.map_on fun m hm m' hm' heq => ?_)
  have hs := Array.getElem?_eq_getElem (hsize m hm)
  have hs' := Array.getElem?_eq_getElem (hsize m' hm')
  rw [hs, hs'] at heq
  exact hc.eq_of_key hs hs' (Option.some.inj heq)

/-- A recursive writing comes to an end on every graph of references.  It writes
each schema that references lead to, along ways that do not pass through the
catalogue, exactly once and no other: in the order of a walk that goes depth
first and follows references in item order, the given schema first, and each as
it is written alone.  It fails exactly when the writing of one of them fails. -/
theorem write_recursive_exact (hc : c.Keyed) (policy : ForeignPolicy) (n : Nat) :
    (∀ written, (c.write policy n true).1 = .ok written →
      (written.map WrittenSchema.key).Nodup ∧
      List.Forall₂ (c.WrittenAs policy) (c.emissionOrder n) written) ∧
    ((∃ err, (c.write policy n true).1 = .error err) ↔
      ∃ m ∈ c.emissionOrder n, ∃ err, (c.write policy m false).1 = .error err) ∧
    (∀ fuel, c.schemas.size < fuel →
      (exec (Emission.visit c policy true fuel n) {}).1.map
        (fun _ => (exec (Emission.visit c policy true fuel n) {}).2.written) =
      (c.write policy n true).1) ∧
    (c.emissionOrder n).Nodup ∧
    (∀ m, m ∈ c.emissionOrder n ↔
      c.Emits true n m ∧ ∃ s, c.schemas[m]? = some s ∧ s.builtin = false) ∧
    (∀ s, c.schemas[n]? = some s → s.builtin = false → (c.emissionOrder n).head? = some n) := by
  have hnodup := nodup_emissionOrder c n
  refine ⟨fun written hwritten => ?_, ?_,
    fun fuel hfuel => (visit_eq_mapM policy n hfuel).trans (write_eq_mapM policy n).symm,
    hnodup, fun _ => mem_emissionOrder_iff, fun _ => head?_emissionOrder⟩
  · obtain ⟨-, written', hwritten', heach⟩ | ⟨-, err, herr⟩ := write_cases c policy n
    · cases hwritten.symm.trans hwritten'
      exact ⟨hc.nodup_writtenKeys hnodup (fun _ hm => (of_mem_preorder hm).2) heach, heach⟩
    · cases hwritten.symm.trans herr
  · obtain ⟨hall, written, hwritten, -⟩ | ⟨hfail, herror⟩ := write_cases c policy n
    · refine ⟨fun ⟨err, herr⟩ => ?_, fun ⟨m, hm, err, herr⟩ => ?_⟩
      · cases hwritten.symm.trans herr
      · obtain ⟨d, hd⟩ := hall m hm
        cases hd.write.symm.trans herr
    · exact ⟨fun _ => hfail, fun _ => herror⟩

/-- Three schemas that refer to one another, to themselves and to the catalogue;
the reference to the last goes by way of the namespace that it stands in for. -/
def importTangle : Collection :=
  let schema (number : Nat) (uri : String) (items : List SchemaItem) : Schema :=
    { number, key := ⟨uri, toString number⟩, targetNamespace := some uri, items }
  let importOf (uri : String) (target : Option Nat) : SchemaItem :=
    .external { kind := .importation, namespaceName := some uri, target }
  { schemas := #[Catalogue.schema,
      schema 1 "urn:a" [importOf schemaNamespace (some 0), importOf "urn:b" (some 2),
        importOf "urn:c" none],
      schema 2 "urn:b" [importOf "urn:c" none, importOf "urn:a" (some 1)],
      schema 3 "urn:c" [importOf "urn:c" none, importOf "urn:b" (some 2)]]
    known := [("urn:c", 3)] }

theorem keyed_importTangle : importTangle.Keyed where
  numbered := by
    intro i s hs
    have hi : i < 4 := (Array.getElem?_eq_some_iff.1 hs).1
    match i, hi with
    | 0, _ | 1, _ | 2, _ | 3, _ =>
        cases hs
        rfl
  nodup := by decide +kernel

/-- From the first schema of the tangle the third is written last, after the
second, which refers to it before the first does. -/
theorem write_recursive_exact_importTangle :
    importTangle.Keyed ∧ ∃ written, (importTangle.write .keep 1 true).1 = .ok written ∧
      written.map WrittenSchema.key = [⟨"urn:a", "1"⟩, ⟨"urn:b", "2"⟩, ⟨"urn:c", "3"⟩] ∧
      List.Forall₂ (importTangle.WrittenAs .keep) (importTangle.emissionOrder 1) written := by
  have hkeys : (importTangle.write .keep 1 true).1.toOption.map (·.map WrittenSchema.key) =
      some [⟨"urn:a", "1"⟩, ⟨"urn:b", "2"⟩, ⟨"urn:c", "3"⟩] := by decide +kernel
  cases hwrite : (importTangle.write .keep 1 true).1 with
  | error err =>
      rw [hwrite] at hkeys
      cases hkeys
  | ok written =>
      rw [hwrite] at hkeys
      have hexact := write_recursive_exact keyed_importTangle .keep 1
      exact ⟨keyed_importTangle, written, rfl, Option.some.inj hkeys, (hexact.1 written hwrite).2⟩

end Collection

end XmlSchema
