import Mathlib.Data.List.Basic
import Mathlib.Logic.Relation
import XmlSchema.Document.Writer
import XmlSchema.Proofs.Attempt

/-!
# Writing a schema with what it refers to

A recursive writing visits the schemas depth first.  It succeeds exactly when
every schema that can be reached along the references has a document, and when
it fails it is one of these that has none.
-/

namespace XmlSchema

open Attempt

namespace Collection

/-- A schema is written together with another one that it refers to. -/
def Leads (c : Collection) (recursive : Bool) (n target : Nat) : Prop :=
  recursive = true ∧ ∃ s, c.schemas[n]? = some s ∧ s.builtin = false ∧ target ∈ c.targets s

/-- The schemas that are written together with a schema. -/
abbrev Emits (c : Collection) (recursive : Bool) : Nat → Nat → Prop :=
  Relation.ReflTransGen (c.Leads recursive)

/-- The document of a schema, or why there is none. -/
def document (c : Collection) (policy : ForeignPolicy) (s : Schema) :
    Except SchemaError Xml.Element :=
  (Writer.document { collection := c, schema := s, policy }).1

end Collection

namespace Emission

variable (c : Collection) (policy : ForeignPolicy) (recursive : Bool)

/-- A schema that has been seen has been written, and all that it refers to has
been seen as well. -/
def Done (seen : List Nat) (n : Nat) : Prop :=
  ∀ s, c.schemas[n]? = some s → s.builtin = false →
    (∃ e, c.document policy s = .ok e) ∧
      ∀ target, c.Leads recursive n target → target ∈ seen

/-- What a visit leaves behind: more has been seen, and all that is new is
done. -/
structure Visited (e : Emission) (numbers : List Nat) (e' : Emission) : Prop where
  subset : e.seen ⊆ e'.seen
  mem : ∀ n ∈ numbers, n ∈ e'.seen
  done : ∀ n ∈ e'.seen, n ∈ e.seen ∨ Done c policy recursive e'.seen n

/-- What has been written are the documents of what has been seen. -/
structure Documented (e : Emission) : Prop where
  seen : ∀ n ∈ e.seen, ∀ s, c.schemas[n]? = some s → s.builtin = false →
    ∃ d, c.document policy s = .ok d ∧ ⟨s.key, d⟩ ∈ e.written
  written : ∀ d ∈ e.written, ∃ (n : Nat) (s : Schema), c.schemas[n]? = some s ∧
    s.builtin = false ∧ d.key = s.key ∧ c.document policy s = .ok d.document

/-- What a failed visit has come upon. -/
def Failed (n : Nat) (e : SchemaError) : Prop :=
  ∃ m s, c.Emits recursive n m ∧ c.schemas[m]? = some s ∧ s.builtin = false ∧
    c.document policy s = .error e

/-- The schemas that have not been seen. -/
def remaining (seen : List Nat) : Nat :=
  ((List.range c.schemas.size).filter fun n => !seen.contains n).length

variable {c policy recursive}

theorem Done.mono {seen more : List Nat} {n : Nat} (h : Done c policy recursive seen n)
    (hsub : seen ⊆ more) : Done c policy recursive more n :=
  fun s hs hauthored => ⟨(h s hs hauthored).1, fun t ht => hsub ((h s hs hauthored).2 t ht)⟩

theorem remaining_le {seen more : List Nat} (h : seen ⊆ more) :
    remaining c more ≤ remaining c seen := by
  unfold remaining
  refine List.Sublist.length_le (List.monotone_filter_right _ fun n hn => ?_)
  simp only [Bool.not_eq_true', List.contains_eq_mem, decide_eq_false_iff_not] at hn ⊢
  exact fun hmem => hn (h hmem)

theorem remaining_cons_lt {seen : List Nat} {n : Nat} (hn : n < c.schemas.size)
    (hnew : n ∉ seen) : remaining c (n :: seen) < remaining c seen := by
  unfold remaining
  have hsub : ((List.range c.schemas.size).filter fun m => !(n :: seen).contains m) =
      (((List.range c.schemas.size).filter fun m => !seen.contains m).filter fun m => m != n) := by
    rw [List.filter_filter]
    congr 1
    funext m
    by_cases hm : m = n <;> simp [hm]
  rw [hsub]
  refine List.length_filter_lt_length_iff_exists.2 ⟨n, ?_, by simp⟩
  simp [hn, hnew]

/-- Visiting one schema after the other. -/
theorem forM_ends {fuel : Nat} {visit : Nat → Attempt Emission Unit} {parent : Nat}
    (hvisit : ∀ n e, remaining c e.seen < fuel →
      Ends (visit n) e (fun _ e' => Visited c policy recursive e [n] e')
        (fun e _ => Failed c policy recursive n e))
    (numbers : List Nat) (hnumbers : ∀ n ∈ numbers, c.Leads recursive parent n) :
    ∀ e : Emission, remaining c e.seen < fuel →
      Ends (numbers.forM visit) e (fun _ e' => Visited c policy recursive e numbers e')
        (fun e _ => Failed c policy recursive parent e) := by
  induction numbers with
  | nil =>
      intro e _
      exact ⟨List.Subset.refl _, nofun, fun n hn => .inl hn⟩
  | cons n rest ih =>
      intro e hfuel
      refine Ends.bind ((hvisit n e hfuel).mono (fun _ _ h => h) ?_) ?_
      · rintro err - ⟨m, s, hemits, hs⟩
        exact ⟨m, s, .head (hnumbers n List.mem_cons_self) hemits, hs⟩
      · rintro - e₁ h₁
        have hfuel₁ : remaining c e₁.seen < fuel :=
          Nat.lt_of_le_of_lt (remaining_le h₁.subset) hfuel
        refine (ih (fun m hm => hnumbers m (List.mem_cons_of_mem n hm)) e₁ hfuel₁).mono ?_
          fun _ _ h => h
        rintro - e₂ h₂
        refine ⟨List.Subset.trans h₁.subset h₂.subset, ?_, ?_⟩
        · intro m hm
          rcases List.mem_cons.1 hm with rfl | hm
          · exact h₂.subset (h₁.mem m List.mem_cons_self)
          · exact h₂.mem m hm
        · intro m hm
          rcases h₂.done m hm with hm | hdone
          · rcases h₁.done m hm with hm | hdone
            · exact .inl hm
            · exact .inr (hdone.mono h₂.subset)
          · exact .inr hdone

theorem visit_ends (fuel : Nat) : ∀ (n : Nat) (e : Emission), remaining c e.seen < fuel →
    Ends (visit c policy recursive fuel n) e (fun _ e' => Visited c policy recursive e [n] e')
      (fun e _ => Failed c policy recursive n e) := by
  induction fuel with
  | zero => exact fun n e h => absurd h (Nat.not_lt_zero _)
  | succ fuel ih =>
      intro n e hfuel
      have hself : ∀ e' : Emission, e'.seen = n :: e.seen → Done c policy recursive e'.seen n →
          Visited c policy recursive e [n] e' := by
        intro e' hseen hdone
        refine ⟨?_, ?_, ?_⟩
        · rw [hseen]
          exact List.subset_cons_self n e.seen
        · intro m hm
          rw [List.mem_singleton.1 hm, hseen]
          exact List.mem_cons_self
        · intro m hm
          rw [hseen] at hm
          rcases List.mem_cons.1 hm with rfl | hm
          · exact .inr hdone
          · exact .inl hm
      unfold visit
      rw [ends_bind, ends_get]
      split
      · rename_i hseen
        have hmem : n ∈ e.seen := by simpa using hseen
        refine ⟨List.Subset.refl _, fun m hm => ?_, fun m hm => .inl hm⟩
        rw [List.mem_singleton.1 hm]
        exact hmem
      · rename_i hseen
        have hnew : n ∉ e.seen := by simpa using hseen
        rw [ends_bind, ends_modify]
        split
        · rename_i hs
          refine hself _ rfl fun s hs' => ?_
          rw [hs] at hs'
          cases hs'
        · rename_i s hs
          split
          · rename_i hbuiltin
            refine hself _ rfl fun s' hs' hauthored => ?_
            cases Option.some.inj (hs.symm.trans hs')
            rw [hbuiltin] at hauthored
            cases hauthored
          · rename_i hbuiltin
            have hauthored : s.builtin = false := by simpa using hbuiltin
            have hlt : n < c.schemas.size := (Array.getElem?_eq_some_iff.1 hs).1
            have hdone : ∀ seen : List Nat, (∃ d, c.document policy s = .ok d) →
                (∀ target, c.Leads recursive n target → target ∈ seen) →
                Done c policy recursive seen n := by
              intro seen hd htargets s' hs' _
              cases Option.some.inj (hs.symm.trans hs')
              exact ⟨hd, htargets⟩
            dsimp only
            rw [ends_bind, ends_modify]
            cases hd : c.document policy s with
            | error err =>
                rw [show (Writer.document { collection := c, schema := s, policy }).1 = _ from hd]
                exact ⟨n, s, .refl, hs, hauthored, hd⟩
            | ok d =>
                rw [show (Writer.document { collection := c, schema := s, policy }).1 = _ from hd]
                dsimp only
                rw [ends_bind, ends_modify]
                by_cases hrec : recursive = true
                · rw [if_pos hrec]
                  -- the schema itself counts as seen while its targets are visited
                  refine (forM_ends ih (c.targets s) (fun t ht => ⟨hrec, s, hs, hauthored, ht⟩)
                    _ ?_).mono ?_ fun _ _ h => h
                  · have := remaining_cons_lt hlt hnew
                    show remaining c (n :: e.seen) < fuel
                    omega
                  · rintro - e' ⟨hsubset, hmem, hdone'⟩
                    have hn : n ∈ e'.seen := hsubset List.mem_cons_self
                    refine ⟨fun m hm => hsubset (List.mem_cons_of_mem n hm), ?_, fun m hm => ?_⟩
                    · intro m hm
                      rw [List.mem_singleton.1 hm]
                      exact hn
                    · rcases hdone' m hm with hm | hm
                      · rcases List.mem_cons.1 hm with rfl | hm
                        · refine .inr (hdone _ ⟨d, hd⟩ fun target htarget => ?_)
                          obtain ⟨-, s', hs', -, hmem'⟩ := htarget
                          cases Option.some.inj (hs.symm.trans hs')
                          exact hmem target hmem'
                        · exact .inl hm
                      · exact .inr hm
                · rw [if_neg hrec]
                  refine hself _ ?_ ?_
                  · rfl
                  · exact hdone _ ⟨d, hd⟩ fun target htarget => absurd htarget.1 hrec

/-- All that is written together with a schema is seen. -/
theorem Visited.mem_of_emits {e : Emission} {n m : Nat} (h : Visited c policy recursive {} [n] e)
    (hemits : c.Emits recursive n m) : m ∈ e.seen := by
  have hdone : ∀ m ∈ e.seen, Done c policy recursive e.seen m := fun m hm =>
    (h.done m hm).resolve_left List.not_mem_nil
  -- what has been seen is closed under references
  induction hemits with
  | refl => exact h.mem n List.mem_cons_self
  | tail _ hleads ih =>
      obtain ⟨-, t, ht, hbuiltin, -⟩ := id hleads
      exact (hdone _ ih t ht hbuiltin).2 _ hleads

theorem forM_documented {visit : Nat → Attempt Emission Unit}
    (hvisit : ∀ n e, Documented c policy e →
      Ends (visit n) e (fun _ e' => Documented c policy e') fun _ _ => True)
    (numbers : List Nat) : ∀ e, Documented c policy e →
      Ends (numbers.forM visit) e (fun _ e' => Documented c policy e') fun _ _ => True := by
  induction numbers with
  | nil => exact fun e he => he
  | cons n rest ih => exact fun e he => (hvisit n e he).bind fun _ e' he' => ih e' he'

theorem visit_documented (fuel : Nat) : ∀ n e, Documented c policy e →
    Ends (visit c policy recursive fuel n) e (fun _ e' => Documented c policy e')
      fun _ _ => True := by
  induction fuel with
  | zero => exact fun _ _ he => he
  | succ fuel ih =>
      intro n e he
      have hskip : (∀ s, c.schemas[n]? = some s → s.builtin = true) →
          Documented c policy { e with seen := n :: e.seen } := by
        refine fun hbuiltin => ⟨fun m hm s hs hauthored => ?_, he.written⟩
        rcases List.mem_cons.1 hm with rfl | hm
        · rw [hbuiltin s hs] at hauthored
          cases hauthored
        · exact he.seen m hm s hs hauthored
      unfold visit
      rw [ends_bind, ends_get]
      split
      · exact he
      · rw [ends_bind, ends_modify]
        split
        · rename_i hs
          exact hskip fun s hs' => by rw [hs] at hs'; cases hs'
        · rename_i s hs
          split
          · rename_i hbuiltin
            exact hskip fun s' hs' => Option.some.inj (hs.symm.trans hs') ▸ hbuiltin
          · rename_i hbuiltin
            have hauthored : s.builtin = false := by simpa using hbuiltin
            dsimp only
            rw [ends_bind, ends_modify]
            cases hd : c.document policy s with
            | error err =>
                rw [show (Writer.document { collection := c, schema := s, policy }).1 = _ from hd]
                trivial
            | ok d =>
                rw [show (Writer.document { collection := c, schema := s, policy }).1 = _ from hd]
                dsimp only
                rw [ends_bind, ends_modify]
                have hwritten : ∀ e' : Emission, e'.seen = n :: e.seen →
                    e'.written = e.written ++ [⟨s.key, d⟩] → Documented c policy e' := by
                  intro e' hseen hwritten
                  refine ⟨fun m hm s' hs' hauthored' => ?_, fun w hw => ?_⟩
                  · rw [hseen] at hm
                    rw [hwritten]
                    rcases List.mem_cons.1 hm with rfl | hm
                    · cases Option.some.inj (hs.symm.trans hs')
                      exact ⟨d, hd, List.mem_append_right _ List.mem_cons_self⟩
                    · obtain ⟨d', hd', hmem⟩ := he.seen m hm s' hs' hauthored'
                      exact ⟨d', hd', List.mem_append_left _ hmem⟩
                  · rw [hwritten, List.mem_append, List.mem_singleton] at hw
                    rcases hw with hw | rfl
                    · exact he.written w hw
                    · exact ⟨n, s, hs, hauthored, rfl, hd⟩
                split
                · exact forM_documented ih _ _ (hwritten _ rfl rfl)
                · exact hwritten _ rfl rfl

end Emission

namespace Collection

variable {c : Collection} {policy : ForeignPolicy} {recursive : Bool} {n : Nat}

theorem write_eq (c : Collection) (policy : ForeignPolicy) (n : Nat) (recursive : Bool) :
    (c.write policy n recursive).1 =
      (exec (Emission.visit c policy recursive (c.schemas.size + 1) n) {}).1.map fun _ =>
        (exec (Emission.visit c policy recursive (c.schemas.size + 1) n) {}).2.written := rfl

theorem visit_ends (c : Collection) (policy : ForeignPolicy) (n : Nat) (recursive : Bool) :
    Ends (Emission.visit c policy recursive (c.schemas.size + 1) n) {}
      (fun _ e' => Emission.Visited c policy recursive {} [n] e')
      (fun e _ => Emission.Failed c policy recursive n e) := by
  refine Emission.visit_ends (c.schemas.size + 1) n {} (Nat.lt_succ_of_le ?_)
  have hle := List.length_filter_le (fun m => !([] : List Nat).contains m)
    (List.range c.schemas.size)
  rwa [List.length_range] at hle

/-- What writing a schema fails with is the fault of a schema that is written
together with it. -/
theorem exists_of_write_error {e : SchemaError} (h : (c.write policy n recursive).1 = .error e) :
    ∃ m s, c.Emits recursive n m ∧ c.schemas[m]? = some s ∧ s.builtin = false ∧
      c.document policy s = .error e := by
  rw [write_eq] at h
  cases hvisit : (exec (Emission.visit c policy recursive (c.schemas.size + 1) n) {}).1 with
  | ok a =>
      rw [hvisit] at h
      cases h
  | error e' =>
      rw [hvisit] at h
      cases h
      exact (visit_ends c policy n recursive).of_error (Prod.ext hvisit rfl)

/-- What has been written, when writing succeeds. -/
theorem documented_of_write {written : List WrittenSchema}
    (h : (c.write policy n recursive).1 = .ok written) :
    ∃ e : Emission, e.written = written ∧ Emission.Documented c policy e ∧
      ∀ m, c.Emits recursive n m → m ∈ e.seen := by
  rw [write_eq] at h
  have hdocumented : Ends (Emission.visit c policy recursive (c.schemas.size + 1) n) {}
      (fun _ e' => Emission.Documented c policy e') fun _ _ => True :=
    Emission.visit_documented _ n {} ⟨nofun, nofun⟩
  cases hvisit : (exec (Emission.visit c policy recursive (c.schemas.size + 1) n) {}).1 with
  | error e =>
      rw [hvisit] at h
      cases h
  | ok a =>
      rw [hvisit] at h
      cases h
      have hvisited := (visit_ends c policy n recursive).of_ok (Prod.ext hvisit rfl)
      exact ⟨_, rfl, hdocumented.of_ok (Prod.ext hvisit rfl), fun m => hvisited.mem_of_emits⟩

/-- Every schema that is written together with another one is written. -/
theorem mem_write_of_emits {written : List WrittenSchema}
    (h : (c.write policy n recursive).1 = .ok written) {m : Nat} {s : Schema}
    (hemits : c.Emits recursive n m) (hs : c.schemas[m]? = some s) (hauthored : s.builtin = false) :
    ∃ d, c.document policy s = .ok d ∧ ⟨s.key, d⟩ ∈ written := by
  obtain ⟨e, rfl, hdocumented, hseen⟩ := documented_of_write h
  exact hdocumented.seen m (hseen m hemits) s hs hauthored

/-- The written documents are documents of schemas of the collection. -/
theorem schema_of_mem_write {written : List WrittenSchema} {d : WrittenSchema}
    (h : (c.write policy n recursive).1 = .ok written) (hd : d ∈ written) :
    ∃ (m : Nat) (s : Schema), c.schemas[m]? = some s ∧ s.builtin = false ∧ d.key = s.key ∧
      c.document policy s = .ok d.document := by
  obtain ⟨e, rfl, hdocumented, -⟩ := documented_of_write h
  exact hdocumented.written d hd

/-- A schema can be written exactly when all that are written together with it
have documents. -/
theorem write_ok_iff :
    (∃ written, (c.write policy n recursive).1 = .ok written) ↔
      ∀ m s, c.Emits recursive n m → c.schemas[m]? = some s → s.builtin = false →
        ∃ d, c.document policy s = .ok d := by
  constructor
  · rintro ⟨written, h⟩
    rw [write_eq] at h
    cases hvisit : (exec (Emission.visit c policy recursive (c.schemas.size + 1) n) {}).1 with
    | error e =>
        rw [hvisit] at h
        cases h
    | ok a =>
        have hvisited := (visit_ends c policy n recursive).of_ok (Prod.ext hvisit rfl)
        intro m s hemits hs hauthored
        exact (((hvisited.done m (hvisited.mem_of_emits hemits)).resolve_left
          List.not_mem_nil) s hs hauthored).1
  · intro h
    cases hwrite : (c.write policy n recursive).1 with
    | ok written => exact ⟨written, rfl⟩
    | error e =>
        obtain ⟨m, s, hemits, hs, hauthored, he⟩ := exists_of_write_error hwrite
        obtain ⟨d, hd⟩ := h m s hemits hs hauthored
        rw [he] at hd
        cases hd

end Collection

end XmlSchema
