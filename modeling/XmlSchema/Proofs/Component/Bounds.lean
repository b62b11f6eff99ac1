import Mathlib.Data.List.Induction
import XmlSchema.Component.Values

/-!
# What an occurrence bound reads as

A bound is written as a decimal numeral or as the word that lifts the limit.
Each of the two bounds is read for itself, and neither is ever compared with
the other: a pair of bounds is consistent only when what was written is.
-/

namespace XmlSchema.Occurs

/-- Decimal digits spell a number. -/
inductive Spells : List Char → Nat → Prop
  | digit {c : Char} (hc : c.isDigit) : Spells [c] (c.toNat - '0'.toNat)
  | append {cs : List Char} {n : Nat} {c : Char} (h : Spells cs n) (hc : c.isDigit) :
      Spells (cs ++ [c]) (n * 10 + (c.toNat - '0'.toNat))

/-- A numeral of any length: digits, which a plus sign may precede. -/
inductive Numeral : List Char → Nat → Prop
  | plain {cs : List Char} {n : Nat} (h : Spells cs n) : Numeral cs n
  | signed {cs : List Char} {n : Nat} (h : Spells cs n) : Numeral ('+' :: cs) n

/-- What a bound is when it is absent, lifts the limit, is a numeral of at most
64 bits, or is nothing of the kind.  Blanks around it do not matter. -/
inductive Reads : Option String → Nat → Prop
  | absent : Reads none 1
  | unbounded {s : String} (h : Text.trim s = "unbounded") : Reads (some s) Occurs.unbounded
  | numeral {s : String} {n : Nat} (h : Numeral (Text.trim s).toList n)
      (hn : n ≤ Occurs.unbounded) : Reads (some s) n
  | malformed {s : String} (hword : Text.trim s ≠ "unbounded")
      (h : ∀ n, ¬ Numeral (Text.trim s).toList n) : Reads (some s) 1

variable {cs : List Char} {n : Nat} {s : String} {v : Option String}

theorem Spells.forall_isDigit (h : Spells cs n) : ∀ c ∈ cs, c.isDigit := by
  induction h with
  | digit hc => exact List.forall_mem_singleton.2 hc
  | append _ hc ih => exact List.forall_mem_append.2 ⟨ih, List.forall_mem_singleton.2 hc⟩

theorem Spells.digits?_eq (h : Spells cs n) : digits? cs = some n := by
  have hne : cs ≠ [] := by
    cases h with
    | digit hc => exact List.cons_ne_nil _ _
    | append _ _ => simp
  have hdigits : cs.any (fun c => !c.isDigit) = false := by
    simpa using h.forall_isDigit
  have hvalue : cs.foldl (fun n c => n * 10 + (c.toNat - '0'.toNat)) 0 = n := by
    clear hne hdigits
    induction h with
    | digit hc => simp
    | append _ _ ih => rw [List.foldl_append, ih, List.foldl_cons, List.foldl_nil]
  unfold digits?
  rw [hdigits, hvalue, List.isEmpty_eq_false_iff.2 hne]
  rfl

theorem spells_foldl (hne : cs ≠ []) (hdigits : ∀ c ∈ cs, c.isDigit) :
    Spells cs (cs.foldl (fun n c => n * 10 + (c.toNat - '0'.toNat)) 0) := by
  induction cs using List.reverseRecOn with
  | nil => exact absurd rfl hne
  | append_singleton init c ih =>
      have hc : c.isDigit := hdigits c (by simp)
      rw [List.foldl_append, List.foldl_cons, List.foldl_nil]
      by_cases hinit : init = []
      · subst hinit
        simpa using Spells.digit hc
      · exact .append (ih hinit fun d hd => hdigits d (List.mem_append_left _ hd)) hc

theorem digits?_eq_some_iff : digits? cs = some n ↔ Spells cs n := by
  refine ⟨fun h => ?_, Spells.digits?_eq⟩
  unfold digits? at h
  split at h
  · cases h
  · rename_i hcond
    simp only [Bool.or_eq_true, List.isEmpty_iff, List.any_eq_true, not_or] at hcond
    cases h
    exact spells_foldl hcond.1 fun c hc => by
      by_contra hdigit
      exact hcond.2 ⟨c, hc, by simpa using hdigit⟩

/-- The numerals of at most 64 bits, and no others, are read. -/
theorem numeral?_eq_some_iff : numeral? s = some n ↔ Numeral s.toList n ∧ n ≤ unbounded := by
  have hplus : ∀ {cs n}, ¬ Spells ('+' :: cs) n := fun h =>
    absurd (h.forall_isDigit '+' List.mem_cons_self) (by decide)
  unfold numeral?
  rw [Option.filter_eq_some_iff, decide_eq_true_eq]
  refine and_congr_left fun _ => ?_
  split
  · rename_i rest hrest
    rw [hrest, digits?_eq_some_iff]
    refine ⟨.signed, fun h => ?_⟩
    cases h with
    | plain h => exact absurd h hplus
    | signed h => exact h
  · rename_i hunsigned
    rw [digits?_eq_some_iff]
    refine ⟨.plain, fun h => ?_⟩
    generalize s.toList = cs at *
    cases h with
    | plain h => exact h
    | signed h => exact absurd rfl (hunsigned _)

theorem Numeral.ne_unbounded (h : Numeral s.toList n) : s ≠ "unbounded" := by
  rintro rfl
  generalize hcs : "unbounded".toList = cs at h
  cases h with
  | plain h =>
      subst hcs
      exact absurd (h.forall_isDigit 'u' (by decide)) (by decide)
  | signed h => simp at hcs

/-- What a bound reads as is what it is parsed to. -/
theorem Reads.parseBound_eq (h : Reads v n) : parseBound v = n := by
  cases h with
  | absent => rfl
  | unbounded h => exact if_pos h
  | numeral h hn =>
      unfold parseBound
      dsimp only
      rw [if_neg h.ne_unbounded, numeral?_eq_some_iff.2 ⟨h, hn⟩, Option.getD_some]
  | @malformed s hword h =>
      unfold parseBound
      dsimp only
      rw [if_neg hword]
      cases hnumeral : numeral? (Text.trim s) with
      | none => rfl
      | some n => exact absurd (numeral?_eq_some_iff.1 hnumeral).1 (h n)

theorem parseBound_le (v : Option String) : parseBound v ≤ unbounded := by
  have hone : 1 ≤ unbounded := by decide
  unfold parseBound
  split
  · exact hone
  · rename_i s
    dsimp only
    split
    · exact Nat.le_refl _
    · cases hnumeral : numeral? (Text.trim s) with
      | none => exact hone
      | some n => exact (numeral?_eq_some_iff.1 hnumeral).2

/-- Every bound reads as some number but a numeral of more than 64 bits. -/
theorem exists_reads_or_exceeds (v : Option String) :
    (∃ n, Reads v n) ∨ ∃ s n, v = some s ∧ Numeral (Text.trim s).toList n ∧ unbounded < n := by
  cases v with
  | none => exact .inl ⟨1, .absent⟩
  | some s =>
      by_cases hword : Text.trim s = "unbounded"
      · exact .inl ⟨_, .unbounded hword⟩
      · by_cases hnumeral : ∃ n, Numeral (Text.trim s).toList n
        · obtain ⟨n, hn⟩ := hnumeral
          rcases Nat.lt_or_ge unbounded n with hlt | hle
          · exact .inr ⟨s, n, rfl, hn, hlt⟩
          · exact .inl ⟨n, .numeral hn hle⟩
        · exact .inl ⟨1, .malformed hword fun n hn => hnumeral ⟨n, hn⟩⟩

/-- Bounds are read from a pair of attributes, one by one. -/
structure Follows (o : Occurs) (min max : Option String) : Prop where
  min_le : o.min ≤ unbounded
  max_le : o.max ≤ unbounded
  min_eq : ∀ m, Reads min m → o.min = m
  max_eq : ∀ k, Reads max k → o.max = k
  consistent_iff : ∀ m k, Reads min m → Reads max k → (o.min ≤ o.max ↔ m ≤ k)

theorem parse_follows (min max : Option String) : (parse min max).Follows min max where
  min_le := parseBound_le min
  max_le := parseBound_le max
  min_eq _ hm := hm.parseBound_eq
  max_eq _ hk := hk.parseBound_eq
  consistent_iff m k hm hk := by
    unfold parse
    dsimp only
    rw [hm.parseBound_eq, hk.parseBound_eq]

end XmlSchema.Occurs
