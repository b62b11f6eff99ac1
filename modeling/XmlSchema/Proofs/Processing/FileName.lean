import Mathlib.Data.List.TakeWhile
import XmlSchema.Processing.FileName
import XmlSchema.Proofs.Document.Prefixes

/-!
# Free names

The names that are tried for a locator are all different, so one more of them
than names are taken holds a free one, and trying them one after the other comes
to an end.  Names that are assigned one after the other are therefore all
different, each is one component of a path, and it is the last segment of the
locator wherever that is still free.
-/

namespace XmlSchema.FileName

/-- A name that is one component of a path, however separators are spelled. -/
structure Single (name : String) : Prop where
  ne_empty : name ≠ ""
  unseparated : ∀ c ∈ name.toList, isSeparator c = false

variable {taken locators : List String} {locator name : String}

theorem Single.slashless (h : Single name) : '/' ∉ name.toList :=
  fun hmem => absurd (h.unseparated _ hmem) (by decide)

theorem Single.backslashless (h : Single name) : '\\' ∉ name.toList :=
  fun hmem => absurd (h.unseparated _ hmem) (by decide)

/-- A given name is read through to see that it is one component. -/
theorem single_of_all (hne : name ≠ "") (h : name.toList.all (!isSeparator ·) = true) :
    Single name :=
  ⟨hne, fun c hc => Bool.not_eq_true' _ ▸ List.all_eq_true.1 h c hc⟩

/-- What is cut off at a dot follows it. -/
theorem takeWhile_append_drop {cs : List Char}
    (h : ((cs.dropWhile (· != '.')).drop 1).isEmpty = false) :
    cs.takeWhile (· != '.') ++ '.' :: (cs.dropWhile (· != '.')).drop 1 = cs := by
  have hcut := List.takeWhile_append_dropWhile (p := (· != '.')) (l := cs)
  cases hrest : cs.dropWhile (· != '.') with
  | nil =>
      rw [hrest] at h
      cases h
  | cons c rest =>
      have hne : cs.dropWhile (· != '.') ≠ [] := by
        rw [hrest]
        exact List.cons_ne_nil _ _
      have hhead := List.head_dropWhile_not (· != '.') hne
      simp only [hrest, List.head_cons, bne_eq_false_iff_eq] at hhead
      subst hhead
      rw [hrest] at hcut
      exact hcut

/-- A name is its stem with its extension. -/
theorem split_append (name : String) : (split name).1 ++ (split name).2 = name := by
  unfold split
  dsimp only
  split
  · exact String.append_empty
  · rename_i hstem
    have hcut := congrArg List.reverse (takeWhile_append_drop (Bool.eq_false_iff.2 hstem))
    rw [List.reverse_append, List.reverse_cons, List.append_assoc, List.reverse_reverse] at hcut
    apply String.toList_injective
    rw [String.toList_append, String.toList_ofList, String.toList_ofList]
    exact hcut

theorem candidate_succ (locator : String) (n : Nat) :
    candidate locator (n + 1) =
      (split (base locator)).1 ++ "-" ++ toString (n + 1) ++ (split (base locator)).2 := by
  rw [candidate]

/-- No name is tried twice. -/
theorem candidate_injective (locator : String) : Function.Injective (candidate locator) := by
  -- a name with a number is longer than the one without
  have hlonger : ∀ n, candidate locator (n + 1) ≠ base locator := by
    intro n heq
    have hlength := congrArg String.length heq
    have hname := congrArg String.length (split_append (base locator))
    rw [candidate_succ] at hlength
    simp only [String.length_append] at hlength hname
    have hdash : "-".length = 1 := rfl
    omega
  intro m n h
  cases m with
  | zero =>
      cases n with
      | zero => rfl
      | succ n => exact absurd h.symm (hlonger n)
  | succ m =>
      cases n with
      | zero => exact absurd h (hlonger m)
      | succ n =>
          rw [candidate_succ, candidate_succ, String.append_left_inj, String.append_right_inj] at h
          exact toString_nat_injective h

/-- A name that is given is not taken. -/
theorem unique_not_mem (taken : List String) (locator : String) :
    unique taken locator ∉ taken := by
  let names := (List.range (taken.length + 1)).map (candidate locator)
  have hnodup : names.Nodup := List.nodup_range.map (candidate_injective locator)
  unfold unique
  cases hfree : names.find? (!taken.contains ·) with
  | some name =>
      have hname := List.find?_some hfree
      rw [Option.getD_some]
      simpa using hname
  | none =>
      -- otherwise all the names that are tried would be among those taken
      have hsubset : names ⊆ taken := fun name hname => by
        simpa using List.find?_eq_none.1 hfree name hname
      have hlength := (List.subperm_of_subset hnodup hsubset).length_le
      rw [List.length_map, List.length_range] at hlength
      omega

theorem length_assign (taken locators : List String) :
    (assign taken locators).length = locators.length := by
  induction locators generalizing taken with
  | nil => rfl
  | cons locator rest ih => exact congrArg (· + 1) (ih _)

/-- Names that are assigned are not taken. -/
theorem not_mem_of_mem_assign (h : name ∈ assign taken locators) : name ∉ taken := by
  induction locators generalizing taken with
  | nil => cases h
  | cons locator rest ih =>
      rcases List.mem_cons.1 h with rfl | h
      · exact unique_not_mem taken locator
      · exact fun hmem => ih h (List.mem_cons_of_mem _ hmem)

/-- Names that are assigned are all different. -/
theorem nodup_assign (taken locators : List String) : (assign taken locators).Nodup := by
  induction locators generalizing taken with
  | nil => exact List.nodup_nil
  | cons locator rest ih =>
      exact List.nodup_cons.2 ⟨fun h => not_mem_of_mem_assign h List.mem_cons_self, ih _⟩

theorem base_single (locator : String) : Single (base locator) := by
  unfold base
  dsimp only
  split
  · exact single_of_all (by decide) (by decide)
  · rename_i hsegment
    refine ⟨fun h => ?_, fun c hc => ?_⟩
    · rw [String.ofList_eq_empty_iff, List.reverse_eq_nil_iff] at h
      rw [h] at hsegment
      exact hsegment rfl
    · rw [String.toList_ofList, List.mem_reverse] at hc
      simpa using List.mem_takeWhile_imp hc

theorem candidate_single (locator : String) (n : Nat) : Single (candidate locator n) := by
  cases n with
  | zero => exact base_single locator
  | succ n =>
      have hdash : Single "-" := single_of_all (by decide) (by decide)
      have hbase := (base_single locator).unseparated
      rw [← split_append (base locator), String.toList_append, List.forall_mem_append] at hbase
      have hnumber : ∀ c ∈ (toString (n + 1)).toList, isSeparator c = false := by
        rw [Nat.toString_eq_ofList_toDigits, String.toList_ofList]
        intro c hc
        have hdigit := Nat.isDigit_of_mem_toDigits (by decide) (by decide) hc
        unfold isSeparator
        rw [Bool.or_eq_false_iff, decide_eq_false_iff_not, decide_eq_false_iff_not]
        constructor <;> rintro rfl <;> exact absurd hdigit (by decide)
      rw [candidate_succ]
      refine ⟨fun h => ?_, ?_⟩
      · have hlength := congrArg String.length h
        simp only [String.length_append] at hlength
        have hone : "-".length = 1 := rfl
        have hempty : "".length = 0 := rfl
        omega
      · simp only [String.toList_append, List.forall_mem_append]
        exact ⟨⟨⟨hbase.1, hdash.unseparated⟩, hnumber⟩, hbase.2⟩

theorem unique_single (taken : List String) (locator : String) : Single (unique taken locator) := by
  unfold unique
  cases hfree : ((List.range (taken.length + 1)).map (candidate locator)).find?
      (!taken.contains ·) with
  | none => exact base_single locator
  | some name =>
      obtain ⟨n, -, rfl⟩ := List.mem_map.1 (List.mem_of_find?_eq_some hfree)
      exact candidate_single locator n

theorem single_of_mem_assign (h : name ∈ assign taken locators) : Single name := by
  induction locators generalizing taken with
  | nil => cases h
  | cons locator rest ih =>
      rcases List.mem_cons.1 h with rfl | h
      · exact unique_single taken locator
      · exact ih h

/-- A name is the last segment of a locator: only separators follow it, and
there is one in front of it unless it begins the locator. -/
structure LastSegment (locator segment : String) : Prop where
  single : Single segment
  ends : ∃ before after, locator.toList = before ++ segment.toList ++ after ∧
    (∀ c ∈ before.getLast?, isSeparator c = true) ∧ ∀ c ∈ after, isSeparator c = true

theorem LastSegment.base_eq {segment : String} (h : LastSegment locator segment) :
    base locator = segment := by
  obtain ⟨before, after, hlocator, hbefore, hafter⟩ := h.ends
  have hunseparated : ∀ c ∈ segment.toList.reverse, isSeparator c = false :=
    fun c hc => h.single.unseparated c (List.mem_reverse.1 hc)
  have hfront : before.reverse.takeWhile (!isSeparator ·) = [] := by
    cases hlast : before.reverse with
    | nil => rfl
    | cons c rest =>
        have hc : isSeparator c = true := hbefore c (by
          rw [← List.head?_reverse, hlast]
          rfl)
        exact List.takeWhile_cons_of_neg (by simp [hc])
  have hreverse : locator.toList.reverse =
      after.reverse ++ (segment.toList.reverse ++ before.reverse) := by
    simp [hlocator]
  have hne : segment.toList.reverse ≠ [] := fun hnil =>
    h.single.ne_empty (String.toList_eq_nil_iff.1 (List.reverse_eq_nil_iff.1 hnil))
  have hsegment : (locator.toList.reverse.dropWhile isSeparator).takeWhile (!isSeparator ·) =
      segment.toList.reverse := by
    obtain ⟨c, cs, hcs⟩ := List.exists_cons_of_ne_nil hne
    have hc : ¬ isSeparator c = true := by simp [hunseparated c (hcs ▸ List.mem_cons_self)]
    rw [hreverse, List.dropWhile_append_of_pos fun d hd => hafter d (List.mem_reverse.1 hd), hcs,
      List.cons_append, List.dropWhile_cons_of_neg hc, ← List.cons_append, ← hcs,
      List.takeWhile_append_of_pos fun d hd => by simp [hunseparated d hd], hfront, List.append_nil]
  unfold base
  dsimp only
  rw [hsegment, if_neg (by simpa using hne), List.reverse_reverse, String.ofList_toList]

/-- The last segment of a locator that ends in a name. -/
theorem base_eq (h : Single name)
    (hlocator : locator = name ∨ ∃ before, locator = before ++ "/" ++ name) :
    base locator = name := by
  refine LastSegment.base_eq ⟨h, ?_⟩
  rcases hlocator with rfl | ⟨before, rfl⟩
  · exact ⟨[], [], by simp, by simp, by simp⟩
  · exact ⟨before.toList ++ ['/'], [], by simp [String.toList_append], by simp [isSeparator],
      by simp⟩

theorem unique_of_not_mem (h : base locator ∉ taken) : unique taken locator = base locator := by
  unfold unique
  rw [List.range_succ_eq_map, List.map_cons, List.find?_cons_of_pos (by simpa [candidate] using h)]
  rfl

/-- Locators with different last segments keep them for names. -/
theorem assign_eq_map (hbases : (locators.map base).Nodup)
    (hfree : ∀ locator ∈ locators, base locator ∉ taken) :
    assign taken locators = locators.map base := by
  induction locators generalizing taken with
  | nil => rfl
  | cons locator rest ih =>
      obtain ⟨hfirst, hrest⟩ := List.forall_mem_cons.1 hfree
      obtain ⟨hnew, hbases⟩ := List.nodup_cons.1 hbases
      rw [assign, unique_of_not_mem hfirst, ih hbases fun other hother => ?_, List.map_cons]
      intro hmem
      rcases List.mem_cons.1 hmem with heq | hmem
      · rw [← heq] at hnew
        exact hnew (List.mem_map_of_mem hother)
      · exact hrest other hother hmem

/-- Trying names from the `n`-th on, until one is not used.  Nothing bounds the
number of tries. -/
inductive Search (used : List String) (locator : String) : Nat → String → Prop where
  | free {n : Nat} (h : candidate locator n ∉ used) :
      Search used locator n (candidate locator n)
  | retry {n : Nat} {name : String} (h : candidate locator n ∈ used)
      (rest : Search used locator (n + 1) name) : Search used locator n name

/-- The search comes to the first name that is not used. -/
theorem search_of_first {used : List String} {n k : Nat} (hfree : candidate locator (n + k) ∉ used)
    (hused : ∀ j < k, candidate locator (n + j) ∈ used) :
    Search used locator n (candidate locator (n + k)) := by
  induction k generalizing n with
  | zero => exact .free hfree
  | succ k ih =>
      refine .retry (hused 0 (by omega)) ?_
      rw [show n + (k + 1) = n + 1 + k by omega] at hfree ⊢
      refine ih hfree fun j hj => ?_
      rw [show n + 1 + j = n + (j + 1) by omega]
      exact hused (j + 1) (by omega)

/-- The search ends with the name that is given. -/
theorem search_unique (used : List String) (locator : String) :
    Search used locator 0 (unique used locator) := by
  have hnew := unique_not_mem used locator
  unfold unique at hnew ⊢
  rw [List.find?_map] at hnew ⊢
  cases hfound : (List.range (used.length + 1)).find?
      ((fun name => !used.contains name) ∘ candidate locator) with
  | none =>
      -- the first name of all is free, so it would have been found
      rw [hfound] at hnew
      exact .free hnew
  | some k =>
      obtain ⟨hfree, -, hused⟩ := List.find?_range_eq_some.1 hfound
      have hsearch : Search used locator 0 (candidate locator (0 + k)) := by
        refine search_of_first ?_ fun j hj => ?_
        · simpa using hfree
        · simpa using hused j hj
      simpa using hsearch

/-- Names that are asked for one after the other: each is searched for among the
names that are used by then, and is used from then on. -/
inductive Calls : List String → List String → List String → List String → Prop where
  | done (used : List String) : Calls used [] [] used
  | call {used rest names final : List String} {locator name : String}
      (search : Search used locator 0 name) (more : Calls (name :: used) rest names final) :
      Calls used (locator :: rest) (name :: names) final

theorem calls_assign (used locators : List String) :
    Calls used locators (assign used locators) ((assign used locators).reverse ++ used) := by
  induction locators generalizing used with
  | nil => exact .done used
  | cons locator rest ih =>
      have hmore := ih (unique used locator :: used)
      rw [assign, List.reverse_cons, List.append_assoc, List.singleton_append]
      exact .call (search_unique used locator) hmore

theorem assign_append (used before rest : List String) :
    assign used (before ++ rest) =
      assign used before ++ assign ((assign used before).reverse ++ used) rest := by
  induction before generalizing used with
  | nil => rfl
  | cons locator before ih =>
      rw [List.cons_append, assign, ih, assign, List.cons_append, List.reverse_cons,
        List.append_assoc, List.singleton_append]

/-- Names that are asked for one after the other, with none used at first: every
search ends; the names are all different, and they are what is used in the end;
each is one component of a path; and it is the last segment of its locator if
that is still free. -/
theorem assign_exact (locators : List String) :
    ∃ used, Calls [] locators (assign [] locators) used ∧
      (assign [] locators).Nodup ∧ (∀ name, name ∈ used ↔ name ∈ assign [] locators) ∧
      (∀ name ∈ assign [] locators, name ≠ "" ∧ '/' ∉ name.toList ∧ '\\' ∉ name.toList) ∧
      ∀ before locator after segment, locators = before ++ locator :: after →
        LastSegment locator segment → segment ∉ assign [] before →
        (assign [] locators)[before.length]? = some segment := by
  refine ⟨_, calls_assign [] locators, nodup_assign [] locators, by simp, ?_, ?_⟩
  · intro name hname
    have hsingle := single_of_mem_assign hname
    exact ⟨hsingle.ne_empty, hsingle.slashless, hsingle.backslashless⟩
  · rintro before locator after segment rfl hsegment hfree
    have hbase : base locator ∉ (assign [] before).reverse ++ [] := by
      simpa [hsegment.base_eq] using hfree
    have hname := (unique_of_not_mem hbase).trans hsegment.base_eq
    rw [assign_append, List.getElem?_append_right (by rw [length_assign]), length_assign,
      Nat.sub_self, assign, hname]
    rfl

/-- A name that the numbering has made is in the way of a locator that bears it. -/
example : assign [] ["a/x.xsd", "b/x.xsd", "x-1.xsd", ".x", "\\c/.x//", ""] =
    ["x.xsd", "x-1.xsd", "x-1-1.xsd", ".x", ".x-1", "schema.xsd"] := by decide +kernel

end XmlSchema.FileName
