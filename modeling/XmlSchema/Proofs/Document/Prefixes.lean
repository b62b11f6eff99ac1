import Mathlib.Data.List.Nodup
import Mathlib.Data.List.Perm.Subperm
import Mathlib.Data.List.Range
import XmlSchema.Document.PrefixTable
import XmlSchema.Proofs.Xml.Meaning

/-!
# The prefixes that a document is given

The root of a written document binds each prefix once, and never the empty one
or `xml`.  A namespace that is given a prefix keeps it: what the table binds,
every later table binds as well.
-/

namespace XmlSchema

theorem toString_nat_injective : Function.Injective (toString : Nat → String) := by
  intro a b h
  rw [Nat.toString_eq_ofList_toDigits, Nat.toString_eq_ofList_toDigits] at h
  have hdigits := congrArg (fun s : String => Nat.ofDigitChars 10 s.toList 0) h
  simpa using hdigits

namespace Bindings

/-- The prefixes that are bound, in order. -/
def keys (b : Bindings) : List String := b.toList.map Prod.fst

variable {b : Bindings} {pfx uri : String}

theorem containsPrefix_iff : b.containsPrefix pfx = true ↔ pfx ∈ b.keys := by
  unfold containsPrefix lookup? keys
  induction b.toList with
  | nil => simp
  | cons p rest ih =>
      obtain ⟨q, u⟩ := p
      rw [lookup_cons_eq, List.map_cons, List.mem_cons]
      split
      · rename_i hq
        exact iff_of_true rfl (.inl hq)
      · rename_i hq
        rw [ih, or_iff_right hq]

theorem toList_declare_of_not_mem (h : pfx ∉ b.keys) :
    (b.declare pfx uri).toList = b.toList ++ [(pfx, uri)] := by
  obtain ⟨pairs⟩ := b
  unfold declare keys at *
  dsimp only at *
  induction pairs with
  | nil => rfl
  | cons p rest ih =>
      obtain ⟨q, u⟩ := p
      rw [List.map_cons, List.mem_cons, not_or] at h
      rw [insertPair, if_neg (Ne.symm h.1), ih h.2]
      rfl

theorem keys_declare_of_not_mem (h : pfx ∉ b.keys) :
    (b.declare pfx uri).keys = b.keys ++ [pfx] := by
  unfold keys
  rw [toList_declare_of_not_mem h, List.map_append]
  rfl

theorem mem_keys (h : (pfx, uri) ∈ b.toList) : pfx ∈ b.keys := List.mem_map_of_mem h

theorem exists_of_mem_keys (h : pfx ∈ b.keys) : ∃ uri, (pfx, uri) ∈ b.toList := by
  obtain ⟨⟨p, uri⟩, hmem, rfl⟩ := List.mem_map.1 h
  exact ⟨uri, hmem⟩

theorem mem_of_lookup? (h : b.lookup? pfx = some uri) : (pfx, uri) ∈ b.toList := by
  obtain ⟨before, after, htoList, -⟩ := List.lookup_eq_some_iff.1 h
  rw [htoList]
  exact List.mem_append_right _ List.mem_cons_self

/-- The prefix of a namespace is bound to it and not empty. -/
theorem mem_of_prefixOf? (h : b.prefixOf? uri = some pfx) :
    (pfx, uri) ∈ b.toList ∧ pfx ≠ "" := by
  obtain ⟨⟨p, u⟩, hfind, rfl⟩ := Option.map_eq_some_iff.1 h
  have hfound := List.find?_some hfind
  simp only [Bool.and_eq_true, Bool.not_eq_true', beq_iff_eq, String.isEmpty_eq_false_iff]
    at hfound
  exact ⟨hfound.2 ▸ List.mem_of_find?_eq_some hfind, hfound.1⟩

/-- When no prefix is bound twice, every pair is a binding. -/
theorem lookup?_of_mem (hnodup : b.keys.Nodup) (h : (pfx, uri) ∈ b.toList) :
    b.lookup? pfx = some uri := by
  obtain ⟨pairs⟩ := b
  unfold lookup? keys at *
  dsimp only at *
  induction pairs with
  | nil => cases h
  | cons p rest ih =>
      obtain ⟨q, u⟩ := p
      rw [List.map_cons, List.nodup_cons] at hnodup
      rw [lookup_cons_eq]
      rcases List.mem_cons.1 h with heq | hmem
      · cases heq
        exact if_pos rfl
      · have hne : pfx ≠ q := by
          rintro rfl
          exact hnodup.1 (List.mem_map.2 ⟨(pfx, uri), hmem, rfl⟩)
        rw [if_neg hne, ih hnodup.2 hmem]

end Bindings

namespace PrefixTable

open Xml

variable {t : PrefixTable} {uri pfx : String}

theorem taken_iff : t.taken pfx = true ↔ pfx ∈ "xml" :: (t.declared.keys ++ t.recorded.keys) := by
  unfold taken
  rw [Bool.or_eq_true, Bool.or_eq_true, beq_iff_eq, Bindings.containsPrefix_iff,
    Bindings.containsPrefix_iff, List.mem_cons, List.mem_append, or_assoc]

/-- Among as many numbers as there are prefixes, and one more, one is free. -/
theorem exists_free (t : PrefixTable) (stem : String) (n : Nat) :
    ∃ k ≤ t.declared.size + t.recorded.size + 1, t.taken (stem ++ toString (n + k)) = false := by
  by_contra hnone
  push Not at hnone
  let tries := t.declared.size + t.recorded.size + 1
  have hnodup : ((List.range (tries + 1)).map fun k => stem ++ toString (n + k)).Nodup := by
    refine List.nodup_range.map fun a b hab => ?_
    have hnumber := toString_nat_injective (String.append_right_inj stem |>.1 hab)
    omega
  have hsubset : ((List.range (tries + 1)).map fun k => stem ++ toString (n + k)) ⊆
      "xml" :: (t.declared.keys ++ t.recorded.keys) := by
    intro candidate hmem
    obtain ⟨k, hk, rfl⟩ := List.mem_map.1 hmem
    have hle : k ≤ tries := Nat.lt_succ_iff.1 (List.mem_range.1 hk)
    exact taken_iff.1 (eq_true_of_ne_false (hnone k hle))
  have hlength := (List.subperm_of_subset hnodup hsubset).length_le
  have hkeys : ∀ b : Bindings, b.keys.length = b.size := fun b => List.length_map _
  rw [List.length_map, List.length_range, List.length_cons, List.length_append, hkeys,
    hkeys] at hlength
  omega

theorem taken_numbered {stem : String} {fuel n : Nat}
    (h : ∃ k ≤ fuel, t.taken (stem ++ toString (n + k)) = false) :
    t.taken (t.numbered stem fuel n) = false := by
  induction fuel generalizing n with
  | zero =>
      obtain ⟨k, hk, hfree⟩ := h
      obtain rfl : k = 0 := by omega
      exact hfree
  | succ fuel ih =>
      unfold numbered
      dsimp only
      split
      · rename_i htaken
        obtain ⟨k, hk, hfree⟩ := h
        -- the number at hand is not the one that is free
        have hne : k ≠ 0 := by
          rintro rfl
          rw [Nat.add_zero, htaken] at hfree
          cases hfree
        refine ih ⟨k - 1, by omega, ?_⟩
        rwa [show n + 1 + (k - 1) = n + k by omega]
      · rename_i hfree
        exact eq_false_of_ne_true hfree

/-- A fresh prefix is not in use. -/
theorem taken_fresh (t : PrefixTable) (stem : String) : t.taken (t.fresh stem) = false := by
  unfold fresh
  dsimp only
  split
  · exact taken_numbered (t.exists_free stem 0)
  · split
    · exact taken_numbered (t.exists_free stem 1)
    · rename_i hfree
      exact eq_false_of_ne_true hfree

theorem fresh_ne_empty (t : PrefixTable) {stem : String} (hstem : stem ≠ "") :
    t.fresh stem ≠ "" := by
  have happend : ∀ suffix, stem ++ suffix ≠ "" := by
    intro suffix h
    exact hstem (String.append_eq_empty_iff.1 h).1
  have hnumbered : ∀ fuel n, t.numbered stem fuel n ≠ "" := by
    intro fuel
    induction fuel with
    | zero => exact fun n => happend _
    | succ fuel ih =>
        intro n
        unfold numbered
        dsimp only
        split
        · exact ih _
        · exact happend _
  unfold fresh
  dsimp only
  split
  · exact hnumbered _ _
  · split
    · exact hnumbered _ _
    · exact hstem

/-- A namespace goes by the first prefix that the source document recorded for
it, and by none of the recorded ones when there is no such prefix. -/
def GoesBy (t : PrefixTable) (uri pfx : String) : Prop :=
  match (t.recorded.prefixOf? uri).filter (· != "xml") with
  | some p => pfx = p
  | none => pfx ∉ t.recorded.keys

/-- The root binds no prefix twice, and neither the empty one nor `xml`.  When
the source document binds none twice either, every namespace has the prefix
that it goes by. -/
structure Sound (t : PrefixTable) : Prop where
  nodup : t.declared.keys.Nodup
  not_empty : "" ∉ t.declared.keys
  not_xml : "xml" ∉ t.declared.keys
  goesBy : t.recorded.keys.Nodup → ∀ p ∈ t.declared.toList, t.GoesBy p.2 p.1

/-- What prefixes are bound to on the root. -/
def meaning (t : PrefixTable) : Meaning := Meaning.outermost.enter t.declared

theorem lookup?_eq_none (h : pfx ∉ t.declared.keys) : t.declared.lookup? pfx = none := by
  rw [← Option.not_isSome_iff_eq_none]
  exact fun hsome => h (Bindings.containsPrefix_iff.1 hsome)

theorem Sound.meaning_empty (h : t.Sound) : t.meaning "" = none := by
  unfold meaning Meaning.enter
  rw [lookup?_eq_none h.not_empty]
  rfl

theorem Sound.meaning_xml (h : t.Sound) : t.meaning "xml" = some xmlNamespace := by
  unfold meaning Meaning.enter
  rw [lookup?_eq_none h.not_xml]
  rfl

theorem sound_ofSchema (s : Schema) : (ofSchema s).Sound :=
  ⟨List.nodup_nil, nofun, nofun, fun _ => nofun⟩

/-- A recorded prefix is bound on the root to the namespace that it was
recorded for, if it is bound at all. -/
theorem Sound.recorded_eq (h : t.Sound) (hrecorded : t.recorded.keys.Nodup) {other : String}
    (hold : (pfx, uri) ∈ t.recorded.toList) (hnew : (pfx, other) ∈ t.declared.toList) :
    other = uri ∧ t.recorded.prefixOf? other = some pfx := by
  have hgoes := h.goesBy hrecorded _ hnew
  unfold GoesBy at hgoes
  split at hgoes
  · rename_i p hp
    dsimp only at hgoes
    subst hgoes
    have hfirst := (Option.filter_eq_some_iff.1 hp).1
    have hlookup := Bindings.lookup?_of_mem hrecorded (Bindings.mem_of_prefixOf? hfirst).1
    rw [Bindings.lookup?_of_mem hrecorded hold] at hlookup
    exact ⟨(Option.some.inj hlookup).symm, hfirst⟩
  · exact absurd (Bindings.mem_keys hold) hgoes

/-- The prefix for a namespace that has none yet is new and has letters. -/
theorem chosen_fresh (t : PrefixTable) (uri : String) :
    (t.recorded? uri).getD (t.fresh (t.stemOf uri)) ∉ "" :: "xml" :: t.declared.keys := by
  cases hrecorded : t.recorded? uri with
  | some pfx =>
      obtain ⟨hknown, hfree⟩ := Option.filter_eq_some_iff.1 hrecorded
      obtain ⟨⟨p, u⟩, hfind, rfl⟩ := Option.map_eq_some_iff.1 hknown
      have hfound := List.find?_some hfind
      simp only [Bool.and_eq_true, Bool.not_eq_true', bne_iff_ne, ne_eq, beq_iff_eq,
        String.isEmpty_eq_false_iff] at hfound hfree
      rw [Option.getD_some, List.mem_cons, List.mem_cons, not_or, not_or]
      refine ⟨hfound.1, hfree.1, fun hmem => ?_⟩
      rw [Bindings.containsPrefix_iff.2 hmem] at hfree
      cases hfree.2
  | none =>
      have hstem : t.stemOf uri ≠ "" := by
        unfold stemOf
        split
        · decide
        · split <;> decide
      have hfree : t.fresh (t.stemOf uri) ∉ "xml" :: (t.declared.keys ++ t.recorded.keys) := by
        rw [← taken_iff, t.taken_fresh]
        decide
      rw [Option.getD_none, List.mem_cons, not_or]
      refine ⟨t.fresh_ne_empty hstem, fun hmem => hfree ?_⟩
      rcases List.mem_cons.1 hmem with hmem | hmem
      · exact List.mem_cons.2 (.inl hmem)
      · exact List.mem_cons_of_mem _ (List.mem_append_left _ hmem)

/-- A namespace that has no prefix yet is given the one that it goes by. -/
theorem chosen_goesBy (h : t.Sound) (hrecorded : t.recorded.keys.Nodup)
    (hassigned : t.assigned? uri = none) :
    t.GoesBy uri ((t.recorded? uri).getD (t.fresh (t.stemOf uri))) := by
  unfold GoesBy
  split
  · rename_i p hp
    obtain ⟨hfirst, hxml⟩ := Option.filter_eq_some_iff.1 hp
    have hold := (Bindings.mem_of_prefixOf? hfirst).1
    -- the prefix is free, since it is never given to another namespace
    have hfree : p ∉ t.declared.keys := by
      intro hmem
      obtain ⟨other, hnew⟩ := Bindings.exists_of_mem_keys hmem
      obtain rfl := (h.recorded_eq hrecorded hold hnew).1
      have hnone := List.find?_eq_none.1 (Option.map_eq_none_iff.1 hassigned) _ hnew
      simp at hnone
    have hchoice : t.recorded? uri = some p := by
      unfold recorded?
      refine Option.filter_eq_some_iff.2 ⟨hfirst, ?_⟩
      rw [hxml, Bool.true_and, Bool.not_eq_true']
      exact eq_false_of_ne_true (mt Bindings.containsPrefix_iff.1 hfree)
    rw [hchoice]
    rfl
  · rename_i hnone
    have hchoice : t.recorded? uri = none := by
      unfold recorded?
      refine Option.filter_eq_none_iff.2 fun p hp hgood => ?_
      rw [Bool.and_eq_true] at hgood
      exact Option.filter_eq_none_iff.1 hnone p hp hgood.1
    rw [hchoice, Option.getD_none]
    intro hmem
    have htaken := taken_iff.2 (List.mem_cons_of_mem _ (List.mem_append_right _ hmem))
    rw [t.taken_fresh] at htaken
    cases htaken

/-- A later table: what was bound is bound to the same, and what the source
document recorded stays as it is. -/
structure Extends (t later : PrefixTable) : Prop where
  meaning : t.meaning.Within later.meaning
  recorded : later.recorded = t.recorded

theorem Extends.refl (t : PrefixTable) : t.Extends t := ⟨.refl _, rfl⟩

theorem Extends.trans {t middle later : PrefixTable} (h : t.Extends middle)
    (h' : middle.Extends later) : t.Extends later :=
  ⟨h.meaning.trans h'.meaning, h'.recorded.trans h.recorded⟩

/-- What giving a prefix to a namespace comes to. -/
structure Declares (t : PrefixTable) (uri : String) (outcome : String × PrefixTable) : Prop where
  sound : outcome.2.Sound
  onward : t.Extends outcome.2
  meaning : outcome.2.meaning outcome.1 = some uri
  ne_empty : outcome.1 ≠ ""

theorem declare_declares (h : t.Sound) (uri : String) : t.Declares uri (t.declare uri) := by
  unfold declare
  split
  · rename_i huri
    rw [huri]
    exact ⟨h, .refl _, h.meaning_xml, (by decide : "xml" ≠ "")⟩
  · split
    · -- the namespace has a prefix already
      rename_i pfx hassigned
      obtain ⟨⟨p, u⟩, hfind, rfl⟩ := Option.map_eq_some_iff.1 hassigned
      have huri : u = uri := by simpa using List.find?_some hfind
      have hmem := List.mem_of_find?_eq_some hfind
      have hlookup := Bindings.lookup?_of_mem h.nodup hmem
      refine ⟨h, .refl _, ?_, ?_⟩
      · unfold PrefixTable.meaning Meaning.enter
        rw [hlookup, huri]
        rfl
      · rintro rfl
        exact h.not_empty (List.mem_map_of_mem hmem)
    · rename_i hassigned
      have hfresh := t.chosen_fresh uri
      have hgoes := fun hrecorded => chosen_goesBy h hrecorded hassigned
      generalize (t.recorded? uri).getD (t.fresh (t.stemOf uri)) = pfx at hfresh hgoes
      rw [List.mem_cons, List.mem_cons, not_or, not_or] at hfresh
      obtain ⟨hempty, hxml, hnew⟩ := hfresh
      have hkeys : (t.declared.declare pfx uri).keys = t.declared.keys ++ [pfx] :=
        Bindings.keys_declare_of_not_mem hnew
      have hmem : ∀ {q}, q ∉ t.declared.keys → pfx ≠ q →
          q ∉ (t.declared.declare pfx uri).keys := by
        intro q hq hne
        rw [hkeys, List.mem_append, List.mem_singleton, not_or]
        exact ⟨hq, Ne.symm hne⟩
      refine ⟨⟨?_, hmem h.not_empty hempty, hmem h.not_xml hxml, ?_⟩, ⟨?_, rfl⟩, ?_, hempty⟩
      · show (t.declared.declare pfx uri).keys.Nodup
        rw [hkeys]
        refine List.nodup_append.2 ⟨h.nodup, List.nodup_singleton _, ?_⟩
        intro a ha b hb
        rw [List.mem_singleton.1 hb]
        rintro rfl
        exact hnew ha
      · intro hrecorded p hp
        dsimp only at hp
        rw [Bindings.toList_declare_of_not_mem hnew, List.mem_append, List.mem_singleton] at hp
        rcases hp with hp | rfl
        · exact h.goesBy hrecorded p hp
        · exact hgoes hrecorded
      · intro q u hq
        unfold PrefixTable.meaning Meaning.enter at hq ⊢
        rw [Bindings.lookup?_declare]
        split
        · -- only `xml` has a meaning without being bound
          rename_i heq
          rw [heq, lookup?_eq_none hnew] at hq
          exact absurd (heq ▸ hq : Meaning.outermost pfx = some u) (by
            unfold Meaning.outermost
            rw [if_neg hxml]
            nofun)
        · exact hq
      · unfold PrefixTable.meaning Meaning.enter
        rw [Bindings.lookup?_declare, if_pos rfl]
        rfl

/-- The token of a name changes the table as its namespace does. -/
theorem token_extends (h : t.Sound) (name : QName) :
    (t.token name).2.Sound ∧ t.Extends (t.token name).2 := by
  unfold token reference
  split
  all_goals
    rename_i heq
    split at heq
  · cases heq
  · cases heq
    have hdeclares := declare_declares h name.namespaceName
    exact ⟨hdeclares.sound, hdeclares.onward⟩
  · cases heq
    exact ⟨h, .refl _⟩
  · cases heq

end PrefixTable

end XmlSchema
