import Mathlib.Data.List.DropRight
import XmlSchema.Text.Blank

/-!
# Trimmed text

Trimming removes blanks once and for all: nothing is left to remove.
-/

namespace XmlSchema.Text

/-- What is left when the end is dropped begins like the whole. -/
theorem dropWhile_rdropWhile {α : Type} (p : α → Bool) (cs : List α) :
    ((cs.dropWhile p).rdropWhile p).dropWhile p = (cs.dropWhile p).rdropWhile p := by
  have hwhole := List.rdropWhile_prefix p (cs.dropWhile p)
  have hfront := List.dropWhile_eq_self_iff.1 (List.dropWhile_idempotent (p := p) (l := cs))
  refine List.dropWhile_eq_self_iff.2 fun hpos => ?_
  rw [hwhole.getElem hpos]
  exact hfront (Nat.lt_of_lt_of_le hpos hwhole.length_le)

theorem trimChars_trimChars (cs : List Char) : trimChars (trimChars cs) = trimChars cs := by
  change ((trimChars cs).dropWhile isBlank).rdropWhile isBlank = trimChars cs
  rw [show trimChars cs = (cs.dropWhile isBlank).rdropWhile isBlank from rfl,
    dropWhile_rdropWhile, List.rdropWhile_idempotent]

theorem trim_trim (s : String) : trim (trim s) = trim s := by
  unfold trim
  rw [String.toList_ofList, trimChars_trimChars]

theorem trimChars_eq_self_iff (cs : List Char) :
    trimChars cs = cs ↔ cs.dropWhile isBlank = cs ∧ cs.rdropWhile isBlank = cs := by
  have htrim : trimChars cs = (cs.dropWhile isBlank).rdropWhile isBlank := rfl
  rw [htrim]
  constructor
  · intro h
    have hfront := dropWhile_rdropWhile isBlank cs
    have hback := List.rdropWhile_idempotent isBlank (cs.dropWhile isBlank)
    rw [h] at hfront hback
    exact ⟨hfront, hback⟩
  · rintro ⟨hfront, hback⟩
    rw [hfront, hback]

/-- A text stays as it is when there are no blanks at its ends. -/
theorem trim_eq_self_iff (s : String) :
    trim s = s ↔ ∀ h : s.toList ≠ [],
      isBlank (s.toList.head h) = false ∧ isBlank (s.toList.getLast h) = false := by
  rw [trim, ← String.toList_inj, String.toList_ofList, trimChars_eq_self_iff,
    List.dropWhile_eq_self_iff, List.rdropWhile_eq_self_iff]
  constructor
  · rintro ⟨hfront, hback⟩ hne
    have hhead := hfront (List.length_pos_iff.2 hne)
    rw [← List.head_eq_getElem hne] at hhead
    exact ⟨Bool.eq_false_iff.2 hhead, Bool.eq_false_iff.2 (hback hne)⟩
  · intro h
    refine ⟨fun hpos => ?_, fun hne => Bool.eq_false_iff.1 (h hne).2⟩
    rw [← List.head_eq_getElem (List.length_pos_iff.1 hpos)]
    exact Bool.eq_false_iff.1 (h _).1

end XmlSchema.Text
