import Mathlib.Algebra.GroupWithZero.Nat
import XmlSchema.Proofs.Locator.Resolving

/-!
# Following normal paths

Where there are no links, a path that leads somewhere leads there without its
detours: components that do not count stay in a directory, and `..` leads back
from where the component before it has led.  The converse fails, since a detour
can pass through what is not there.
-/

namespace XmlSchema

open Attempt

namespace Path

/-- The text of the normal path that a text spells. -/
def normalText (s : String) : String := (ofString s).normalise.text

variable {absolute : Bool} {more less parts : List String} {s : String} {c : Char}

theorem normalText_eq (s : String) :
    normalText s = text ⟨isAbsolute s, resolution (isAbsolute s) (FileTree.split s)⟩ := by
  have hparts : resolution (isAbsolute s) (components s) =
      resolution (isAbsolute s) (FileTree.split s) := resolution_components_append [] s
  unfold normalText
  rw [normalise_eq (clean_ofString s), ofString, hparts]

theorem clean_normalText (s : String) :
    Clean ⟨isAbsolute s, resolution (isAbsolute s) (FileTree.split s)⟩ := by
  have hparts : resolution (isAbsolute s) (components s) =
      resolution (isAbsolute s) (FileTree.split s) := resolution_components_append [] s
  have hclean := clean_normalise (clean_ofString s)
  rw [normalise_eq (clean_ofString s), ofString, hparts] at hclean
  exact hclean

/-- The bytes that components take up, each with a separator. -/
def spellSize (parts : List String) : Nat := (parts.map fun part => part.utf8ByteSize + 1).sum

theorem spellSize_append (parts more : List String) :
    spellSize (parts ++ more) = spellSize parts + spellSize more := by
  rw [spellSize, List.map_append, List.sum_append]
  rfl

theorem utf8ByteSize_intercalate (h : parts ≠ []) :
    ("/".intercalate parts).utf8ByteSize + 1 = spellSize parts := by
  induction parts with
  | nil => exact absurd rfl h
  | cons part rest ih =>
      cases rest with
      | nil => rw [String.intercalate_singleton, spellSize, List.map_singleton, List.sum_singleton]
      | cons next rest =>
          have hrest := ih (List.cons_ne_nil _ _)
          have hslash : "/".utf8ByteSize = 1 := rfl
          have hspell : spellSize (part :: next :: rest) =
              part.utf8ByteSize + 1 + spellSize (next :: rest) := rfl
          rw [String.intercalate_cons_cons, String.utf8ByteSize_append, String.utf8ByteSize_append,
            hspell]
          omega

/-- Nothing takes up more room when it has been resolved. -/
theorem Reduces.spellSize_le (h : Reduces absolute more less) :
    spellSize less ≤ spellSize more := by
  have hcons : ∀ (part : String) (rest : List String),
      spellSize (part :: rest) = part.utf8ByteSize + 1 + spellSize rest := fun _ _ => rfl
  cases h with
  | drop front back h =>
      rw [spellSize_append, spellSize_append, hcons]
      omega
  | cancel front back h =>
      rw [spellSize_append, spellSize_append, hcons, hcons]
      omega
  | root _ h =>
      rw [hcons]
      omega

theorem spellSize_le_of_reduces (h : Relation.ReflTransGen (Reduces absolute) more less) :
    spellSize less ≤ spellSize more := by
  induction h with
  | refl => exact Nat.le_refl _
  | tail _ hstep ih => exact Nat.le_trans hstep.spellSize_le ih

theorem mem_intercalate_iff (hc : c ≠ '/') :
    c ∈ ("/".intercalate parts).toList ↔ ∃ part ∈ parts, c ∈ part.toList := by
  induction parts with
  | nil => simp [String.intercalate_nil]
  | cons part rest ih =>
      cases rest with
      | nil => simp [String.intercalate_singleton]
      | cons next rest =>
          have hslash : c ∉ "/".toList := by simpa using hc
          rw [String.intercalate_cons_cons, String.toList_append, String.toList_append,
            List.mem_append, List.mem_append, ih, or_iff_left hslash]
          simp only [List.mem_cons, exists_eq_or_imp]

/-- The root of an absolute path stands before its components. -/
theorem exists_split (s : String) :
    ∃ rest, FileTree.split s = (if isAbsolute s then [""] else []) ++ rest := by
  cases habsolute : isAbsolute s with
  | false => exact ⟨_, rfl⟩
  | true =>
      unfold isAbsolute at habsolute
      obtain ⟨rest, hrest⟩ := List.head?_eq_some_iff.1 (beq_iff_eq.1 habsolute)
      have hs : s = "" ++ "/" ++ String.ofList rest := by
        apply String.toList_injective
        rw [hrest]
        simp [String.toList_append]
      rw [hs, FileTree.split_append]
      exact ⟨_, rfl⟩

end Path

namespace FileTree

open XmlSchema.Path

variable {absolute : Bool} {t : FileTree} {here names more less : List String}
  {part path text : String}

theorem eq_of_pace_uncounted (h : counts part = false) (hpace : t.pace here part = .ok names) :
    names = here := by
  obtain ⟨es, -, ⟨-, rfl⟩ | ⟨rfl, -⟩ | ⟨⟨hempty, hdot, -⟩, -⟩⟩ := pace_eq_ok_iff.1 hpace
  · rfl
  · exact absurd h (by decide)
  · simp [counts, hempty, hdot] at h

theorem eq_of_pace_up (hpace : t.pace here ".." = .ok names) : names = here.dropLast := by
  obtain ⟨es, -, ⟨hstay, -⟩ | ⟨-, rfl⟩ | ⟨⟨-, -, hup, -⟩, -⟩⟩ := pace_eq_ok_iff.1 hpace
  · exact absurd hstay (by decide)
  · rfl
  · exact absurd rfl hup

theorem eq_of_pace_ordinary (h : Ordinary part) (hpace : t.pace here part = .ok names) :
    names = here ++ [part] := by
  obtain ⟨es, -, ⟨hstay, -⟩ | ⟨hup, -⟩ | ⟨-, -, rfl⟩⟩ := pace_eq_ok_iff.1 hpace
  · have hcounts := h.1
    rcases hstay with rfl | rfl <;> exact absurd hcounts (by decide)
  · exact absurd hup h.2
  · rfl

theorem foldlM_pace_cons {rest : List String} :
    (part :: rest).foldlM t.pace here = .ok names ↔
      ∃ next, t.pace here part = .ok next ∧ rest.foldlM t.pace next = .ok names := by
  rw [List.foldlM_cons]
  exact bind_eq_ok_iff

/-- Components that have been resolved lead where they led before. -/
theorem foldlM_pace_of_reduces (h : Reduces absolute more less)
    (hroot : absolute = true → here = []) (hpath : more.foldlM t.pace here = .ok names) :
    less.foldlM t.pace here = .ok names := by
  cases h with
  | drop front back h =>
      obtain ⟨middle, hfront, hback⟩ := foldlM_pace_append.1 hpath
      obtain ⟨next, hpace, hback⟩ := foldlM_pace_cons.1 hback
      cases eq_of_pace_uncounted h hpace
      exact foldlM_pace_append.2 ⟨_, hfront, hback⟩
  | cancel front back h =>
      obtain ⟨middle, hfront, hback⟩ := foldlM_pace_append.1 hpath
      obtain ⟨next, hpace, hback⟩ := foldlM_pace_cons.1 hback
      obtain ⟨last, hup, hback⟩ := foldlM_pace_cons.1 hback
      -- the way down and up again ends where it has begun
      cases eq_of_pace_ordinary h hpace
      have hlast := eq_of_pace_up hup
      rw [List.dropLast_concat] at hlast
      cases hlast
      exact foldlM_pace_append.2 ⟨_, hfront, hback⟩
  | root _ h =>
      obtain ⟨next, hup, hback⟩ := foldlM_pace_cons.1 hpath
      cases hroot h
      cases eq_of_pace_up hup
      exact hback

theorem foldlM_pace_resolution (parts : List String) (hroot : absolute = true → here = [])
    (hpath : parts.foldlM t.pace here = .ok names) :
    (resolution absolute parts).foldlM t.pace here = .ok names := by
  have hall : ∀ {less}, Relation.ReflTransGen (Reduces absolute) parts less →
      less.foldlM t.pace here = .ok names := by
    intro less h
    induction h with
    | refl => exact hpath
    | tail _ hstep ih => exact foldlM_pace_of_reduces hstep hroot ih
  exact hall (reduces_resolution parts)

theorem checkPath_eq_ok_iff :
    checkPath path = .ok () ↔
      '\x00' ∉ path.toList ∧ path ≠ "" ∧ path.utf8ByteSize ≤ maxPath := by
  unfold checkPath
  split
  · simp_all
  · split
    · simp_all
    · split
      · simp_all
      · simp_all

/-- A normal path can be followed if the path that it comes from can. -/
theorem checkPath_normalText (h : checkPath path = .ok ())
    (hne : resolution (isAbsolute path) (split path) ≠ []) :
    checkPath (normalText path) = .ok () := by
  obtain ⟨hnul, -, hsize⟩ := checkPath_eq_ok_iff.1 h
  obtain ⟨rest, hrest⟩ := exists_split path
  have hnormal : split (normalText path) = (if isAbsolute path then [""] else []) ++
      resolution (isAbsolute path) (split path) := by
    rw [normalText_eq]
    exact split_text (clean_normalText path) hne
  -- the empty component for the root takes part in no step
  have hresolution : resolution (isAbsolute path) (split path) =
      resolution (isAbsolute path) rest := by
    rw [hrest]
    cases isAbsolute path <;> rfl
  refine checkPath_eq_ok_iff.2 ⟨?_, ?_, ?_⟩
  · rw [← intercalate_split (normalText path), mem_intercalate_iff (by decide)]
    rw [← intercalate_split path, mem_intercalate_iff (by decide)] at hnul
    rintro ⟨part, hpart, hmem⟩
    refine hnul ⟨part, ?_, hmem⟩
    rw [hnormal] at hpart
    rcases List.mem_append.1 hpart with hpart | hpart
    · rw [hrest]
      exact List.mem_append_left _ hpart
    · exact (List.mem_filter.1 (mem_filter_of_mem_resolution hpart)).1
  · intro hnone
    have hroot : split "" = [""] := split_of_slashless List.not_mem_nil
    rw [hnone, hroot] at hnormal
    cases habsolute : isAbsolute path with
    | true =>
        rw [habsolute, if_pos rfl] at hnormal
        rw [habsolute] at hne
        exact hne (List.append_cancel_left (hnormal.symm.trans (List.append_nil _).symm))
    | false =>
        rw [habsolute, if_neg nofun, List.nil_append] at hnormal
        have hcounts : counts "" = true :=
          counts_of_mem_resolution (hnormal ▸ List.mem_singleton.2 rfl)
        exact absurd hcounts (by decide)
  · have hspell : spellSize (split (normalText path)) ≤ spellSize (split path) := by
      rw [hnormal, hresolution, spellSize_append]
      conv_rhs => rw [hrest, spellSize_append]
      exact Nat.add_le_add_left (spellSize_le_of_reduces (reduces_resolution rest)) _
    rw [← utf8ByteSize_intercalate (split_ne_nil _), ← utf8ByteSize_intercalate (split_ne_nil _),
      intercalate_split, intercalate_split] at hspell
    omega

/-- A file is read under its normal path. -/
theorem read_normalText (ht : t.Linkless) (h : t.read path = .ok text) :
    t.read (normalText path) = .ok text := by
  obtain ⟨names, hcanonical, hfile⟩ := read_eq_ok_iff.1 h
  obtain ⟨hchecked, hpath⟩ := (canonical_eq_ok_iff ht).1 hcanonical
  have hresolved : (resolution (isAbsolute path) (split path)).foldlM t.pace (t.origin path) =
      .ok names :=
    foldlM_pace_resolution _ (fun habsolute => if_pos habsolute) hpath
  -- where a path begins is a directory
  obtain ⟨es, hes⟩ : ∃ es, t.root.get? (t.origin path) = some (.directory es) := by
    obtain ⟨first, rest, hsplit⟩ := List.exists_cons_of_ne_nil (split_ne_nil path)
    rw [hsplit] at hpath
    obtain ⟨next, hpace, -⟩ := foldlM_pace_cons.1 hpath
    obtain ⟨es, hes, -⟩ := pace_eq_ok_iff.1 hpace
    exact ⟨es, hes⟩
  have hne : resolution (isAbsolute path) (split path) ≠ [] := by
    intro hnil
    rw [hnil] at hresolved
    cases hresolved
    cases hes.symm.trans hfile
  have hclean := clean_normalText path
  have horigin : t.origin (normalText path) = t.origin path := by
    unfold origin
    rw [normalText_eq, isAbsolute_text hclean]
  have hnormal : t.canonical (normalText path) = .ok names := by
    refine (canonical_eq_ok_iff ht).2 ⟨checkPath_normalText hchecked hne, ?_⟩
    rw [horigin, normalText_eq, split_text hclean hne]
    cases habsolute : isAbsolute path with
    | false =>
        rw [habsolute] at hresolved
        exact hresolved
    | true =>
        rw [habsolute] at hresolved
        exact foldlM_pace_cons.2 ⟨_, pace_eq_ok_iff.2 ⟨es, hes, .inl ⟨.inl rfl, rfl⟩⟩, hresolved⟩
  exact read_eq_ok_iff.2 ⟨names, hnormal, hfile⟩

end FileTree

end XmlSchema
