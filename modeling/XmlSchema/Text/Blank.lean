/-!
# Blank characters and the trimming of text

Attribute values of a schema document are read with blanks removed at both
ends, and lists of tokens are separated by runs of blanks.  A blank is any
character with the Unicode property `White_Space`.
-/

namespace XmlSchema.Text

/-- The characters with the Unicode property `White_Space`. -/
def isBlank (c : Char) : Bool :=
  let n := c.toNat
  (0x09 ≤ n && n ≤ 0x0D) || n == 0x20 || n == 0x85 || n == 0xA0 || n == 0x1680 ||
    (0x2000 ≤ n && n ≤ 0x200A) || n == 0x2028 || n == 0x2029 || n == 0x202F ||
    n == 0x205F || n == 0x3000

/-- Remove the blanks at both ends of a word. -/
def trimChars (cs : List Char) : List Char :=
  ((cs.dropWhile isBlank).reverse.dropWhile isBlank).reverse

/-- Remove the blanks at both ends of a text. -/
def trim (s : String) : String :=
  String.ofList (trimChars s.toList)

/-- Split a word at every blank; the pieces between two blanks may be empty. -/
def splitBlank : List Char → List (List Char)
  | [] => [[]]
  | c :: rest =>
      if isBlank c then [] :: splitBlank rest
      else
        match splitBlank rest with
        | [] => [[c]]
        | w :: ws => (c :: w) :: ws

/-- The maximal runs of characters that are not blank. -/
def words (s : String) : List String :=
  ((splitBlank s.toList).filter (fun w => !w.isEmpty)).map String.ofList

/-- Split a word at the first occurrence of a character, which is dropped. -/
def splitAtFirst (sep : Char) : List Char → Option (List Char × List Char)
  | [] => none
  | c :: rest =>
      if c = sep then some ([], rest)
      else
        match splitAtFirst sep rest with
        | none => none
        | some (before, after) => some (c :: before, after)

/-- Split a word at every occurrence of a character. -/
def splitOnChar (sep : Char) : List Char → List (List Char)
  | [] => [[]]
  | c :: rest =>
      if c = sep then [] :: splitOnChar sep rest
      else
        match splitOnChar sep rest with
        | [] => [[c]]
        | w :: ws => (c :: w) :: ws

/-- The items of a list with commas, without blanks around them and without
empty ones. -/
def commaItems (s : String) : List String :=
  ((splitOnChar ',' s.toList).map fun cs => String.ofList (trimChars cs)).filter (· != "")

theorem isBlank_of_isWhitespace {c : Char} (h : c.isWhitespace = true) : isBlank c = true := by
  simp only [Char.isWhitespace, Bool.or_eq_true, decide_eq_true_eq] at h
  rcases h with ((h | h) | h) | h <;> subst h <;> decide

theorem splitAtFirst_eq_some {sep : Char} {cs before after : List Char}
    (h : splitAtFirst sep cs = some (before, after)) :
    cs = before ++ sep :: after ∧ sep ∉ before := by
  induction cs generalizing before after with
  | nil => simp [splitAtFirst] at h
  | cons c rest ih =>
      simp only [splitAtFirst] at h
      split at h
      · rename_i hc
        cases h
        simp [hc]
      · rename_i hc
        cases hr : splitAtFirst sep rest with
        | none => simp [hr] at h
        | some p =>
            obtain ⟨b, a⟩ := p
            simp only [hr, Option.some.injEq, Prod.mk.injEq] at h
            obtain ⟨rfl, rfl⟩ := h
            obtain ⟨hcs, hmem⟩ := ih hr
            refine ⟨by simp [hcs], ?_⟩
            simp [hmem, Ne.symm hc]

end XmlSchema.Text
