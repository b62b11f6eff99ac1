import XmlSchema.Xml.Event
import XmlSchema.Xml.Printer

/-!
# Escaped text

Text is written with its five markup characters as references.  What is written
that way holds no markup, and reading it gives the text back: in full when it
has no carriage return, and inside an attribute value when it has no blanks
other than spaces.
-/

namespace XmlSchema.Xml

/-- Text as it is written. -/
def escapeText (cs : List Char) : List Char := cs.flatMap escapeChar

theorem toList_escape (s : String) : (escape s).toList = escapeText s.toList :=
  String.toList_ofList

@[simp] theorem escapeText_nil : escapeText [] = [] := rfl

theorem escapeText_cons (c : Char) (cs : List Char) :
    escapeText (c :: cs) = escapeChar c ++ escapeText cs := List.flatMap_cons

theorem escapeText_append (cs ds : List Char) :
    escapeText (cs ++ ds) = escapeText cs ++ escapeText ds := List.flatMap_append

/-- The piece as which a written character is read. -/
def Chunk.ofChar (c : Char) : Chunk :=
  if c ∈ ['<', '>', '&', '\'', '"'] then .reference c else .char c

/-- A character is written as itself, or as a reference that stands for it. -/
inductive Escaped (c : Char) : Prop
  | plain (hform : escapeChar c = [c]) (hchunk : Chunk.ofChar c = .char c)
      (hmarkup : c ∉ ['<', '>', '&', '"'])
  | reference (word : List Char) (hform : escapeChar c = '&' :: word)
      (hchunk : Chunk.ofChar c = .reference c)
      (hread : ∀ rest, Chunk.readReference (word ++ rest) = .ok (.reference c, rest))
      (hmarkup : ∀ d ∈ word, d ∉ ['<', '>', '"'] ∧ isAllowed d)

theorem escaped (c : Char) : Escaped c := by
  have hplain : ∀ word : List Char, word.all (fun d => d ∉ ['<', '>', '"'] && isAllowed d) →
      ∀ d ∈ word, d ∉ ['<', '>', '"'] ∧ isAllowed d := by
    intro word hword d hd
    simpa only [Bool.and_eq_true, decide_eq_true_iff] using List.all_eq_true.1 hword d hd
  by_cases hmarkup : c ∈ ['<', '>', '&', '\'', '"']
  · have hchunk : Chunk.ofChar c = .reference c := if_pos hmarkup
    simp only [List.mem_cons, List.not_mem_nil, or_false] at hmarkup
    rcases hmarkup with rfl | rfl | rfl | rfl | rfl
    · exact .reference "lt;".toList rfl hchunk (fun _ => rfl) (hplain _ rfl)
    · exact .reference "gt;".toList rfl hchunk (fun _ => rfl) (hplain _ rfl)
    · exact .reference "amp;".toList rfl hchunk (fun _ => rfl) (hplain _ rfl)
    · exact .reference "apos;".toList rfl hchunk (fun _ => rfl) (hplain _ rfl)
    · exact .reference "quot;".toList rfl hchunk (fun _ => rfl) (hplain _ rfl)
  · have hchunk : Chunk.ofChar c = .char c := if_neg hmarkup
    simp only [List.mem_cons, List.not_mem_nil, or_false, not_or] at hmarkup
    obtain ⟨hlt, hgt, hamp, hapos, hquot⟩ := hmarkup
    refine .plain ?_ hchunk (by simp [hlt, hgt, hamp, hquot])
    unfold escapeChar
    rw [if_neg hlt, if_neg hgt, if_neg hamp, if_neg hapos, if_neg hquot]

/-- No markup is written for a text, and no forbidden character either. -/
theorem escapeText_plain {cs : List Char} (h : ∀ c ∈ cs, isAllowed c) :
    ∀ d ∈ escapeText cs, d ∉ ['<', '>', '"'] ∧ isAllowed d := by
  intro d hd
  obtain ⟨c, hc, hmem⟩ := List.mem_flatMap.1 hd
  cases escaped c with
  | plain hform _ hmarkup =>
      rw [hform, List.mem_singleton] at hmem
      subst hmem
      refine ⟨fun hin => hmarkup ?_, h d hc⟩
      simp only [List.mem_cons, List.not_mem_nil, or_false] at hin ⊢
      rcases hin with hin | hin | hin <;> simp [hin]
  | reference word hform _ _ hmarkup =>
      rw [hform, List.mem_cons] at hmem
      rcases hmem with rfl | hmem
      · decide
      · exact hmarkup d hmem

theorem length_le_escapeText (cs : List Char) : cs.length ≤ (escapeText cs).length := by
  induction cs with
  | nil => exact Nat.le_refl _
  | cons c cs ih =>
      rw [escapeText_cons, List.length_append, List.length_cons]
      have hone : 1 ≤ (escapeChar c).length := by
        cases escaped c with
        | plain hform => rw [hform]; exact Nat.le_refl _
        | reference word hform => rw [hform]; exact Nat.le_add_left _ _
      omega

/-- Written text is cut into one piece for each character. -/
theorem ofText_escapeText (cs : List Char) {fuel : Nat} (hfuel : cs.length ≤ fuel) :
    Chunk.ofText fuel (escapeText cs) = .ok (cs.map Chunk.ofChar) := by
  induction cs generalizing fuel with
  | nil =>
      cases fuel <;> rfl
  | cons c cs ih =>
      obtain ⟨fuel, rfl⟩ : ∃ n, fuel = n + 1 := ⟨fuel - 1, by simp at hfuel; omega⟩
      have hrest := ih (by simpa using hfuel : cs.length ≤ fuel)
      rw [escapeText_cons, List.map_cons]
      cases escaped c with
      | plain hform hchunk hmarkup =>
          have hamp : c ≠ '&' := by rintro rfl; simp at hmarkup
          rw [hform, hchunk, List.singleton_append, Chunk.ofText, if_neg hamp, hrest]
          rfl
      | reference word hform hchunk hread =>
          rw [hform, hchunk, List.cons_append, Chunk.ofText, if_pos rfl, hread]
          dsimp only [bind, Except.bind]
          rw [hrest]
          rfl

/-- Characters that an attribute value keeps when it is read again. -/
def isValueChar (c : Char) : Bool := isAllowed c && c != '\t' && c != '\n' && c != '\r'

/-- Characters that a text keeps when it is read again. -/
def isTextChar (c : Char) : Bool := isAllowed c && c != '\r'

section Reading

variable {n : Nesting}

theorem valueOfChunks_ofChar
    (inner : Nesting → String → Except Fault (List Char × Nesting)) (hn : n.outermost)
    {cs : List Char} (h : ∀ c ∈ cs, isValueChar c) :
    valueOfChunks inner n (cs.map Chunk.ofChar) = .ok (cs, n) := by
  induction cs with
  | nil => rfl
  | cons c cs ih =>
      obtain ⟨hc, hcs⟩ := List.forall_mem_cons.1 h
      have hrest := ih hcs
      simp only [isValueChar, Bool.and_eq_true, bne_iff_ne, ne_eq] at hc
      rw [List.map_cons]
      cases escaped c with
      | plain _ hchunk =>
          have hown : ∀ next, valueChar c next = [c] := by
            intro next
            unfold valueChar
            simp [hc]
          rw [hchunk, valueOfChunks, hrest]
          dsimp only [bind, Except.bind]
          rw [hown]
          rfl
      | reference _ _ hchunk =>
          rw [hchunk, valueOfChunks, hn]
          simp [hrest, bind, Except.bind, pure, Except.pure]

/-- A value is what its pieces spell. -/
theorem exists_readValue_eq (entities : List Entity) (depth : Nat) :
    ∃ inner, ∀ n raw, readValue entities depth n raw =
      (do
        let chunks ← Chunk.ofText raw.length raw
        valueOfChunks inner n chunks) := by
  delta readValue
  cases depth with
  | zero => exact ⟨_, fun _ _ => rfl⟩
  | succ depth => exact ⟨_, fun _ _ => rfl⟩

/-- Written characters give back the value that they were written for. -/
theorem readValue_escapeText (entities : List Entity) (depth : Nat) (hn : n.outermost)
    {cs : List Char} (h : ∀ c ∈ cs, isValueChar c) :
    readValue entities depth n (escapeText cs) = .ok (cs, n) := by
  obtain ⟨inner, hread⟩ := exists_readValue_eq entities depth
  rw [hread, ofText_escapeText cs (length_le_escapeText cs)]
  exact valueOfChunks_ofChar inner hn h

theorem eventsOfChunks_ofChar
    (inner : Nesting → String → Except Fault (List Event × Nesting)) (hn : n.outermost)
    {cs : List Char} (h : ∀ c ∈ cs, isTextChar c) {buffer : TextBuffer} (hbuffer : '\r' ∉ buffer)
    (verbatim : Bool) :
    eventsOfChunks inner n buffer verbatim (cs.map Chunk.ofChar) =
      .ok (TextBuffer.flush (cs.reverse ++ buffer), n) := by
  induction cs generalizing buffer verbatim with
  | nil => rfl
  | cons c cs ih =>
      obtain ⟨hc, hcs⟩ := List.forall_mem_cons.1 h
      simp only [isTextChar, Bool.and_eq_true, bne_iff_ne, ne_eq] at hc
      have hnext : '\r' ∉ c :: buffer := by
        rw [List.mem_cons, not_or]
        exact ⟨Ne.symm hc.2, hbuffer⟩
      have hpush : ∀ atEnd, buffer.pushText c atEnd = c :: buffer := by
        intro atEnd
        unfold TextBuffer.pushText
        split
        · exact absurd List.mem_cons_self hbuffer
        · simp [hc.2]
      rw [List.map_cons, List.reverse_cons, List.append_assoc, List.singleton_append]
      cases escaped c with
      | plain _ hchunk =>
          rw [hchunk, eventsOfChunks, hpush]
          cases verbatim <;> exact ih hcs hnext false
      | reference _ _ hchunk =>
          rw [hchunk, eventsOfChunks, if_pos hn]
          exact ih hcs hnext true

/-- Written characters that are not empty give back the text. -/
theorem eventsOfChunks_escapeText
    (inner : Nesting → String → Except Fault (List Event × Nesting)) (hn : n.outermost)
    {cs : List Char} (h : ∀ c ∈ cs, isTextChar c) (hne : cs ≠ []) :
    (do
      let chunks ← Chunk.ofText (escapeText cs).length (escapeText cs)
      eventsOfChunks inner n [] false chunks) = .ok ([.text cs], n) := by
  rw [ofText_escapeText cs (length_le_escapeText cs)]
  have hevents := eventsOfChunks_ofChar inner hn h (List.not_mem_nil) false
  have hflush : TextBuffer.flush (cs.reverse ++ []) = [.text cs] := by
    unfold TextBuffer.flush
    rw [List.append_nil, List.isEmpty_reverse, if_neg (by simpa using hne), List.reverse_reverse]
  rw [hflush] at hevents
  exact hevents

end Reading

end XmlSchema.Xml
