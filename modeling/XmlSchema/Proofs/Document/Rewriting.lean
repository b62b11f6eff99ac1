import XmlSchema.Document.Reader
import XmlSchema.Document.Writer
import XmlSchema.Proofs.Component.Bounds
import XmlSchema.Proofs.Component.Transcription
import XmlSchema.Proofs.Document.Control
import XmlSchema.Proofs.Text.Trimming
import XmlSchema.Proofs.Xml.Naming

/-!
# What is left of a model that is written and read again

Values with a fixed vocabulary are written in such a way that they read as they
are, provided that they are what some text reads as.  A name that refers to
something is found again when its local part has no blanks and no colons in it,
since tokens are trimmed of all blanks and split at a colon.  Foreign content is
found again under the names that it has.
-/

namespace XmlSchema

open Attempt

namespace Text

/-- A text without blanks and colons. -/
def Plain (s : String) : Prop := ∀ c ∈ s.toList, isBlank c = false ∧ c ≠ ':'

instance (s : String) : Decidable (Plain s) :=
  List.decidableBAll (fun c => isBlank c = false ∧ c ≠ ':') s.toList

variable {s pfx : String}

theorem trim_of_unblank (h : ∀ c ∈ s.toList, isBlank c = false) : trim s = s :=
  (trim_eq_self_iff s).2 fun hne => ⟨h _ (List.head_mem hne), h _ (List.getLast_mem hne)⟩

theorem splitAtFirst_of_not_mem {sep : Char} {cs : List Char} (h : sep ∉ cs) :
    splitAtFirst sep cs = none := by
  cases hsplit : splitAtFirst sep cs with
  | none => rfl
  | some parts =>
      have hcs := (splitAtFirst_eq_some hsplit).1
      rw [hcs] at h
      exact absurd (List.mem_append_right _ List.mem_cons_self) h

theorem splitAtFirst_append {sep : Char} {before : List Char} (after : List Char)
    (h : sep ∉ before) : splitAtFirst sep (before ++ sep :: after) = some (before, after) := by
  induction before with
  | nil => simp [splitAtFirst]
  | cons c rest ih =>
      rw [List.mem_cons, not_or] at h
      rw [List.cons_append, splitAtFirst, if_neg (Ne.symm h.1), ih h.2]

theorem splitPrefixed_plain (h : Plain s) : splitPrefixed s = ("", s) := by
  have htrim := trim_of_unblank fun c hc => (h c hc).1
  unfold splitPrefixed
  rw [htrim, splitAtFirst_of_not_mem fun hmem => (h _ hmem).2 rfl]

theorem toList_joined (pfx s : String) :
    (pfx ++ ":" ++ s).toList = pfx.toList ++ ':' :: s.toList := by
  simp

theorem unblank_joined (hpfx : Plain pfx) (h : Plain s) :
    ∀ c ∈ (pfx ++ ":" ++ s).toList, isBlank c = false := by
  intro c hc
  rw [toList_joined, List.mem_append, List.mem_cons] at hc
  rcases hc with hc | rfl | hc
  · exact (hpfx c hc).1
  · decide
  · exact (h c hc).1

theorem splitPrefixed_joined (hpfx : Plain pfx) (h : Plain s) :
    splitPrefixed (pfx ++ ":" ++ s) = (pfx, s) := by
  unfold splitPrefixed
  rw [trim_of_unblank (unblank_joined hpfx h), toList_joined,
    splitAtFirst_append _ fun hmem => (hpfx _ hmem).2 rfl]
  simp

theorem splitBlank_of_unblank {cs : List Char} (h : ∀ c ∈ cs, isBlank c = false) :
    splitBlank cs = [cs] := by
  induction cs with
  | nil => rfl
  | cons c rest ih =>
      obtain ⟨hc, hrest⟩ := List.forall_mem_cons.1 h
      rw [splitBlank, if_neg (by simp [hc]), ih hrest]

theorem splitBlank_append {cs : List Char} (after : List Char)
    (h : ∀ c ∈ cs, isBlank c = false) :
    splitBlank (cs ++ ' ' :: after) = cs :: splitBlank after := by
  induction cs with
  | nil => rfl
  | cons c rest ih =>
      obtain ⟨hc, hrest⟩ := List.forall_mem_cons.1 h
      rw [List.cons_append, splitBlank, if_neg (by simp [hc]), ih hrest]

/-- Words that are joined by blanks come apart again. -/
theorem words_intercalate {ws : List String} (hempty : ∀ w ∈ ws, w ≠ "")
    (hblank : ∀ w ∈ ws, ∀ c ∈ w.toList, isBlank c = false) : words (" ".intercalate ws) = ws := by
  have hsplit : ∀ w rest, splitBlank ((" ".intercalate (w :: rest)).toList) =
      if rest = [] then splitBlank w.toList
      else splitBlank (w.toList ++ ' ' :: (" ".intercalate rest).toList) := by
    intro w rest
    cases rest with
    | nil => simp
    | cons v more => simp [String.intercalate_cons_cons]
  unfold words
  induction ws with
  | nil => rfl
  | cons w rest ih =>
      obtain ⟨hw, hrest⟩ := List.forall_mem_cons.1 hempty
      obtain ⟨hwblank, hrestblank⟩ := List.forall_mem_cons.1 hblank
      have hkeep : (!w.toList.isEmpty) = true := by simpa using hw
      rw [hsplit]
      split
      · rename_i hnil
        rw [splitBlank_of_unblank hwblank, hnil]
        simp [hw]
      · rw [splitBlank_append _ hwblank, List.filter_cons, if_pos hkeep, List.map_cons,
          String.ofList_toList, ih hrest hrestblank]

end Text

namespace Occurs

theorem spells_toString (n : Nat) : Spells (toString n).toList n := by
  have hvalue : (toString n).toList.foldl (fun n c => n * 10 + (c.toNat - '0'.toNat)) 0 = n := by
    have hdigits : Nat.ofDigitChars 10 (Nat.toDigits 10 n) 0 = n := by simp
    rw [Nat.toString_eq_ofList_toDigits, String.toList_ofList]
    simpa only [Nat.ofDigitChars, Nat.mul_comm 10] using hdigits
  have hspells : Spells (toString n).toList
      ((toString n).toList.foldl (fun n c => n * 10 + (c.toNat - '0'.toNat)) 0) := by
    refine spells_foldl ?_ fun c hc => ?_
    · rw [Nat.toString_eq_ofList_toDigits, String.toList_ofList]
      exact Nat.toDigits_ne_nil
    · rw [Nat.toString_eq_ofList_toDigits, String.toList_ofList] at hc
      exact Nat.isDigit_of_mem_toDigits (by decide) (by decide) hc
  rwa [hvalue] at hspells

theorem plain_toString (n : Nat) : Text.Plain (toString n) := by
  intro c hc
  have hdigit := (spells_toString n).forall_isDigit c hc
  refine ⟨?_, by rintro rfl; exact absurd hdigit (by decide)⟩
  simp only [Char.isDigit, Bool.and_eq_true, decide_eq_true_eq] at hdigit
  have hlow : 48 ≤ c.toNat := hdigit.1
  have hhigh : c.toNat ≤ 57 := hdigit.2
  simp only [Text.isBlank, Bool.or_eq_false_iff, Bool.and_eq_false_iff,
    decide_eq_false_iff_not, beq_eq_false_iff_ne]
  omega

/-- A bound of at most 64 bits reads as it is written. -/
theorem parseBound_boundText? {n : Nat} (h : n ≤ unbounded) : parseBound (boundText? n) = n := by
  unfold boundText?
  split
  · rename_i hone
    rw [hone]
    rfl
  · split
    · rename_i hall
      rw [hall]
      exact (Reads.unbounded (by decide)).parseBound_eq
    · refine (Reads.numeral ?_ h).parseBound_eq
      rw [Text.trim_of_unblank fun c hc => (plain_toString n c hc).1]
      exact .plain (spells_toString n)

/-- What bounds read as once they have been written. -/
def reread (o : Occurs) : Occurs := parse o.lexical.1 o.lexical.2

theorem reread_parse (min max : Option String) : (parse min max).reread = parse min max := by
  unfold reread lexical parse
  dsimp only
  rw [parseBound_boundText? (parseBound_le min), parseBound_boundText? (parseBound_le max)]

end Occurs

/-- What a set of methods reads as once it has been written. -/
def DerivationSet.reread (s : DerivationSet) : DerivationSet :=
  ((Writer.derivations s).map parse).getD .empty

theorem DerivationSet.Normal.reread_eq {s : DerivationSet} (h : s.Normal) : s.reread = s := by
  unfold reread Writer.derivations isEmpty
  by_cases hempty : s = empty
  · simp [hempty]
  · simp [hempty, parse_text h]

/-- What an entry of an annotation reads as once it has been written. -/
def Remark.reread (r : Remark) : Remark :=
  match r.audience with
  | .applications => { r with lang := none }
  | .readers => r

/-- A name as a reference, if its local part can be written in a token. -/
def QName.reread (q : QName) : QName := if Text.Plain q.localName then q else ⟨"", ""⟩

/-- The names of a list of tokens, as far as they can be told apart there. -/
def QName.rereadAll (names : List QName) : List QName :=
  names.filter fun q => Text.Plain q.localName ∧ q.localName ≠ ""

theorem QName.plain_of_reread {q : QName} (h : q.reread = q) : Text.Plain q.localName := by
  unfold reread at h
  split at h
  · assumption
  · rw [← h]
    decide

theorem QName.plain_of_rereadAll {names : List QName} (h : QName.rereadAll names = names) :
    ∀ n ∈ names, Text.Plain n.localName ∧ n.localName ≠ "" := by
  intro n hn
  simpa using List.filter_eq_self.1 h n hn

namespace ForeignContent

/-- Foreign content that is read as a foreign attribute of some tag. -/
def ofAttribute (a : Xml.Attribute) : ForeignContent := ⟨a.name.toQName, .attribute a⟩

/-- Foreign content that is read as a foreign element. -/
def ofElement (e : Xml.Element) : ForeignContent := Reader.foreignElement e.tag e.children

/-- The foreign attributes among some content, if they are not taken for others. -/
def attributes (contents : List ForeignContent) : List Xml.Attribute :=
  (Writer.foreignAttributes contents).filter fun a => a.name.namespaceName ≠ ""

/-- The foreign elements among some content, if they are not taken for others. -/
def elements (contents : List ForeignContent) : List Xml.Element :=
  ((Writer.foreignElements contents).filterMap Xml.Node.element?).filter fun e =>
    ChildClass.of e.tag.name = .foreign

/-- What foreign content reads as once it has been written: the attributes, then
the elements. -/
def reread (contents : List ForeignContent) : List ForeignContent :=
  (attributes contents).map ofAttribute ++ (elements contents).map ofElement

variable {contents more : List ForeignContent}

theorem attributes_append :
    attributes (contents ++ more) = attributes contents ++ attributes more := by
  simp [attributes, Writer.foreignAttributes]

theorem elements_append : elements (contents ++ more) = elements contents ++ elements more := by
  simp [elements, Writer.foreignElements]

theorem foreignAttributes_append : Writer.foreignAttributes (contents ++ more) =
    Writer.foreignAttributes contents ++ Writer.foreignAttributes more :=
  List.filterMap_append

theorem foreignElements_append : Writer.foreignElements (contents ++ more) =
    Writer.foreignElements contents ++ Writer.foreignElements more :=
  List.filterMap_append

theorem foreignAttributes_ofAttribute (as : List Xml.Attribute) :
    Writer.foreignAttributes (as.map ofAttribute) = as := by
  unfold Writer.foreignAttributes
  rw [List.filterMap_map]
  exact List.filterMap_some

theorem foreignAttributes_ofElement (es : List Xml.Element) :
    Writer.foreignAttributes (es.map ofElement) = [] := by
  unfold Writer.foreignAttributes
  rw [List.filterMap_map]
  exact List.filterMap_eq_nil_iff.2 fun _ _ => rfl

theorem foreignElements_ofAttribute (as : List Xml.Attribute) :
    Writer.foreignElements (as.map ofAttribute) = [] := by
  unfold Writer.foreignElements
  rw [List.filterMap_map]
  exact List.filterMap_eq_nil_iff.2 fun _ _ => rfl

theorem foreignElements_ofElement (es : List Xml.Element) :
    Writer.foreignElements (es.map ofElement) = es.map Xml.Node.ofElement := by
  unfold Writer.foreignElements
  rw [List.filterMap_map]
  exact congrFun List.filterMap_eq_map _

/-- Attributes with a namespace are found again. -/
theorem reread_map_ofAttribute {as : List Xml.Attribute}
    (h : ∀ a ∈ as, a.name.namespaceName ≠ "") :
    reread (as.map ofAttribute) = as.map ofAttribute := by
  have hattributes : attributes (as.map ofAttribute) = as := by
    unfold attributes
    rw [foreignAttributes_ofAttribute]
    exact List.filter_eq_self.2 fun a ha => by simpa using h a ha
  have helements : elements (as.map ofAttribute) = [] := by
    unfold elements
    rw [foreignElements_ofAttribute]
    rfl
  unfold reread
  rw [hattributes, helements]
  exact List.append_nil _

/-- So is an element that is added at the end. -/
theorem reread_append_ofElement {e : Xml.Element} (h : ChildClass.of e.tag.name = .foreign) :
    reread (contents ++ [ofElement e]) = reread contents ++ [ofElement e] := by
  have hattributes : attributes [ofElement e] = [] := rfl
  have helements : elements [ofElement e] = [e] := by
    simp [elements, Writer.foreignElements, ofElement, Reader.foreignElement, Xml.Node.ofElement,
      Xml.Node.element?, h]
  unfold reread
  rw [attributes_append, elements_append, hattributes, helements, List.append_nil,
    List.map_append, ← List.append_assoc]
  rfl

theorem foreignAttributes_of_reread (h : reread contents = contents) :
    Writer.foreignAttributes contents = attributes contents := by
  conv_lhs => rw [← h]
  unfold reread
  rw [foreignAttributes_append, foreignAttributes_ofAttribute, foreignAttributes_ofElement,
    List.append_nil]

theorem foreignElements_of_reread (h : reread contents = contents) :
    Writer.foreignElements contents = (elements contents).map Xml.Node.ofElement := by
  conv_lhs => rw [← h]
  unfold reread
  rw [foreignElements_append, foreignElements_ofAttribute, foreignElements_ofElement,
    List.nil_append]

theorem attributes_proper {a : Xml.Attribute} (h : a ∈ attributes contents) :
    a.name.namespaceName ≠ "" := by
  simpa using (List.mem_filter.1 h).2

theorem elements_foreign {e : Xml.Element} (h : e ∈ elements contents) :
    ChildClass.of e.tag.name = .foreign := by
  simpa using (List.mem_filter.1 h).2

end ForeignContent

/-- What is left of a model that is written and read again. -/
def Transcription.rewritten : Transcription where
  word := QName.reread
  words := QName.rereadAll
  occurs := Occurs.reread
  methods := DerivationSet.reread
  remark := Remark.reread
  foreign := ForeignContent.reread

end XmlSchema
