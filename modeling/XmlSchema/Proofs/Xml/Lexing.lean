import XmlSchema.Proofs.Xml.Escaping
import XmlSchema.Xml.Reader

/-!
# Cutting written documents

A written node is a sequence of pieces: tags, comments, and text between them.
When every piece can be spelled, cutting what is written gives back the pieces.
-/

namespace XmlSchema.Xml

/-- A word of a name: it starts as a name may and holds no colon. -/
def isWord (cs : List Char) : Bool :=
  match cs with
  | [] => false
  | c :: _ => isNameStart c && cs.all fun d => isNameChar d && d != ':'

namespace Name

/-- The parts of a name are words. -/
def Legal (name : Name) : Prop :=
  isWord name.localName.toList ∧ ∀ pfx ∈ name.pfx, isWord pfx.toList

instance (name : Name) : Decidable name.Legal := by
  unfold Legal
  infer_instance

/-- A name as it is read. -/
def raw (name : Name) : RawName := ⟨name.pfx.getD "", name.localName⟩

end Name

namespace Attribute

/-- A declaration as it is written. -/
def ofBinding (b : String × String) : Attribute :=
  ⟨if b.1.isEmpty then { localName := "xmlns" } else { localName := b.1, pfx := some "xmlns" }, b.2⟩

/-- The characters of a written attribute, after the blank before it. -/
def chars (a : Attribute) : List Char :=
  a.name.lexical.toList ++ '=' :: '"' :: (escapeText a.value.toList ++ ['"'])

/-- An attribute as it is cut. -/
def raw (a : Attribute) : RawAttribute := ⟨a.name.raw, escapeText a.value.toList⟩

/-- An attribute that can be spelled and keeps its value. -/
def Legal (a : Attribute) : Prop := a.name.Legal ∧ a.value.toList.all isValueChar

instance (a : Attribute) : Decidable a.Legal := by
  unfold Legal
  infer_instance

/-- What tells an attribute from the others of its tag. -/
def key (a : Attribute) : Option String × String :=
  (a.name.pfx.map fun _ => a.name.namespaceName, a.name.localName)

end Attribute

namespace Tag

/-- All that is written as an attribute of a tag. -/
def written (t : Tag) : List Attribute :=
  t.declared.toList.map Attribute.ofBinding ++ t.attributes

/-- A tag that can be spelled: reserved prefixes and namespaces are not used,
and nothing is written twice. -/
structure Legal (t : Tag) : Prop where
  name : t.name.Legal
  pfx : t.name.pfx ∉ [some "xml", some "xmlns"]
  written : ∀ a ∈ t.written, a.Legal
  bindings : ∀ b ∈ t.declared.toList,
    b.1 ≠ "xml" ∧ b.2 ∉ [xmlNamespace, InScope.declarationNamespace]
  prefixes : (t.declared.toList.map Prod.fst).Nodup
  attributes : ∀ a ∈ t.attributes, a.name.pfx ≠ some "xmlns" ∧ a.name.localName ≠ "xmlns"
  distinct : (t.attributes.map Attribute.key).Nodup

instance (t : Tag) : Decidable t.Legal :=
  decidable_of_iff (t.name.Legal ∧ t.name.pfx ∉ [some "xml", some "xmlns"] ∧
      (∀ a ∈ t.written, a.Legal) ∧
      (∀ b ∈ t.declared.toList,
        b.1 ≠ "xml" ∧ b.2 ∉ [xmlNamespace, InScope.declarationNamespace]) ∧
      (t.declared.toList.map Prod.fst).Nodup ∧
      (∀ a ∈ t.attributes, a.name.pfx ≠ some "xmlns" ∧ a.name.localName ≠ "xmlns") ∧
      (t.attributes.map Attribute.key).Nodup)
    ⟨fun ⟨h₁, h₂, h₃, h₄, h₅, h₆, h₇⟩ => ⟨h₁, h₂, h₃, h₄, h₅, h₆, h₇⟩,
      fun ⟨h₁, h₂, h₃, h₄, h₅, h₆, h₇⟩ => ⟨h₁, h₂, h₃, h₄, h₅, h₆, h₇⟩⟩

/-- The characters of a written tag between its angle brackets. -/
def chars (t : Tag) : List Char :=
  t.name.lexical.toList ++ t.written.flatMap fun a => ' ' :: a.chars

end Tag

/-- A piece of a written document. -/
inductive Piece where
  | startTag (tag : Tag) (closed : Bool)
  | endTag (name : Name)
  | text (content : List Char)
  | comment (content : List Char)

namespace Piece

/-- A piece as it is cut. -/
def lexeme : Piece → Lexeme
  | .startTag t closed =>
      .startTag t.name.raw (t.written.map Attribute.raw) (if closed then .closed else .opened)
  | .endTag name => .endTag name.raw
  | .text content => .text (escapeText content)
  | .comment content => .comment content

/-- A piece that can be spelled. -/
def Legal : Piece → Prop
  | .startTag t _ => t.Legal
  | .endTag name => name.Legal
  | .text content => content ≠ [] ∧ content.all isTextChar
  | .comment content =>
      Lexer.splitAtText? ['-', '-'] content = none ∧ content.getLast? ≠ some '-' ∧
        content.all isAllowed

instance (p : Piece) : Decidable p.Legal := by
  unfold Legal
  split <;> infer_instance

/-- The piece of a text that is not empty. -/
def ofText (content : List Char) : List Piece :=
  if content.isEmpty then [] else [.text content]

end Piece

namespace Node

mutual

/-- The pieces of a node; those of a text come with what follows it. -/
def pieces : Node → List Piece
  | .text _ => []
  | .comment content => [.comment content.toList]
  | .element t [] => [.startTag t true]
  | .element t (child :: children) =>
      .startTag t false :: (piecesIn [] (child :: children) ++ [.endTag t.name])

/-- The pieces of some nodes after some text. -/
def piecesIn (before : List Char) : List Node → List Piece
  | [] => Piece.ofText before
  | .text content :: rest => piecesIn (before ++ content.toList) rest
  | .comment content :: rest =>
      Piece.ofText before ++ (pieces (.comment content) ++ piecesIn [] rest)
  | .element t children :: rest =>
      Piece.ofText before ++ (pieces (.element t children) ++ piecesIn [] rest)

end

end Node

/-- A document that can be spelled. -/
def Element.Legal (e : Element) : Prop := ∀ p ∈ (Node.ofElement e).pieces, p.Legal

instance (e : Element) : Decidable e.Legal := inferInstanceAs (Decidable (∀ p ∈ _, _))

section Names

theorem ne_of_isNameStart {c d : Char} (h : isNameStart c) (hd : isNameStart d = false) :
    c ≠ d := by
  rintro rfl
  rw [hd] at h
  cases h

theorem isSpace_of_isNameStart {c : Char} (h : isNameStart c) : isSpace c = false := by
  unfold isSpace
  simp only [ne_of_isNameStart h (by decide : isNameStart ' ' = false),
    ne_of_isNameStart h (by decide : isNameStart '\t' = false),
    ne_of_isNameStart h (by decide : isNameStart '\n' = false),
    ne_of_isNameStart h (by decide : isNameStart '\r' = false), decide_false, Bool.or_self]

theorem startsName_of_isWord {cs : List Char} (h : isWord cs) : Lexer.startsName cs := by
  cases cs with
  | nil => cases h
  | cons c cs =>
      unfold isWord at h
      exact (Bool.and_eq_true_iff.1 h).1

theorem isNameChar_of_isWord {cs : List Char} (h : isWord cs) :
    ∀ c ∈ cs, isNameChar c ∧ c ≠ ':' := by
  cases cs with
  | nil => cases h
  | cons c cs =>
      unfold isWord at h
      simpa [List.all_eq_true] using (Bool.and_eq_true_iff.1 h).2

theorem ne_nil_of_isWord {cs : List Char} (h : isWord cs) : cs ≠ [] := by
  rintro rfl
  cases h

theorem splitColon_of_not_mem {cs : List Char} (h : ':' ∉ cs) : Lexer.splitColon cs = none := by
  induction cs with
  | nil => rfl
  | cons c cs ih =>
      rw [List.mem_cons, not_or] at h
      rw [Lexer.splitColon, if_neg (Ne.symm h.1), ih h.2]
      rfl

theorem splitColon_append {cs : List Char} (h : ':' ∉ cs) (rest : List Char) :
    Lexer.splitColon (cs ++ ':' :: rest) = some (cs, rest) := by
  induction cs with
  | nil => rfl
  | cons c cs ih =>
      rw [List.mem_cons, not_or] at h
      rw [List.cons_append, Lexer.splitColon, if_neg (Ne.symm h.1), ih h.2]
      rfl

/-- Where a name ends. -/
def EndsName (rest : List Char) : Prop := ∀ c ∈ rest.head?, isNameChar c = false

theorem takeWhile_append_of_endsName {word rest : List Char} (hword : ∀ c ∈ word, isNameChar c)
    (hrest : EndsName rest) :
    (word ++ rest).takeWhile isNameChar = word ∧ (word ++ rest).dropWhile isNameChar = rest := by
  rw [List.takeWhile_append_of_pos hword, List.dropWhile_append_of_pos hword]
  cases rest with
  | nil => exact ⟨List.append_nil _, rfl⟩
  | cons c rest =>
      have hc : isNameChar c = false := hrest c rfl
      simp [hc]

/-- A name is read as it is written. -/
theorem rawName_lexical {name : Name} (h : name.Legal) {rest : List Char} (hrest : EndsName rest) :
    Lexer.rawName (name.lexical.toList ++ rest) = .ok (name.raw, rest) := by
  obtain ⟨hlocal, hpfx⟩ := h
  have hchars := isNameChar_of_isWord hlocal
  have hcolon : name.localName.toList.contains ':' = false := by
    simpa using fun hmem => (hchars _ hmem).2 rfl
  have hempty : name.localName.toList.isEmpty = false := by
    simpa using ne_nil_of_isWord hlocal
  unfold Name.lexical Name.raw Lexer.rawName
  cases hp : name.pfx with
  | none =>
      obtain ⟨htake, hdrop⟩ :=
        takeWhile_append_of_endsName (fun c hc => (hchars c hc).1) hrest
      dsimp only
      rw [htake, hdrop, splitColon_of_not_mem fun hmem => (hchars _ hmem).2 rfl]
      simp only [Option.getD_none]
      rw [hcolon, hempty, startsName_of_isWord hlocal]
      simp [Lexer.startsName]
  | some pfx =>
      have hword := hpfx pfx (by rw [hp]; rfl)
      have hpfxChars := isNameChar_of_isWord hword
      have hall : ∀ c ∈ pfx.toList ++ ':' :: name.localName.toList, isNameChar c := by
        intro c hc
        rw [List.mem_append, List.mem_cons] at hc
        rcases hc with hc | rfl | hc
        · exact (hpfxChars c hc).1
        · decide
        · exact (hchars c hc).1
      have hlexical : (pfx ++ ":" ++ name.localName).toList =
          pfx.toList ++ ':' :: name.localName.toList := by
        rw [String.toList_append, String.toList_append, List.append_assoc]
        rfl
      obtain ⟨htake, hdrop⟩ := takeWhile_append_of_endsName hall hrest
      dsimp only
      rw [hlexical, htake, hdrop, splitColon_append fun hmem => (hpfxChars _ hmem).2 rfl]
      simp only [Option.getD_some]
      rw [hcolon, hempty, startsName_of_isWord hlocal, startsName_of_isWord hword]
      simp

end Names

/-- A written name begins as names do. -/
theorem exists_lexical_eq {name : Name} (h : name.Legal) :
    ∃ c cs, name.lexical.toList = c :: cs ∧ isNameStart c := by
  have hword : ∀ {word : List Char}, isWord word → ∃ c cs, word = c :: cs ∧ isNameStart c := by
    intro word hword
    cases word with
    | nil => cases hword
    | cons c cs => exact ⟨c, cs, rfl, startsName_of_isWord hword⟩
  unfold Name.lexical
  cases hp : name.pfx with
  | none => exact hword h.1
  | some pfx =>
      obtain ⟨c, cs, hpfx, hc⟩ := hword (h.2 pfx (by rw [hp]; rfl))
      refine ⟨c, cs ++ ":".toList ++ name.localName.toList, ?_, hc⟩
      dsimp only
      rw [String.toList_append, String.toList_append, hpfx, List.cons_append, List.cons_append]

section Tags

theorem toList_printAttribute (a : Attribute) : (printAttribute a).toList = ' ' :: a.chars := by
  unfold printAttribute Attribute.chars
  simp only [String.toList_append, toList_escape]
  simp

theorem printBinding_eq (b : String × String) :
    printBinding b = printAttribute (.ofBinding b) := by
  refine String.toList_inj.1 ?_
  unfold printBinding printAttribute Attribute.ofBinding Name.lexical
  split <;> simp

theorem toList_printTag (t : Tag) : (printTag t).toList = t.chars := by
  have hattributes : ∀ as : List Attribute,
      (String.join (as.map printAttribute)).toList = as.flatMap fun a => ' ' :: a.chars := by
    intro as
    rw [String.toList_join, List.flatMap_map]
    exact congrArg (List.flatMap · as) (funext toList_printAttribute)
  have hbindings : t.declared.toList.map printBinding =
      (t.declared.toList.map Attribute.ofBinding).map printAttribute := by
    rw [List.map_map]
    exact List.map_congr_left fun b _ => printBinding_eq b
  unfold printTag Tag.chars Tag.written
  rw [hbindings, String.toList_append, String.toList_append, hattributes, hattributes,
    List.flatMap_append, List.append_assoc]

theorem allowed_eq_ok {cs : List Char} (h : ∀ c ∈ cs, isAllowed c) :
    Lexer.allowed cs = .ok () := by
  unfold Lexer.allowed
  rw [List.find?_eq_none.2 fun c hc => by simp [h c hc]]

/-- An attribute is cut as it is written. -/
theorem rawAttribute_chars {a : Attribute} (h : a.Legal) (rest : List Char) :
    Lexer.rawAttribute (a.chars ++ rest) = .ok (a.raw, rest) := by
  obtain ⟨hname, hvalue⟩ := h
  have hplain := escapeText_plain fun c hc => by
    have hc := List.all_eq_true.1 hvalue c hc
    simp only [isValueChar, Bool.and_eq_true] at hc
    exact hc.1.1.1
  have hquote : ∀ c ∈ escapeText a.value.toList, (c != '"') = true := by
    intro c hc
    have hc := (hplain c hc).1
    simp only [List.mem_cons, List.not_mem_nil, or_false, not_or] at hc
    simpa using hc.2.2
  have hlt : (escapeText a.value.toList).contains '<' = false := by
    simpa using fun hmem => (hplain _ hmem).1 (by simp)
  have hrest : EndsName ('=' :: '"' :: (escapeText a.value.toList ++ '"' :: rest)) := by
    intro c hc
    cases hc
    decide
  have hcut : a.chars ++ rest = a.name.lexical.toList ++
      '=' :: '"' :: (escapeText a.value.toList ++ '"' :: rest) := by
    simp [Attribute.chars]
  have hquoted : Lexer.quoted '"' (escapeText a.value.toList ++ '"' :: rest) =
      .ok (escapeText a.value.toList, rest) := by
    unfold Lexer.quoted
    rw [List.dropWhile_append_of_pos hquote, List.takeWhile_append_of_pos hquote]
    simp
  rw [hcut]
  unfold Lexer.rawAttribute
  rw [rawName_lexical hname hrest]
  show (Lexer.quoted '"' (escapeText a.value.toList ++ '"' :: rest) >>= fun p => do
    if p.1.contains '<' then throw .lessThanInValue
    Lexer.allowed p.1
    return (⟨a.name.raw, p.1⟩, p.2) : Except Fault (RawAttribute × List Char)) = _
  rw [hquoted]
  dsimp only [bind, Except.bind]
  rw [hlt, allowed_eq_ok fun c hc => (hplain c hc).2]
  rfl

/-- The characters at the end of a written tag. -/
def tagEnd (closed : Bool) : List Char := if closed then ['/', '>'] else ['>']

/-- Behind a blank, a name begins an attribute. -/
theorem attributes_blank {c : Char} (hc : isNameStart c) (fuel : Nat) (cs : List Char) :
    Lexer.attributes (fuel + 1) (' ' :: c :: cs) = (do
      let (a, rest) ← Lexer.rawAttribute (c :: cs)
      let ((more, ending), rest) ← Lexer.attributes fuel rest
      return ((a :: more, ending), rest)) := by
  have hskip : Lexer.skipSpaces (' ' :: c :: cs) = c :: cs := by
    unfold Lexer.skipSpaces
    rw [List.dropWhile_cons_of_pos (by decide), List.dropWhile_cons_of_neg]
    rw [isSpace_of_isNameStart hc]
    decide
  rw [Lexer.attributes, hskip]
  split
  · rename_i heq
    cases heq
  · rename_i heq
    cases heq
    cases hc
  · rename_i heq
    cases heq
    cases hc
  · rename_i heq
    cases heq
    cases hc
  · rename_i heq
    cases heq
    rfl

theorem attributes_chars {as : List Attribute} (h : ∀ a ∈ as, a.Legal) (closed : Bool)
    (rest : List Char) {fuel : Nat} (hfuel : as.length < fuel) :
    Lexer.attributes fuel ((as.flatMap fun a => ' ' :: a.chars) ++ (tagEnd closed ++ rest)) =
      .ok ((as.map Attribute.raw, if closed then .closed else .opened), rest) := by
  induction as generalizing fuel with
  | nil =>
      obtain ⟨fuel, rfl⟩ : ∃ n, fuel = n + 1 := ⟨fuel - 1, by simp at hfuel; omega⟩
      cases closed <;> rfl
  | cons a as ih =>
      obtain ⟨fuel, rfl⟩ : ∃ n, fuel = n + 1 := ⟨fuel - 1, by simp at hfuel; omega⟩
      obtain ⟨ha, has⟩ := List.forall_mem_cons.1 h
      have hrest := ih has (by simpa using hfuel)
      obtain ⟨c, cs, hchars, hc⟩ := exists_lexical_eq ha.1
      have hfirst : ∀ rest, ' ' :: a.chars ++ rest =
          ' ' :: c :: (cs ++ '=' :: '"' :: (escapeText a.value.toList ++ '"' :: rest)) := by
        intro rest
        simp [Attribute.chars, hchars]
      have hback : ∀ rest,
          c :: (cs ++ '=' :: '"' :: (escapeText a.value.toList ++ '"' :: rest)) =
            a.chars ++ rest := by
        intro rest
        simp [Attribute.chars, hchars]
      rw [List.flatMap_cons, List.append_assoc, hfirst, attributes_blank hc, hback,
        rawAttribute_chars ha]
      dsimp only [bind, Except.bind]
      rw [hrest]
      rfl

theorem length_le_flatMap_chars (as : List Attribute) :
    as.length ≤ (as.flatMap fun a => ' ' :: a.chars).length := by
  induction as with
  | nil => exact Nat.le_refl _
  | cons a as ih =>
      rw [List.flatMap_cons, List.length_append, List.length_cons, List.length_cons]
      omega

/-- A tag is cut as it is written. -/
theorem startTag_chars {t : Tag} (h : t.Legal) (closed : Bool) (rest : List Char) :
    Lexer.startTag (t.chars ++ (tagEnd closed ++ rest)) =
      .ok ((Piece.startTag t closed).lexeme, rest) := by
  let after := (t.written.flatMap fun a => ' ' :: a.chars) ++ (tagEnd closed ++ rest)
  have hends : EndsName after := by
    intro c hc
    cases hwritten : t.written with
    | nil =>
        rw [show after = tagEnd closed ++ rest by simp [after, hwritten]] at hc
        cases closed <;> cases hc <;> decide
    | cons a as =>
        rw [show after.head? = some ' ' by simp [after, hwritten]] at hc
        cases hc
        decide
  have hfuel : t.written.length < after.length := by
    have hlength := length_le_flatMap_chars t.written
    have hend : 0 < (tagEnd closed).length := by cases closed <;> decide
    simp only [after, List.length_append]
    omega
  have hcut : t.chars ++ (tagEnd closed ++ rest) = t.name.lexical.toList ++ after :=
    List.append_assoc _ _ _
  have hattributes : Lexer.attributes after.length after = _ :=
    attributes_chars h.written closed rest hfuel
  rw [hcut]
  unfold Lexer.startTag
  rw [rawName_lexical h.name hends]
  dsimp only [bind, Except.bind]
  rw [hattributes]
  rfl

/-- Where a name begins. -/
def BeginsName (cs : List Char) : Prop := ∃ c, cs.head? = some c ∧ isNameStart c

theorem beginsName_chars {t : Tag} (h : t.Legal) (rest : List Char) :
    BeginsName (t.chars ++ rest) := by
  obtain ⟨c, cs, hlexical, hc⟩ := exists_lexical_eq h.name
  unfold Tag.chars
  rw [hlexical]
  exact ⟨c, rfl, hc⟩

theorem lexeme_startTag {t : Tag} (h : t.Legal) (closed : Bool) (rest : List Char) :
    Lexer.lexeme ('<' :: t.chars ++ tagEnd closed ++ rest) =
      .ok ((Piece.startTag t closed).lexeme, rest) := by
  obtain ⟨c, cs, hlexical, hc⟩ := exists_lexical_eq h.name
  have hstart := startTag_chars h closed rest
  have hcut : t.chars ++ (tagEnd closed ++ rest) =
      c :: (cs ++ (t.written.flatMap fun a => ' ' :: a.chars) ++ (tagEnd closed ++ rest)) := by
    simp [Tag.chars, hlexical]
  rw [List.cons_append, List.cons_append, List.append_assoc, hcut]
  rw [hcut] at hstart
  -- a name does not begin as other markup does
  unfold Lexer.lexeme
  split
  · rename_i heq
    cases heq
  · rename_i heq
    cases heq
    cases hc
  · rename_i heq
    cases heq
    cases hc
  · rename_i heq
    cases heq
    cases hc
  · rename_i heq
    cases heq
    exact hstart
  · rename_i hlt heq
    cases heq
    exact (hlt rfl).elim

theorem lexeme_endTag {name : Name} (h : name.Legal) (rest : List Char) :
    Lexer.lexeme ('<' :: '/' :: (name.lexical.toList ++ '>' :: rest)) =
      .ok ((Piece.endTag name).lexeme, rest) := by
  have hends : EndsName ('>' :: rest) := by
    intro c hc
    cases hc
    decide
  show Lexer.endTag (name.lexical.toList ++ '>' :: rest) = _
  unfold Lexer.endTag
  rw [rawName_lexical h hends]
  rfl

end Tags

section Texts

theorem splitAtText?_cons_eq_none {stop : List Char} {c : Char} {cs : List Char} :
    Lexer.splitAtText? stop (c :: cs) = none ↔
      stop.isPrefixOf (c :: cs) = false ∧ Lexer.splitAtText? stop cs = none := by
  rw [Lexer.splitAtText?, Lexer.afterText?]
  cases stop.isPrefixOf (c :: cs) with
  | true => simp
  | false =>
      cases Lexer.splitAtText? stop cs <;> simp

/-- A text is not found where one of its characters is missing. -/
theorem splitAtText?_eq_none {stop cs : List Char} {c : Char} (hc : c ∈ stop) (hcs : c ∉ cs) :
    Lexer.splitAtText? stop cs = none := by
  induction cs with
  | nil => rfl
  | cons d cs ih =>
      rw [splitAtText?_cons_eq_none]
      refine ⟨?_, ih fun hmem => hcs (List.mem_cons_of_mem _ hmem)⟩
      rw [Bool.eq_false_iff]
      intro hprefix
      exact hcs ((List.isPrefixOf_iff_prefix.1 hprefix).subset hc)

/-- What holds no two dashes ends where a comment ends. -/
theorem splitAtText?_comment {content : List Char}
    (hdashes : Lexer.splitAtText? ['-', '-'] content = none) (rest : List Char) :
    Lexer.splitAtText? ['-', '-', '>'] (content ++ '-' :: '-' :: '>' :: rest) =
      some (content, rest) := by
  induction content with
  | nil => rfl
  | cons c cs ih =>
      obtain ⟨hhere, hdashes⟩ := splitAtText?_cons_eq_none.1 hdashes
      have hnone : Lexer.afterText? ['-', '-', '>']
          (c :: (cs ++ '-' :: '-' :: '>' :: rest)) = none := by
        unfold Lexer.afterText?
        rw [if_neg]
        cases cs with
        | nil => simp [List.isPrefixOf]
        | cons d cs =>
            intro hprefix
            simp only [List.isPrefixOf, List.cons_append, Bool.and_eq_true, beq_iff_eq] at hprefix
            simp [List.isPrefixOf, ← hprefix.1, ← hprefix.2.1] at hhere
      rw [List.cons_append, Lexer.splitAtText?, hnone, ih hdashes]

theorem lexeme_comment {content : List Char} (h : (Piece.comment content).Legal)
    (rest : List Char) :
    Lexer.lexeme ('<' :: '!' :: '-' :: '-' :: (content ++ '-' :: '-' :: '>' :: rest)) =
      .ok ((Piece.comment content).lexeme, rest) := by
  obtain ⟨hdashes, hlast, hallowed⟩ := h
  have huntil : Lexer.untilText "-->" (content ++ '-' :: '-' :: '>' :: rest) =
      .ok (content, rest) := by
    unfold Lexer.untilText
    rw [show "-->".toList = ['-', '-', '>'] from rfl, splitAtText?_comment hdashes]
    dsimp only [bind, Except.bind]
    rw [allowed_eq_ok (List.all_eq_true.1 hallowed)]
    rfl
  have hcomment : Lexer.comment (content ++ '-' :: '-' :: '>' :: rest) = .ok (content, rest) := by
    unfold Lexer.comment
    rw [huntil]
    dsimp only [bind, Except.bind]
    rw [hdashes]
    simp [hlast, pure, Except.pure]
  show (Lexer.comment (content ++ '-' :: '-' :: '>' :: rest) >>= fun p =>
    pure (.comment p.1, p.2) : Except Fault (Lexeme × List Char)) = _
  rw [hcomment]
  rfl

theorem lexeme_of_ne {c : Char} (hc : c ≠ '<') (cs : List Char) :
    Lexer.lexeme (c :: cs) = Lexer.text (c :: cs) := by
  unfold Lexer.lexeme
  split <;> rename_i heq <;> cases heq
  all_goals first | exact absurd rfl hc | rfl

/-- Text is cut up to the markup behind it. -/
theorem lexeme_text {content : List Char} (h : (Piece.text content).Legal) {rest : List Char}
    (hrest : rest.head? = some '<') :
    Lexer.lexeme (escapeText content ++ rest) = .ok ((Piece.text content).lexeme, rest) := by
  obtain ⟨hne, h⟩ := h
  have hplain := escapeText_plain fun c hc => by
    have hc := List.all_eq_true.1 h c hc
    simp only [isTextChar, Bool.and_eq_true] at hc
    exact hc.1
  have hlt : ∀ c ∈ escapeText content, (c != '<') = true := by
    intro c hc
    have hc := (hplain c hc).1
    simp only [List.mem_cons, List.not_mem_nil, or_false, not_or] at hc
    simpa using hc.1
  have hgt : '>' ∉ escapeText content := fun hmem => (hplain _ hmem).1 (by simp)
  obtain ⟨after, rfl⟩ : ∃ after, rest = '<' :: after := by
    cases rest with
    | nil => cases hrest
    | cons c after =>
        cases hrest
        exact ⟨after, rfl⟩
  have htext : Lexer.text (escapeText content ++ '<' :: after) =
      .ok ((Piece.text content).lexeme, '<' :: after) := by
    unfold Lexer.text
    rw [List.dropWhile_append_of_pos hlt, List.takeWhile_append_of_pos hlt]
    simp only [List.takeWhile_cons_of_neg, List.dropWhile_cons_of_neg, bne_self_eq_false,
      Bool.false_eq_true, not_false_eq_true, List.append_nil]
    rw [allowed_eq_ok fun c hc => (hplain c hc).2,
      splitAtText?_eq_none (by decide : '>' ∈ "]]>".toList) hgt]
    rfl
  obtain ⟨c, cs, hcs⟩ : ∃ c cs, escapeText content = c :: cs := by
    refine List.exists_cons_of_ne_nil fun hnil => hne (List.length_eq_zero_iff.1 ?_)
    have hlength := length_le_escapeText content
    rw [hnil] at hlength
    exact Nat.le_zero.1 hlength
  have hc : c ≠ '<' := by simpa using hlt c (by rw [hcs]; exact List.mem_cons_self)
  rw [hcs, List.cons_append] at htext ⊢
  rw [lexeme_of_ne hc, htext]

end Texts

section Contents

/-- Characters are cut into lexemes that lead from one depth to another, and
cutting goes on with whatever may follow. -/
def Cuts (after : List Char → Prop) (cs : List Char) (ls : List Lexeme) (depth depth' : Nat) :
    Prop :=
  ∀ (fuel : Nat) (rest : List Char), after rest → cs.length + rest.length ≤ fuel →
    ∃ fuel', rest.length ≤ fuel' ∧
      Lexeme.ofContent fuel depth (cs ++ rest) =
        (Lexeme.ofContent fuel' depth' rest).map fun p => (ls ++ p.1, p.2)

variable {after before : List Char → Prop} {cs ds : List Char} {ls ks : List Lexeme}
  {depth depth' depth'' : Nat}

theorem cuts_nil : Cuts after [] [] depth depth := by
  intro fuel rest _ hfuel
  refine ⟨fuel, by simpa using hfuel, ?_⟩
  rw [List.nil_append]
  cases Lexeme.ofContent fuel depth rest <;> rfl

theorem Cuts.append (h : Cuts after cs ls depth depth') (h' : Cuts before ds ks depth' depth'')
    (hafter : ∀ rest, before rest → after (ds ++ rest)) :
    Cuts before (cs ++ ds) (ls ++ ks) depth depth'' := by
  intro fuel rest hrest hfuel
  rw [List.length_append] at hfuel
  obtain ⟨middle, hmiddle, hfirst⟩ :=
    h fuel (ds ++ rest) (hafter rest hrest) (by rw [List.length_append]; omega)
  obtain ⟨last, hlast, hsecond⟩ := h' middle rest hrest (by simpa using hmiddle)
  refine ⟨last, hlast, ?_⟩
  rw [List.append_assoc, hfirst, hsecond]
  cases Lexeme.ofContent last depth'' rest with
  | error e => rfl
  | ok p => simp [Except.map, List.append_assoc]

/-- One lexeme that does not end the content. -/
theorem cuts_lexeme {l : Lexeme} (hne : cs ≠ [])
    (hlexeme : ∀ rest, after rest → Lexer.lexeme (cs ++ rest) = .ok (l, rest))
    (hdepth : l.depthAfter? depth = some depth') : Cuts after cs [l] depth depth' := by
  intro fuel rest hrest hfuel
  obtain ⟨c, cs, rfl⟩ := List.exists_cons_of_ne_nil hne
  rw [List.length_cons] at hfuel
  obtain ⟨fuel, rfl⟩ : ∃ n, fuel = n + 1 := ⟨fuel - 1, by omega⟩
  have hlexeme := hlexeme rest hrest
  refine ⟨fuel, by omega, ?_⟩
  rw [List.cons_append] at hlexeme ⊢
  rw [Lexeme.ofContent, hlexeme]
  dsimp only [bind, Except.bind]
  rw [hdepth]
  dsimp only
  cases Lexeme.ofContent fuel depth' rest <;> rfl

/-- What may follow a text. -/
def BeginsMarkup (rest : List Char) : Prop := rest.head? = some '<'

theorem cuts_text {content : List Char} (h : ∀ p ∈ Piece.ofText content, p.Legal) :
    Cuts BeginsMarkup (escapeText content) ((Piece.ofText content).map Piece.lexeme) depth
      depth := by
  unfold Piece.ofText at h ⊢
  by_cases hempty : content = []
  · subst hempty
    exact cuts_nil
  · rw [if_neg (by simpa using hempty)] at h ⊢
    have hlegal : (Piece.text content).Legal := h _ List.mem_cons_self
    have hne : escapeText content ≠ [] := by
      intro hnil
      have hlength := length_le_escapeText content
      rw [hnil] at hlength
      exact hempty (List.length_eq_zero_iff.1 (Nat.le_zero.1 hlength))
    exact cuts_lexeme hne (fun rest hrest => lexeme_text hlegal hrest) rfl

theorem lead_none (glued : Bool) (indent : Nat) :
    (if glued then "" else lineBreak none indent) = "" := by
  cases glued <;> rfl

theorem toList_printComment (indent : Nat) (glued : Bool) (content : String) :
    (printNode none indent glued (.comment content)).toList =
      '<' :: '!' :: '-' :: '-' :: (content.toList ++ ['-', '-', '>']) := by
  rw [printNode, lead_none]
  simp

theorem toList_printEmpty (indent : Nat) (glued : Bool) (t : Tag) :
    (printNode none indent glued (.element t [])).toList = '<' :: t.chars ++ tagEnd true := by
  rw [printNode, lead_none]
  simp [toList_printTag, tagEnd]

theorem toList_printParent (indent : Nat) (glued : Bool) (t : Tag) (child : Node)
    (children : List Node) :
    (printNode none indent glued (.element t (child :: children))).toList =
      ('<' :: t.chars ++ tagEnd false) ++
        ((printNodes none (indent + 1) false (child :: children)).toList ++
          ('<' :: '/' :: (t.name.lexical.toList ++ ['>']))) := by
  rw [printNode, lead_none]
  -- no line is broken before the end tag, whatever stands last
  split <;> simp [toList_printTag, tagEnd, lineBreak]

theorem cuts_startTag {t : Tag} (h : t.Legal) (closed : Bool) :
    Cuts (fun _ => True) ('<' :: t.chars ++ tagEnd closed) [(Piece.startTag t closed).lexeme]
      depth (if closed then depth else depth + 1) := by
  refine cuts_lexeme nofun (fun rest _ => lexeme_startTag h closed rest) ?_
  cases closed <;> rfl

theorem cuts_endTag {name : Name} (h : name.Legal) :
    Cuts (fun _ => True) ('<' :: '/' :: (name.lexical.toList ++ ['>']))
      [(Piece.endTag name).lexeme] (depth + 1) depth := by
  refine cuts_lexeme nofun (fun rest _ => ?_) rfl
  have hend := lexeme_endTag h rest
  rwa [show '<' :: '/' :: (name.lexical.toList ++ '>' :: rest) =
    '<' :: '/' :: (name.lexical.toList ++ ['>']) ++ rest by simp] at hend

theorem cuts_comment {content : String} (h : (Piece.comment content.toList).Legal)
    (indent : Nat) (glued : Bool) (depth : Nat) :
    Cuts (fun _ => True) (printNode none indent glued (.comment content)).toList
      [(Piece.comment content.toList).lexeme] depth depth := by
  rw [toList_printComment]
  refine cuts_lexeme nofun (fun rest _ => ?_) rfl
  have hcomment := lexeme_comment h rest
  rwa [show '<' :: '!' :: '-' :: '-' :: (content.toList ++ '-' :: '-' :: '>' :: rest) =
    '<' :: '!' :: '-' :: '-' :: (content.toList ++ ['-', '-', '>']) ++ rest by simp] at hcomment

mutual

/-- A written element is cut into its pieces. -/
theorem cuts_element : ∀ (t : Tag) (kids : List Node),
    (∀ p ∈ (Node.element t kids).pieces, p.Legal) → ∀ (indent : Nat) (glued : Bool) (depth : Nat),
    Cuts (fun _ => True) (printNode none indent glued (.element t kids)).toList
      ((Node.element t kids).pieces.map Piece.lexeme) depth depth
  | t, [], h, indent, glued, depth => by
      have ht : t.Legal := h (.startTag t true) List.mem_cons_self
      rw [toList_printEmpty]
      exact cuts_startTag ht true
  | t, child :: children, h, indent, glued, depth => by
      unfold Node.pieces at h ⊢
      obtain ⟨ht, h⟩ := List.forall_mem_cons.1 h
      obtain ⟨hkids, hend⟩ := List.forall_mem_append.1 h
      have hstart : Cuts (fun _ => True) _ _ depth (depth + 1) := cuts_startTag ht false
      have hinner := cuts_nodes [] (child :: children) hkids (indent + 1) false (depth + 1)
      rw [toList_printParent, List.map_cons, List.map_append]
      refine hstart.append (hinner.append (cuts_endTag (hend _ List.mem_cons_self)) ?_) ?_
      · exact fun _ _ => rfl
      · exact fun _ _ => trivial

/-- Written nodes are cut into their pieces. -/
theorem cuts_nodes : ∀ (before : List Char) (nodes : List Node),
    (∀ p ∈ Node.piecesIn before nodes, p.Legal) → ∀ (indent : Nat) (glued : Bool) (depth : Nat),
    Cuts BeginsMarkup (escapeText before ++ (printNodes none indent glued nodes).toList)
      ((Node.piecesIn before nodes).map Piece.lexeme) depth depth
  | before, [], h, indent, glued, depth => by
      unfold Node.piecesIn at h ⊢
      rw [printNodes]
      simpa using cuts_text h
  | before, .text content :: rest, h, indent, glued, depth => by
      unfold Node.piecesIn at h ⊢
      have hrest := cuts_nodes (before ++ content.toList) rest h indent true depth
      rw [escapeText_append, ← toList_escape, List.append_assoc] at hrest
      rw [printNodes, printNode, String.toList_append]
      exact hrest
  | before, .comment content :: rest, h, indent, glued, depth => by
      unfold Node.piecesIn at h ⊢
      obtain ⟨hbefore, h⟩ := List.forall_mem_append.1 h
      obtain ⟨hcomment, hrest⟩ := List.forall_mem_append.1 h
      have hnode := cuts_comment (hcomment _ List.mem_cons_self) indent glued depth
      have hnodes := cuts_nodes [] rest hrest indent false depth
      rw [printNodes, String.toList_append, List.map_append, List.map_append]
      refine (cuts_text hbefore).append (hnode.append hnodes fun _ _ => trivial) fun _ _ => ?_
      rw [toList_printComment]
      rfl
  | before, .element t kids :: rest, h, indent, glued, depth => by
      unfold Node.piecesIn at h ⊢
      obtain ⟨hbefore, h⟩ := List.forall_mem_append.1 h
      obtain ⟨helement, hrest⟩ := List.forall_mem_append.1 h
      have hnode := cuts_element t kids helement indent glued depth
      have hnodes := cuts_nodes [] rest hrest indent false depth
      rw [printNodes, String.toList_append, List.map_append, List.map_append]
      refine (cuts_text hbefore).append (hnode.append hnodes fun _ _ => trivial) fun _ _ => ?_
      cases kids with
      | nil => rw [toList_printEmpty]; rfl
      | cons child children => rw [toList_printParent]; rfl

end

end Contents

section Documents

/-- A start tag is no other markup. -/
theorem afterText?_startTag {c d : Char} (hc : isNameStart c) (hd : isNameStart d = false)
    (word cs : List Char) : Lexer.afterText? ('<' :: d :: word) ('<' :: c :: cs) = none := by
  have hne : (d == c) = false := by simpa using Ne.symm (ne_of_isNameStart hc hd)
  unfold Lexer.afterText?
  simp [List.isPrefixOf, hne]

theorem skipMisc_startTag {c : Char} (hc : isNameStart c) (fuel : Nat) (cs : List Char) :
    Prolog.skipMisc (fuel + 1) ('<' :: c :: cs) = .ok ('<' :: c :: cs) := by
  have hskip : Lexer.skipSpaces ('<' :: c :: cs) = '<' :: c :: cs := rfl
  have hcomment : Lexer.afterText? "<!--".toList ('<' :: c :: cs) = none :=
    afterText?_startTag hc (by decide) _ cs
  have hinstruction : Lexer.afterText? "<?".toList ('<' :: c :: cs) = none :=
    afterText?_startTag hc (by decide) _ cs
  unfold Prolog.skipMisc
  dsimp only
  rw [hskip, hcomment, hinstruction]

/-- What stands before the root of a written document is passed over. -/
theorem read_declaration {cs : List Char} (h : BeginsName cs) :
    Prolog.read (declaration.toList ++ '<' :: cs) = .ok ([], '<' :: cs) := by
  obtain ⟨c, hhead, hc⟩ := h
  obtain ⟨cs, rfl⟩ := List.head?_eq_some_iff.1 hhead
  have hmark : Lexer.afterText? ['\uFEFF'] (declaration.toList ++ '<' :: c :: cs) = none := rfl
  have hopen : Lexer.afterText? "<?xml ".toList (declaration.toList ++ '<' :: c :: cs) =
      some (declaration.toList.drop 6 ++ '<' :: c :: cs) := rfl
  have hdeclaration : Prolog.declaration ((declaration.toList ++ '<' :: c :: cs).drop 5) =
      .ok ('<' :: c :: cs) := rfl
  have htype : Lexer.afterText? "<!DOCTYPE".toList ('<' :: c :: cs) = none :=
    afterText?_startTag hc (by decide) _ cs
  unfold Prolog.read
  dsimp only [bind, Except.bind]
  rw [hmark]
  dsimp only [Option.getD_none]
  rw [hopen]
  dsimp only
  rw [hdeclaration]
  dsimp only
  rw [List.length_cons, skipMisc_startTag hc]
  dsimp only
  rw [htype]
  rfl

/-- A written root is cut into its pieces, and nothing is left over. -/
theorem ofElement_print {t : Tag} {kids : List Node}
    (h : ∀ p ∈ (Node.element t kids).pieces, p.Legal) (indent : Nat) (glued : Bool) :
    ∃ cs, BeginsName cs ∧
      (printNode none indent glued (.element t kids)).toList = '<' :: cs ∧
      Lexeme.ofElement cs = .ok ((Node.element t kids).pieces.map Piece.lexeme, []) := by
  cases kids with
  | nil =>
      have ht : t.Legal := h (.startTag t true) List.mem_cons_self
      have hstart := startTag_chars ht true []
      refine ⟨t.chars ++ tagEnd true, beginsName_chars ht _, toList_printEmpty indent glued t, ?_⟩
      rw [List.append_nil] at hstart
      unfold Lexeme.ofElement
      rw [hstart]
      rfl
  | cons child children =>
      unfold Node.pieces at h ⊢
      obtain ⟨ht, h⟩ := List.forall_mem_cons.1 h
      obtain ⟨hkids, hend⟩ := List.forall_mem_append.1 h
      let inner := (printNodes none (indent + 1) false (child :: children)).toList
      let after := '<' :: '/' :: (t.name.lexical.toList ++ ['>'])
      have hstart := startTag_chars ht false (inner ++ after)
      obtain ⟨fuel, hfuel, hcut⟩ := cuts_nodes [] (child :: children) hkids (indent + 1) false 0
        (inner ++ after).length after rfl (by simp [inner])
      obtain ⟨fuel, rfl⟩ : ∃ n, fuel = n + 1 := ⟨fuel - 1, by simp [after] at hfuel; omega⟩
      have hlast : Lexeme.ofContent (fuel + 1) 0 after = .ok ([.endTag t.name.raw], []) := by
        have hname : t.name.Legal := hend _ List.mem_cons_self
        rw [Lexeme.ofContent, lexeme_endTag hname []]
        rfl
      refine ⟨t.chars ++ tagEnd false ++ (inner ++ after), ?_, ?_, ?_⟩
      · rw [List.append_assoc]
        exact beginsName_chars ht _
      · rw [toList_printParent]
        simp [inner, after]
      · unfold Lexeme.ofElement
        rw [List.append_assoc, hstart]
        dsimp only [bind, Except.bind, Piece.lexeme]
        rw [if_neg (by decide)]
        dsimp only
        have hinner : Lexeme.ofContent (inner ++ after).length 0 (inner ++ after) = _ := hcut
        rw [hinner, hlast]
        simp [Except.map, pure, Except.pure, Piece.lexeme]

end Documents

end XmlSchema.Xml
