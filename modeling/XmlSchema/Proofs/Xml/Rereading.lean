import XmlSchema.Proofs.Xml.Lexing
import XmlSchema.Proofs.Xml.Meaning

/-!
# Reading what was written

A document that can be spelled and whose names mean what they should is read
from its written form with the same information: the same elements with the
same names, the same attributes with the same values, the same comments, and the
same text.  Prefixes may change, and neighbouring texts become one.
-/

namespace XmlSchema.Xml

/-- What a node says. -/
inductive Info where
  | element (name : QName) (attributes : List (QName × String)) (children : List Info)
  | text (content : String)
  | comment (content : String)
  deriving Repr

namespace Info

/-- Put text in front of what follows it, as one text with the text at its
beginning. -/
def prependText (content : String) (rest : List Info) : List Info :=
  if content = "" then rest
  else
    match rest with
    | .text next :: more => .text (content ++ next) :: more
    | rest => .text content :: rest

theorem prependText_prependText (first second : String) (rest : List Info) :
    prependText first (prependText second rest) = prependText (first ++ second) rest := by
  unfold prependText
  by_cases hfirst : first = ""
  · rw [if_pos hfirst, hfirst, String.empty_append]
  · have hboth : first ++ second ≠ "" := fun h => hfirst (String.append_eq_empty_iff.1 h).1
    rw [if_neg hfirst, if_neg hboth]
    by_cases hsecond : second = ""
    · rw [if_pos hsecond, hsecond, String.append_empty]
    · rw [if_neg hsecond]
      cases rest with
      | nil => rfl
      | cons i rest =>
          cases i with
          | text next => simp [String.append_assoc]
          | _ => rfl

end Info

/-- The names and values of some attributes. -/
def Attribute.infos (as : List Attribute) : List (QName × String) :=
  as.map fun a => (a.name.toQName, a.value)

namespace Node

mutual

/-- The information of a node, in front of what follows it. -/
def info : Node → List Info → List Info
  | .text content, rest => Info.prependText content rest
  | .comment content, rest => .comment content :: rest
  | .element t children, rest =>
      .element t.name.toQName (Attribute.infos t.attributes) (infoIn children) :: rest

/-- The information of some nodes. -/
def infoIn : List Node → List Info
  | [] => []
  | node :: rest => info node (infoIn rest)

end

end Node

/-- The information of an element. -/
def Element.info (e : Element) : List Info := (Node.ofElement e).info []

namespace Attribute

/-- An attribute as it is read. -/
def read (a : Attribute) : ReadAttribute := ⟨a.name.raw, a.value⟩

end Attribute

namespace Piece

/-- A piece as it is read. -/
def event : Piece → Event
  | .startTag t closed =>
      .startTag t.name.raw (t.written.map Attribute.read) (if closed then .closed else .opened)
  | .endTag name => .endTag name.raw
  | .text content => .text content
  | .comment content => .comment content

end Piece

section Events

variable {n : Nesting}

theorem readAttributes_written (entities : List Entity) (depth : Nat) (hn : n.outermost)
    {as : List Attribute} (h : ∀ a ∈ as, a.Legal) :
    readAttributes entities depth n (as.map Attribute.raw) = .ok (as.map Attribute.read, n) := by
  induction as with
  | nil => rfl
  | cons a as ih =>
      obtain ⟨ha, has⟩ := List.forall_mem_cons.1 h
      have hvalue : readValue entities depth n a.raw.value = .ok (a.value.toList, n) :=
        readValue_escapeText entities depth hn (List.all_eq_true.1 ha.2)
      rw [List.map_cons, readAttributes, hvalue]
      dsimp only [bind, Except.bind]
      rw [ih has, String.ofList_toList]
      rfl

/-- The events of one lexeme. -/
def eventsOfLexeme (entities : List Entity) (depth : Nat)
    (inner : Nesting → String → Except Fault (List Event × Nesting)) (n : Nesting) :
    Lexeme → Except Fault (List Event × Nesting)
  | .startTag name attributes ending => do
      let (list, n) ← readAttributes entities depth n attributes
      pure ([Event.startTag name list ending], n)
  | .endTag name => pure ([Event.endTag name], n)
  | .text raw => do
      let chunks ← Chunk.ofText raw.length raw
      eventsOfChunks inner n [] false chunks
  | .cdata raw => pure ([Event.text (normaliseLines raw)], n)
  | .comment content => pure ([Event.comment content], n)
  | .instruction => pure ([Event.gap], n)

theorem eventsOfLexemes_cons (entities : List Entity) (depth : Nat)
    (inner : Nesting → String → Except Fault (List Event × Nesting)) (l : Lexeme)
    (rest : List Lexeme) :
    eventsOfLexemes entities depth inner n (l :: rest) = (do
      let (own, n) ← eventsOfLexeme entities depth inner n l
      let (more, n) ← eventsOfLexemes entities depth inner n rest
      return (own ++ more, n)) := by
  cases l with
  | startTag name attributes ending => exact (bind_assoc _ _ _).symm
  | text raw => exact (bind_assoc _ _ _).symm
  | _ => rfl

theorem eventsOfLexeme_piece (entities : List Entity) (depth : Nat)
    (inner : Nesting → String → Except Fault (List Event × Nesting)) (hn : n.outermost)
    {p : Piece} (h : p.Legal) :
    eventsOfLexeme entities depth inner n p.lexeme = .ok ([p.event], n) := by
  cases p with
  | startTag t closed =>
      have hattributes := readAttributes_written entities depth hn h.written
      unfold Piece.lexeme eventsOfLexeme
      dsimp only
      rw [hattributes]
      rfl
  | text content => exact eventsOfChunks_escapeText inner hn (List.all_eq_true.1 h.2) h.1
  | endTag name => rfl
  | comment content => rfl

/-- The pieces of a document are read one by one. -/
theorem eventsOfLexemes_pieces (entities : List Entity) (depth : Nat)
    (inner : Nesting → String → Except Fault (List Event × Nesting)) (hn : n.outermost)
    {ps : List Piece} (h : ∀ p ∈ ps, p.Legal) :
    eventsOfLexemes entities depth inner n (ps.map Piece.lexeme) =
      .ok (ps.map Piece.event, n) := by
  induction ps with
  | nil => rfl
  | cons p ps ih =>
      obtain ⟨hp, hps⟩ := List.forall_mem_cons.1 h
      have hrest := ih hps
      rw [List.map_cons, eventsOfLexemes_cons, eventsOfLexeme_piece entities depth inner hn hp]
      dsimp only [bind, Except.bind]
      rw [hrest]
      rfl

end Events

namespace InScope

variable {scope : InScope} {m : Meaning}

/-- What an element declares comes before what its parent sees. -/
theorem lookup?_extend (own parent : InScope) (pfx : String) :
    (extend own parent).lookup? pfx = (own.lookup? pfx <|> parent.lookup? pfx) := by
  have hfold : ∀ seen : InScope,
      (parent.foldl (fun seen b => if seen.any (·.1 == b.1) then seen else seen ++ [b])
        seen).lookup? pfx = (seen.lookup? pfx <|> parent.lookup? pfx) := by
    intro seen
    unfold InScope.lookup?
    induction parent generalizing seen with
    | nil =>
        rw [List.foldl_nil]
        cases List.lookup pfx seen <;> rfl
    | cons b parent ih =>
        obtain ⟨q, uri⟩ := b
        rw [List.foldl_cons, ih, Bindings.lookup_cons_eq]
        cases hany : seen.any (·.1 == q) with
        | true =>
            rw [if_pos rfl]
            by_cases hq : pfx = q
            · -- the binding is hidden by an earlier one
              have hsome : List.lookup pfx seen ≠ none := by
                rw [ne_eq, List.lookup_eq_none_iff]
                obtain ⟨p, hp, heq⟩ := List.any_eq_true.1 hany
                exact fun hnone => by simpa [hq, beq_iff_eq.1 heq] using hnone p hp
              obtain ⟨found, hfound⟩ := Option.ne_none_iff_exists'.1 hsome
              rw [hfound]
              rfl
            · rw [if_neg hq]
        | false =>
            rw [if_neg nofun, List.lookup_append, Bindings.lookup_cons_eq]
            by_cases hq : pfx = q
            · rw [if_pos hq, if_pos hq]
              cases List.lookup pfx seen <;> rfl
            · rw [if_neg hq, if_neg hq]
              cases List.lookup pfx seen <;> rfl
  unfold extend
  split
  · rename_i hempty
    obtain rfl := List.isEmpty_iff.1 hempty
    rfl
  · exact hfold own

/-- A scope binds what a meaning says; `xml` is bound in every document. -/
structure Agrees (scope : InScope) (m : Meaning) : Prop where
  lookup : ∀ pfx, pfx ≠ "xml" → scope.lookup? pfx = m pfx
  xml : m "xml" = some xmlNamespace

theorem agrees_outermost : Agrees [] Meaning.outermost where
  lookup pfx hpfx := by
    unfold Meaning.outermost
    rw [if_neg hpfx]
    rfl
  xml := rfl

theorem Agrees.enter (h : scope.Agrees m) {b : Bindings}
    (hb : ∀ p ∈ b.toList, p.1 ≠ "xml") : (extend b.toList scope).Agrees (m.enter b) where
  lookup pfx hpfx := by
    rw [lookup?_extend, h.lookup pfx hpfx]
    rfl
  xml := by
    have hnone : b.lookup? "xml" = none :=
      List.lookup_eq_none_iff.2 fun p hp => by simpa using Ne.symm (hb p hp)
    unfold Meaning.enter
    rw [hnone, h.xml]
    rfl

theorem toQName_keep_some (uri localName : String) :
    (scope.keep (some uri) localName).toQName = ⟨uri, localName⟩ := by
  unfold keep Name.toQName Name.namespaceName Name.withPrefix Name.make
  by_cases huri : uri = "" <;> simp [Option.filter, huri]

theorem toQName_keep_none (localName : String) :
    (scope.keep none localName).toQName = ⟨"", localName⟩ := rfl

theorem elementUri_raw (h : scope.Agrees m) {name : Name} (hname : name.Denoted m false)
    (hxml : name.pfx ≠ some "xml") :
    ∃ uri, scope.elementUri name.raw = .ok uri ∧
      (scope.keep uri name.localName).toQName = name.toQName := by
  unfold elementUri Name.raw
  unfold Name.Denoted at hname
  cases hp : name.pfx with
  | none =>
      rw [hp] at hname
      dsimp only [Option.getD_none] at hname ⊢
      rw [h.lookup "" (by decide)]
      cases hdefault : m "" with
      | none =>
          rw [hdefault] at hname
          refine ⟨none, rfl, ?_⟩
          rw [toQName_keep_none, Name.toQName, ← hname]
          rfl
      | some uri =>
          rw [hdefault] at hname
          refine ⟨some uri, rfl, ?_⟩
          rw [toQName_keep_some, Name.toQName, ← hname]
          rfl
  | some pfx =>
      rw [hp] at hname
      have hne : pfx ≠ "xml" := fun heq => hxml (by rw [hp, heq])
      dsimp only [Option.getD_some] at hname ⊢
      rw [h.lookup pfx hne, hname]
      refine ⟨some name.namespaceName, rfl, ?_⟩
      rw [toQName_keep_some, Name.toQName]

theorem attributeUri_raw (h : scope.Agrees m) {a : Attribute} (ha : a.Legal)
    (hname : a.name.Denoted m true) :
    scope.attributeUri a.name.raw = .ok a.key.1 ∧
      (scope.keep a.key.1 a.name.localName).toQName = a.name.toQName := by
  unfold attributeUri Attribute.key Name.raw
  unfold Name.Denoted at hname
  cases hp : a.name.pfx with
  | none =>
      rw [hp] at hname
      refine ⟨rfl, ?_⟩
      dsimp only at hname
      rw [Option.map_none, toQName_keep_none, Name.toQName, hname]
  | some pfx =>
      rw [hp] at hname
      dsimp only [Option.getD_some, Option.map_some] at hname ⊢
      refine ⟨?_, ?_⟩
      · by_cases hxml : pfx = "xml"
        · rw [if_pos hxml]
          rw [hxml, h.xml, Option.some.injEq] at hname
          rw [hname]
        · have hempty : ¬ pfx.isEmpty = true := by
            have hne := ne_nil_of_isWord (ha.1.2 pfx (by rw [hp]; rfl))
            simpa using hne
          rw [if_neg hxml, if_neg hempty]
          unfold elementUri
          dsimp only
          rw [h.lookup pfx hxml, hname]
      · rw [toQName_keep_some, Name.toQName]

/-- The attributes of a tag are read with their names and values. -/
theorem attributes_read (h : scope.Agrees m) {as : List Attribute} (hlegal : ∀ a ∈ as, a.Legal)
    (hnames : ∀ a ∈ as, a.name.Denoted m true) (seen : List (Option String × String))
    (hdistinct : (as.map Attribute.key).Nodup)
    (hseen : ∀ a ∈ as, a.key ∉ seen) :
    ∃ bs, scope.attributes (as.map Attribute.read) seen = .ok bs ∧
      Attribute.infos bs = Attribute.infos as := by
  induction as generalizing seen with
  | nil => exact ⟨[], rfl, rfl⟩
  | cons a as ih =>
      obtain ⟨ha, has⟩ := List.forall_mem_cons.1 hlegal
      obtain ⟨hname, hnames⟩ := List.forall_mem_cons.1 hnames
      obtain ⟨hnew, hseen⟩ := List.forall_mem_cons.1 hseen
      rw [List.map_cons, List.nodup_cons] at hdistinct
      obtain ⟨bs, hbs, hinfos⟩ := ih has hnames (a.key :: seen) hdistinct.2 (by
        intro b hb hmem
        rcases List.mem_cons.1 hmem with heq | hmem
        · exact hdistinct.1 (heq ▸ List.mem_map_of_mem hb)
        · exact hseen b hb hmem)
      obtain ⟨huri, hkeep⟩ := attributeUri_raw h ha hname
      refine ⟨⟨scope.keep a.key.1 a.name.localName, a.value⟩ :: bs, ?_, ?_⟩
      · have hkey : (a.key.1, a.name.localName) = a.key := rfl
        show (do
          let uri ← scope.attributeUri a.name.raw
          if seen.contains (uri, a.name.localName) then
            throw (.duplicateAttribute a.name.raw.text)
          let more ← scope.attributes (as.map Attribute.read) ((uri, a.name.localName) :: seen)
          return ⟨scope.keep uri a.name.localName, a.value⟩ :: more :
            Except Fault (List Attribute)) = _
        rw [huri]
        dsimp only [bind, Except.bind]
        rw [hkey, if_neg (by simpa using hnew), hbs]
        rfl
      · have hfirst : Attribute.infos (⟨scope.keep a.key.1 a.name.localName, a.value⟩ :: bs) =
            ((scope.keep a.key.1 a.name.localName).toQName, a.value) :: Attribute.infos bs := rfl
        rw [hfirst, hkeep, hinfos]
        rfl

end InScope

theorem Name.pfx_raw_ne {name : Name} (h : name.pfx ≠ some "xmlns") : name.raw.pfx ≠ "xmlns" := by
  unfold Name.raw
  cases hp : name.pfx with
  | none => exact (by decide : "" ≠ "xmlns")
  | some pfx => exact fun heq => h (hp.trans (congrArg some heq))

namespace Pending

theorem add_binding {p : Pending} {b : String × String}
    (hb : b.1 ≠ "xml" ∧ b.2 ∉ [xmlNamespace, InScope.declarationNamespace])
    (hnew : b.1 ∉ p.bindings.map Prod.fst) :
    p.add (Attribute.ofBinding b).read = .ok { p with bindings := p.bindings ++ [b] } := by
  obtain ⟨pfx, uri⟩ := b
  have hxml : pfx ≠ "xml" := hb.1
  have huri : uri ∉ [xmlNamespace, InScope.declarationNamespace] := hb.2
  simp only [List.mem_cons, List.not_mem_nil, or_false, not_or] at huri
  unfold Pending.add Attribute.ofBinding Attribute.read Name.raw
  by_cases hempty : pfx = ""
  · subst hempty
    simp [huri.1, huri.2]
  · have hreserved : (pfx == "xml") = (uri == xmlNamespace) := by
      rw [beq_false_of_ne hxml, beq_false_of_ne huri.1]
    have hany : p.bindings.any (·.1 == pfx) = false := by
      rw [List.any_eq_false]
      intro q hq heq
      have hmem : q.1 ∈ p.bindings.map Prod.fst := List.mem_map_of_mem hq
      exact hnew (beq_iff_eq.1 heq ▸ hmem)
    simp [hempty, hreserved, huri.1, huri.2, hany]

theorem add_attribute {p : Pending} {a : Attribute}
    (ha : a.name.pfx ≠ some "xmlns" ∧ a.name.localName ≠ "xmlns") :
    p.add a.read = .ok { p with attributes := p.attributes ++ [a.read] } := by
  have hlocal : a.name.raw.localName ≠ "xmlns" := ha.2
  unfold Pending.add Attribute.read
  dsimp only
  rw [if_neg (Name.pfx_raw_ne ha.1), if_neg hlocal]

/-- What is written as attributes of a tag waits for it again. -/
theorem foldlM_add_written {t : Tag} (h : t.Legal) :
    (t.written.map Attribute.read).foldlM Pending.add {} =
      .ok ⟨t.declared.toList, t.attributes.map Attribute.read⟩ := by
  have hbindings : ∀ (bs : List (String × String)) (p : Pending),
      (∀ b ∈ bs, b.1 ≠ "xml" ∧ b.2 ∉ [xmlNamespace, InScope.declarationNamespace]) →
      ((p.bindings ++ bs).map Prod.fst).Nodup →
      ((bs.map Attribute.ofBinding).map Attribute.read).foldlM Pending.add p =
        .ok { p with bindings := p.bindings ++ bs } := by
    intro bs
    induction bs with
    | nil =>
        intro p _ _
        rw [List.append_nil]
        rfl
    | cons b bs ih =>
        intro p hbs hnodup
        obtain ⟨hb, hbs⟩ := List.forall_mem_cons.1 hbs
        have hnew : b.1 ∉ p.bindings.map Prod.fst := by
          rw [List.map_append, List.nodup_append] at hnodup
          exact fun hmem => hnodup.2.2 _ hmem _ List.mem_cons_self rfl
        rw [List.map_cons, List.map_cons, List.foldlM_cons, add_binding hb hnew]
        have hrest := ih { p with bindings := p.bindings ++ [b] } hbs (by simpa using hnodup)
        dsimp only [bind, Except.bind]
        rw [hrest]
        simp
  have hattributes : ∀ (as : List Attribute) (p : Pending),
      (∀ a ∈ as, a.name.pfx ≠ some "xmlns" ∧ a.name.localName ≠ "xmlns") →
      (as.map Attribute.read).foldlM Pending.add p =
        .ok { p with attributes := p.attributes ++ as.map Attribute.read } := by
    intro as
    induction as with
    | nil =>
        intro p _
        rw [List.map_nil, List.append_nil]
        rfl
    | cons a as ih =>
        intro p has
        obtain ⟨ha, has⟩ := List.forall_mem_cons.1 has
        rw [List.map_cons, List.foldlM_cons, add_attribute ha]
        dsimp only [bind, Except.bind]
        rw [ih _ has]
        simp
  unfold Tag.written
  rw [List.map_append, List.foldlM_append, hbindings _ {} h.bindings (by simpa using h.prefixes)]
  dsimp only [bind, Except.bind]
  rw [hattributes _ _ h.attributes]
  rfl

end Pending

section Tree

variable {m : Meaning} {parent : InScope}

/-- An element is begun as it was written: it sees what it should, and its tag
has the same name and attributes. -/
structure Begun (t : Tag) (m : Meaning) (e : OpenElement) : Prop where
  name : e.name = t.name.raw
  scope : e.scope.Agrees m
  children : e.children = []
  glued : e.glued = false
  tagName : e.tag.name.toQName = t.name.toQName
  attributes : Attribute.infos e.tag.attributes = Attribute.infos t.attributes

theorem start_written {t : Tag} (h : t.Legal) (hparent : parent.Agrees m)
    (hnames : t.EveryName (fun m isAttribute name => name.Denoted m isAttribute)
      (m.enter t.declared)) :
    ∃ e, OpenElement.start t.name.raw ⟨t.declared.toList, t.attributes.map Attribute.read⟩ parent =
      .ok e ∧ Begun t (m.enter t.declared) e := by
  have hpfx := h.pfx
  simp only [List.mem_cons, List.not_mem_nil, or_false, not_or] at hpfx
  have hscope : (InScope.extend t.declared.toList parent).Agrees (m.enter t.declared) :=
    hparent.enter fun b hb => (h.bindings b hb).1
  obtain ⟨bs, hbs, hinfos⟩ := InScope.attributes_read hscope
    (fun a ha => h.written a (List.mem_append_right _ ha)) hnames.2 [] h.distinct
    fun _ _ => List.not_mem_nil
  obtain ⟨uri, huri, hkeep⟩ := InScope.elementUri_raw hscope hnames.1 hpfx.1
  let scope := InScope.extend t.declared.toList parent
  let tag : Tag :=
    { name := scope.keep uri t.name.localName, declared := scope.fresh parent, attributes := bs }
  refine ⟨{ name := t.name.raw, tag, scope }, ?_, rfl, hscope, rfl, rfl, hkeep, hinfos⟩
  unfold OpenElement.start Pending.resolve
  dsimp only [bind, Except.bind]
  rw [hbs]
  dsimp only [pure, Except.pure]
  rw [huri]
  rfl

theorem step_startTag {t : Tag} (h : t.Legal) {d : OpenDocument} (hscope : d.scope.Agrees m)
    (hpending : d.pending = {}) (closed : Bool)
    (hnames : t.EveryName (fun m isAttribute name => name.Denoted m isAttribute)
      (m.enter t.declared)) :
    ∃ e, Begun t (m.enter t.declared) e ∧
      d.step (Piece.startTag t closed).event =
        .ok (if closed then d.close e.finish else { d with stack := e :: d.stack }) := by
  obtain ⟨stack, root, pending⟩ := d
  obtain rfl : pending = {} := hpending
  have hpfx : t.name.raw.pfx ≠ "xmlns" :=
    Name.pfx_raw_ne fun heq => h.pfx (by rw [heq]; decide)
  obtain ⟨e, hstart, hbegun⟩ := start_written h hscope hnames
  refine ⟨e, hbegun, ?_⟩
  unfold Piece.event OpenDocument.step
  dsimp only [bind, Except.bind]
  rw [if_neg hpfx]
  dsimp only [pure, Except.pure]
  rw [Pending.foldlM_add_written h]
  cases closed with
  | true =>
      dsimp only
      rw [if_pos rfl]
      dsimp only
      rw [hstart]
      cases stack <;> rfl
  | false =>
      dsimp only
      rw [if_neg Bool.false_ne_true]
      dsimp only
      rw [hstart]
      rfl

theorem step_endTag {e : OpenElement} {outer : List OpenElement} {root : Option Element} :
    OpenDocument.step ⟨e :: outer, root, {}⟩ (.endTag e.name) =
      .ok (OpenDocument.close ⟨outer, root, {}⟩ e.finish) := by
  unfold OpenDocument.step
  dsimp only [bind, Except.bind]
  simp [Pending.resolve, InScope.attributes, bind, Except.bind, pure, Except.pure]

/-- An element with more children; `glued` says whether text may join the last
of them. -/
def OpenElement.gain (e : OpenElement) (kids : List Node) (glued : Bool) : OpenElement :=
  { e with children := kids.reverse ++ e.children, glued }

theorem OpenElement.gain_gain (e : OpenElement) (kids more : List Node) (glued glued' : Bool) :
    (e.gain kids glued).gain more glued' = e.gain (kids ++ more) glued' := by
  simp [OpenElement.gain, List.append_assoc]

theorem OpenElement.pushText_eq_gain {e : OpenElement} (h : e.glued = false) (content : String) :
    e.pushText content = e.gain [.text content] true := by
  unfold OpenElement.pushText
  rw [h]
  rfl

variable {e : OpenElement} {outer : List OpenElement} {root : Option Element}

theorem Begun.info_finish {t : Tag} (h : Begun t m e) {kids nodes : List Node} {glued : Bool}
    (hinfo : Node.infoIn kids = Node.infoIn nodes) :
    Node.info (Node.ofElement (e.gain kids glued).finish) = Node.info (.element t nodes) := by
  funext rest
  unfold OpenElement.finish OpenElement.gain Node.ofElement
  dsimp only
  rw [h.children, List.append_nil, List.reverse_reverse, Node.info, Node.info, h.tagName,
    h.attributes, hinfo]

/-- The text between two other pieces becomes one child, if there is any. -/
theorem steps_text (h : e.glued = false) (content : List Char) :
    ∃ kids glued,
      ((Piece.ofText content).map Piece.event).foldlM OpenDocument.step ⟨e :: outer, root, {}⟩ =
        .ok ⟨e.gain kids glued :: outer, root, {}⟩ ∧
      ∀ rest, Node.infoIn (kids ++ rest) =
        Info.prependText (String.ofList content) (Node.infoIn rest) := by
  unfold Piece.ofText
  by_cases hempty : content = []
  · subst hempty
    exact ⟨[], e.glued, rfl, fun _ => rfl⟩
  · rw [if_neg (by simpa using hempty)]
    refine ⟨[.text (String.ofList content)], true, ?_, fun rest => ?_⟩
    · rw [← OpenElement.pushText_eq_gain h]
      rfl
    · simp only [List.cons_append, List.nil_append, Node.infoIn, Node.info]

/-- Text, then one child, then more of them. -/
theorem steps_between (hglued : e.glued = false) (before : List Char) {events more : List Event}
    {node : Node} {infos : List Info}
    (hnode : ∀ e' : OpenElement, e'.scope = e.scope → ∃ child,
      events.foldlM OpenDocument.step ⟨e' :: outer, root, {}⟩ =
        .ok ⟨e'.push child :: outer, root, {}⟩ ∧ Node.info child = Node.info node)
    (hmore : ∀ e' : OpenElement, e'.scope = e.scope → e'.glued = false → ∃ kids glued,
      more.foldlM OpenDocument.step ⟨e' :: outer, root, {}⟩ =
        .ok ⟨e'.gain kids glued :: outer, root, {}⟩ ∧ Node.infoIn kids = infos) :
    ∃ kids glued,
      ((Piece.ofText before).map Piece.event ++ (events ++ more)).foldlM OpenDocument.step
        ⟨e :: outer, root, {}⟩ = .ok ⟨e.gain kids glued :: outer, root, {}⟩ ∧
      Node.infoIn kids = Info.prependText (String.ofList before) (Node.info node infos) := by
  obtain ⟨texts, glued, htexts, htext⟩ := steps_text hglued before
  obtain ⟨child, hchild, hinfo⟩ := hnode (e.gain texts glued) rfl
  obtain ⟨kids, glued', hkids, hinfos⟩ := hmore ((e.gain texts glued).push child) rfl rfl
  have hgain : ((e.gain texts glued).push child).gain kids glued' =
      e.gain (texts ++ child :: kids) glued' := by
    rw [show (e.gain texts glued).push child = (e.gain texts glued).gain [child] false from rfl,
      OpenElement.gain_gain, OpenElement.gain_gain]
    rfl
  refine ⟨texts ++ child :: kids, glued', ?_, ?_⟩
  · rw [List.foldlM_append, htexts]
    dsimp only [bind, Except.bind]
    rw [List.foldlM_append, hchild]
    dsimp only [bind, Except.bind]
    rw [hkids, hgain]
  · rw [htext, Node.infoIn, hinfo, hinfos]

mutual

/-- The pieces of an element become one element with its information. -/
theorem steps_element : ∀ (t : Tag) (kids : List Node) {m : Meaning} (d : OpenDocument),
    (∀ p ∈ (Node.element t kids).pieces, p.Legal) →
    (Node.element t kids).EveryName (fun m isAttribute name => name.Denoted m isAttribute) m →
    d.scope.Agrees m → d.pending = {} →
    ∃ e, ((Node.element t kids).pieces.map Piece.event).foldlM OpenDocument.step d =
        .ok (d.close e) ∧
      Node.info (Node.ofElement e) = Node.info (.element t kids)
  | t, [], m, d, h, hnames, hscope, hpending => by
      unfold Node.EveryName at hnames
      have ht : t.Legal := h (.startTag t true) List.mem_cons_self
      obtain ⟨e, hbegun, hstep⟩ := step_startTag ht hscope hpending true hnames.1
      refine ⟨(e.gain [] false).finish, ?_, hbegun.info_finish rfl⟩
      unfold Node.pieces
      rw [List.map_cons, List.foldlM_cons, hstep]
      rfl
  | t, child :: children, m, d, h, hnames, hscope, hpending => by
      unfold Node.EveryName at hnames
      unfold Node.pieces at h ⊢
      obtain ⟨ht, h⟩ := List.forall_mem_cons.1 h
      obtain ⟨hkids, -⟩ := List.forall_mem_append.1 h
      obtain ⟨e, hbegun, hstep⟩ := step_startTag ht hscope hpending false hnames.1
      obtain ⟨kids, glued, hsteps, hinfo⟩ := steps_nodes [] (child :: children) e d.stack d.root
        hkids hnames.2 hbegun.scope hbegun.glued
      refine ⟨(e.gain kids glued).finish, ?_, hbegun.info_finish hinfo⟩
      obtain ⟨stack, root, pending⟩ := d
      obtain rfl : pending = {} := hpending
      have hname : (e.gain kids glued).name = t.name.raw := hbegun.name
      rw [List.map_cons, List.foldlM_cons, hstep, if_neg Bool.false_ne_true]
      dsimp only [bind, Except.bind]
      rw [List.map_append, List.foldlM_append, hsteps]
      dsimp only [bind, Except.bind]
      rw [List.map_singleton, List.foldlM_cons, Piece.event, ← hname, step_endTag]
      rfl

/-- The pieces of some nodes become children with their information. -/
theorem steps_nodes : ∀ (before : List Char) (nodes : List Node) {m : Meaning}
    (e : OpenElement) (outer : List OpenElement) (root : Option Element),
    (∀ p ∈ Node.piecesIn before nodes, p.Legal) →
    Node.EveryNameIn (fun m isAttribute name => name.Denoted m isAttribute) m nodes →
    e.scope.Agrees m → e.glued = false →
    ∃ kids glued,
      ((Node.piecesIn before nodes).map Piece.event).foldlM OpenDocument.step
        ⟨e :: outer, root, {}⟩ = .ok ⟨e.gain kids glued :: outer, root, {}⟩ ∧
      Node.infoIn kids = Info.prependText (String.ofList before) (Node.infoIn nodes)
  | before, [], m, e, outer, root, h, hnames, hscope, hglued => by
      obtain ⟨kids, glued, hsteps, hinfo⟩ := steps_text hglued before
      refine ⟨kids, glued, ?_, ?_⟩
      · unfold Node.piecesIn
        exact hsteps
      · rw [← List.append_nil kids, hinfo]
  | before, .text content :: rest, m, e, outer, root, h, hnames, hscope, hglued => by
      unfold Node.piecesIn at h ⊢
      unfold Node.EveryNameIn at hnames
      obtain ⟨kids, glued, hsteps, hinfo⟩ :=
        steps_nodes (before ++ content.toList) rest e outer root h hnames.2 hscope hglued
      refine ⟨kids, glued, hsteps, ?_⟩
      rw [hinfo, String.ofList_append, String.ofList_toList, ← Info.prependText_prependText,
        Node.infoIn, Node.info]
  | before, .comment content :: rest, m, e, outer, root, h, hnames, hscope, hglued => by
      unfold Node.piecesIn at h ⊢
      unfold Node.EveryNameIn at hnames
      obtain ⟨-, hrest⟩ := List.forall_mem_append.1 (List.forall_mem_append.1 h).2
      rw [Node.infoIn, List.map_append, List.map_append]
      refine steps_between hglued before (fun e' _ => ?_) fun e' hscope' hglued' => ?_
      · refine ⟨.comment content, ?_, rfl⟩
        have hpush : e'.push (.comment (String.ofList content.toList)) =
            e'.push (.comment content) := by rw [String.ofList_toList]
        rw [← hpush, Node.pieces]
        rfl
      · exact steps_nodes [] rest e' outer root hrest hnames.2 (hscope' ▸ hscope) hglued'
  | before, .element t kids :: rest, m, e, outer, root, h, hnames, hscope, hglued => by
      unfold Node.piecesIn at h ⊢
      unfold Node.EveryNameIn at hnames
      obtain ⟨helement, hrest⟩ := List.forall_mem_append.1 (List.forall_mem_append.1 h).2
      rw [Node.infoIn, List.map_append, List.map_append]
      refine steps_between hglued before (fun e' hscope' => ?_) fun e' hscope' hglued' => ?_
      · have hinner : e'.scope.Agrees m := hscope' ▸ hscope
        obtain ⟨child, hchild, hinfo⟩ :=
          steps_element t kids ⟨e' :: outer, root, {}⟩ helement hnames.1 hinner rfl
        exact ⟨Node.ofElement child, hchild, hinfo⟩
      · exact steps_nodes [] rest e' outer root hrest hnames.2 (hscope' ▸ hscope) hglued'

end

end Tree

namespace Element

instance (e : Element) : Decidable e.Consistent := Node.decideEveryName _ _ _

/-- Writing a document and reading it again loses nothing, when the document can
be spelled and each of its names means the namespace that it has.  An attribute
without a prefix that is in a namespace, or a value with a line break in it, does
not come back. -/
theorem parse_print {e : Element} (hlegal : e.Legal) (hconsistent : e.Consistent) :
    ∃ e', Element.parse (e.print none) = .ok e' ∧ e'.info = e.info := by
  obtain ⟨t, kids⟩ := e
  have hpieces : ∀ p ∈ (Node.element t kids).pieces, p.Legal := hlegal
  obtain ⟨cs, hname, hprint, hlexemes⟩ := ofElement_print hpieces 0 false
  obtain ⟨e', hsteps, hinfo⟩ := steps_element t kids {} hpieces hconsistent
    InScope.agrees_outermost rfl
  have hdocument : (Element.print ⟨t, kids⟩ none).toList = declaration.toList ++ '<' :: cs := by
    rw [← hprint]
    exact String.toList_append
  have hevents : Event.ofLexemes [] ((Node.element t kids).pieces.map Piece.lexeme) =
      .ok ((Node.element t kids).pieces.map Piece.event) := by
    unfold Event.ofLexemes
    rw [eventsOfLexemes_pieces [] entityDepth _ rfl hpieces]
    rfl
  have hroot : Element.ofEvents ((Node.element t kids).pieces.map Piece.event) = .ok e' := by
    unfold Element.ofEvents
    rw [hsteps]
    rfl
  refine ⟨e', ?_, congrFun hinfo []⟩
  unfold Element.parse
  rw [hdocument, read_declaration hname]
  show (Lexeme.ofElement cs >>= fun p => do
    let rest ← Prolog.skipMisc p.2.length p.2
    if !rest.isEmpty then throw .strayText
    Element.ofEvents (← Event.ofLexemes [] p.1) : Except Fault Element) = _
  rw [hlexemes]
  show (do Element.ofEvents (← Event.ofLexemes [] _) : Except Fault Element) = _
  rw [hevents]
  exact hroot

/-- A document with markup in its values and text between its elements. -/
def withMarkup : String :=
  "<e xmlns='urn:u' xmlns:p='urn:p' p:x='a&lt;b'>1 &amp; 2<!--note--><p:f x='&quot;'/>3</e>"

theorem parse_print_withMarkup :
    ∃ e e', Element.parse withMarkup = .ok e ∧ e.Legal ∧ e.Consistent ∧
      Element.parse (e.print none) = .ok e' ∧ e'.info = e.info := by
  have hevaluated : (Element.parse withMarkup).toOption.map
      (fun e => decide (e.Legal ∧ e.Consistent)) = some true := by decide +kernel
  cases hparse : Element.parse withMarkup with
  | error fault =>
      rw [hparse] at hevaluated
      cases hevaluated
  | ok e =>
      rw [hparse] at hevaluated
      obtain ⟨hlegal, hconsistent⟩ := of_decide_eq_true (Option.some.inj hevaluated)
      obtain ⟨e', hread, hinfo⟩ := parse_print hlegal hconsistent
      exact ⟨e, e', rfl, hlegal, hconsistent, hread, hinfo⟩

end Element

end XmlSchema.Xml
