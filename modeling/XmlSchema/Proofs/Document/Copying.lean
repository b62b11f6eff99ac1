import XmlSchema.Proofs.Document.Allocation
import XmlSchema.Proofs.Document.Copies
import XmlSchema.Proofs.Document.Declarations
import XmlSchema.Proofs.Document.Spelling

/-!
# What is written is a copy of what it is written for

Every construct is written in such a way that it is read as a copy of itself.
The prefixes of a document must not contain blanks, since tokens are trimmed of
blanks of all kinds; those that the document is given are the ones that its
source has recorded, or made of letters and digits.
-/

namespace XmlSchema

open Attempt

namespace PrefixTable

/-- A table from which tokens can be read back: no prefix has a blank or a colon
in it, and only names in no namespace go without a prefix. -/
structure Legible (t : PrefixTable) : Prop where
  sound : t.Sound
  unprefixed : t.unprefixed = none
  recorded : ∀ pfx ∈ t.recorded.keys, Text.Plain pfx
  declared : ∀ pfx ∈ t.declared.keys, Text.Plain pfx

variable {t : PrefixTable}

theorem plain_tried {stem : String} (h : Text.Plain stem) (k : Nat) :
    Text.Plain (tried stem k) := by
  unfold tried
  split
  · exact h
  · intro c hc
    rw [String.toList_append, List.mem_append] at hc
    exact hc.elim (h c) (Occurs.plain_toString k c)

theorem Legible.declare (h : t.Legible) (uri : String) : (t.declare uri).2.Legible := by
  refine ⟨(declare_declares h.sound uri).sound, ?_, ?_, ?_⟩
  · unfold PrefixTable.declare
    split
    · exact h.unprefixed
    · split <;> exact h.unprefixed
  · rw [(declare_declares h.sound uri).onward.recorded]
    exact h.recorded
  · unfold PrefixTable.declare
    split
    · exact h.declared
    · split
      · exact h.declared
      · -- the prefix has been recorded or it is a fresh one
        have hplain : Text.Plain ((t.recorded? uri).getD (t.fresh (t.stemOf uri))) := by
          cases hrecorded : t.recorded? uri with
          | some pfx =>
              have hknown := (Option.filter_eq_some_iff.1 hrecorded).1
              exact h.recorded pfx (Bindings.mem_keys (Bindings.mem_of_prefixOf? hknown).1)
          | none =>
              obtain ⟨k, hk, -⟩ := t.fresh_first (t.stemOf uri)
              rw [Option.getD_none, hk]
              refine plain_tried ?_ k
              unfold stemOf
              split
              · decide
              · split <;> decide
        have hfresh := t.chosen_fresh uri
        simp only [List.mem_cons, not_or] at hfresh
        intro pfx hpfx
        dsimp only at hpfx
        rw [Bindings.keys_declare_of_not_mem hfresh.2.2, List.mem_append, List.mem_singleton]
          at hpfx
        rcases hpfx with hpfx | rfl
        · exact h.declared pfx hpfx
        · exact hplain

theorem Legible.token (h : t.Legible) (name : QName) : (t.token name).2.Legible := by
  show (t.next (.token name)).Legible
  rcases t.next_cases (.token name) with heq | heq <;> rw [heq]
  · exact h
  · exact h.declare _

end PrefixTable

/-- A token stands for a name, and there is nothing in it to be trimmed. -/
structure Context.Spells (cx : Context) (scope : Scope) (token : String) (name : QName) :
    Prop where
  resolve : cx.resolve scope token = .ok name
  unblank : ∀ c ∈ token.toList, Text.isBlank c = false
  ne_empty : name.localName ≠ "" → token ≠ ""

namespace Writer

open Xml Reader

variable {α β : Type} {Q R : Meaning → α → Prop}

/-- A step of writing keeps the table legible and takes no prefix back, and what
comes of it has a property at the prefixes that it leaves behind. -/
def Delivers (m : Writer α) (Q : Meaning → α → Prop) : Prop :=
  ∀ s : WriterState, s.prefixes.Legible →
    Ends m s (fun a s' => s'.prefixes.Legible ∧
      s.prefixes.meaning.Within s'.prefixes.meaning ∧ Q s'.prefixes.meaning a) fun _ _ => True

theorem delivers_pure {a : α} (h : ∀ outer, Q outer a) : Delivers (pure a) Q :=
  fun s hs => ⟨hs, .refl _, h s.prefixes.meaning⟩

theorem delivers_throw (e : SchemaError) : Delivers (throw e) Q := fun _ _ => trivial

theorem Delivers.bind {m : Writer β} {f : β → Writer α} {P : Spelling β} (h : Delivers m P.Holds)
    (hf : ∀ b, Delivers (f b) fun outer a => P.Holds outer b → Q outer a) :
    Delivers (m >>= f) Q := by
  intro s hs
  refine (h s hs).bind fun b t ⟨ht, hwithin, hb⟩ => ?_
  refine (hf b t ht).mono ?_ fun _ _ h => h
  intro a u ⟨hu, hwithin', ha⟩
  exact ⟨hu, hwithin.trans hwithin', ha (P.mono hwithin' hb)⟩

theorem Delivers.mono {m : Writer α} (h : Delivers m Q) (hQ : ∀ outer a, Q outer a → R outer a) :
    Delivers m R :=
  fun s hs => (h s hs).mono (fun _ _ ⟨ht, hwithin, ha⟩ => ⟨ht, hwithin, hQ _ _ ha⟩) fun _ _ h => h

theorem Delivers.map {m : Writer β} {f : β → α} (h : Delivers m fun outer b => Q outer (f b)) :
    Delivers (m >>= fun b => pure (f b)) Q := by
  intro s hs
  exact (h s hs).bind fun b t hb => hb

/-- What comes of a step does not matter to what is written afterwards. -/
theorem Delivers.after {m : Writer β} {f : β → Writer α} (h : Delivers m Spelling.any.Holds)
    (hf : ∀ b, Delivers (f b) Q) : Delivers (m >>= f) Q :=
  h.bind fun b => (hf b).mono fun _ _ ha _ => ha

end Writer

namespace Spelling

open Xml Reader

/-- A property that has nothing to do with prefixes. -/
def fixed {α : Type} (P : α → Prop) : Spelling α := ⟨fun _ a => P a, fun _ h => h⟩

/-- A token is read as a name, if it can be. -/
def name (cx : Context) (name : QName) : Spelling String where
  Holds outer token := Text.Plain name.localName →
    ∀ scope : Scope, scope.Serves outer → cx.Spells scope token name
  mono hw h hname scope hscope := h hname scope (hscope.of_within hw)

/-- So is a token that may be absent. -/
def name? (cx : Context) (name : Option QName) : Spelling (Option String) where
  Holds outer token := (∀ n, name = some n → Text.Plain n.localName) →
    ∀ scope : Scope, scope.Serves outer → cx.resolve? scope token = .ok name
  mono hw h hname scope hscope := h hname scope (hscope.of_within hw)

theorem name?_some {outer : Meaning} {n : QName} {token : String}
    (h : (name cx n).Holds outer token) : (name? cx (some n)).Holds outer (some token) := by
  intro hname scope hscope
  show (cx.resolve scope token).map some = .ok (some n)
  rw [(h (hname n rfl) scope hscope).resolve]
  rfl

/-- Tokens are read as names, and they can be told apart when they are joined. -/
def names (cx : Context) (names : List QName) : Spelling (List String) where
  Holds outer tokens := (∀ n ∈ names, Text.Plain n.localName ∧ n.localName ≠ "") →
    ∀ scope : Scope, scope.Serves outer →
      (∀ token ∈ tokens, token ≠ "" ∧ ∀ c ∈ token.toList, Text.isBlank c = false) ∧
        cx.resolveAll scope tokens = .ok names
  mono hw h hname scope hscope := h hname scope (hscope.of_within hw)

/-- What is read from an element in some part is a copy of a part. -/
def readAs (c : Collection) (cx : Context) (construct : Construct) (role : Role) (p : Part) :
    Spelling Element where
  Holds := Says c cx construct role p
  mono hw h := ⟨h.1, fun scope hscope => h.2 scope (hscope.of_within hw)⟩

/-- What is read from a node in some part is a copy of a part. -/
def nodeReadAs (c : Collection) (cx : Context) (construct : Construct) (role : Role) (p : Part) :
    Spelling Node where
  Holds outer node := ∃ e, node = .ofElement e ∧ Says c cx construct role p outer e
  mono hw := fun ⟨e, he, h⟩ => ⟨e, he, (readAs c cx construct role p).mono hw h⟩

/-- Some nodes make a copy of one draft into a copy of another one. -/
def adds (c : Collection) (cx : Context) (q q' : Draft) : Spelling (List Node) where
  Holds := Adds c cx q q'
  mono hw h := fun scope hscope => h scope (hscope.of_within hw)

/-- A node makes a copy of one draft into a copy of another one. -/
def nodeAdds (c : Collection) (cx : Context) (q q' : Draft) : Spelling Node where
  Holds outer node := Adds c cx q q' outer [node]
  mono hw := (adds c cx q q').mono hw

/-- An element is written for a construct. -/
def formed (c : Collection) (cx : Context) (construct : Construct)
    (pairs : List (String × Option String)) (q q' : Draft) : Spelling Element where
  Holds := Formed c cx construct pairs q q'
  mono hw h := { h with
    completes := by
      obtain ⟨contents, hcontents, hnone, hadds⟩ := h.completes
      exact ⟨contents, hcontents, hnone, (adds c cx _ q').mono hw hadds⟩ }

end Spelling

namespace Writer

open Xml Reader

variable {α β : Type} {Q R : Meaning → α → Prop} {c : Collection} {cx : Context}

section Names

theorem delivers_declare (uri : String) : Delivers (declare uri) (Spelling.pfx uri).Holds := by
  intro s hs
  have hdeclares := PrefixTable.declare_declares hs.sound uri
  exact ⟨hs.declare uri, hdeclares.onward.meaning, hdeclares.ne_empty, hdeclares.meaning⟩

variable (hinherits : cx.inherits = false)
include hinherits

theorem delivers_token (name : QName) : Delivers (token name) (Spelling.name cx name).Holds := by
  intro s hs
  refine ⟨hs.token name, (PrefixTable.token_extends hs.sound name).2.meaning, ?_⟩
  show Text.Plain name.localName → ∀ scope : Scope,
    scope.Serves (s.prefixes.token name).2.meaning →
      cx.Spells scope (s.prefixes.token name).1 name
  intro hname scope hscope
  have hresolve : ∀ token pfx, splitPrefixed token = (pfx, name.localName) →
      Context.namespaceOf? scope pfx = some name.namespaceName →
      cx.resolve scope token = .ok name := by
    intro token pfx htoken hpfx
    unfold Context.resolve
    rw [htoken]
    dsimp only
    rw [hpfx, hinherits]
    simp
  by_cases hempty : name.namespaceName = ""
  · -- a name in no namespace goes without a prefix
    have htoken : s.prefixes.token name = (name.localName, s.prefixes) := by
      unfold PrefixTable.token PrefixTable.reference
      simp [hempty]
    rw [htoken]
    exact ⟨hresolve _ "" (Text.splitPrefixed_plain hname) (hempty ▸ hscope.unprefixed),
      fun c hc => (hname c hc).1, id⟩
  · have htoken : s.prefixes.token name =
        ((s.prefixes.declare name.namespaceName).1 ++ ":" ++ name.localName,
          (s.prefixes.declare name.namespaceName).2) := by
      unfold PrefixTable.token PrefixTable.reference
      simp [hempty, hs.unprefixed]
    rw [htoken] at hscope ⊢
    have hmeaning := (PrefixTable.declare_declares hs.sound name.namespaceName).meaning
    have hpfx := hscope.plain _ _ hmeaning
    refine ⟨hresolve _ _ (Text.splitPrefixed_joined hpfx hname) (hscope.bound _ _ hmeaning),
      Text.unblank_joined hpfx hname, fun _ hnil => ?_⟩
    have hlength := congrArg String.length hnil
    simp at hlength

theorem delivers_token? (name : Option QName) :
    Delivers (token? name) (Spelling.name? cx name).Holds := by
  cases name with
  | none => exact delivers_pure fun _ _ _ _ => rfl
  | some n =>
      exact ((delivers_token hinherits n).mono fun _ _ => Spelling.name?_some).map

theorem delivers_tokens (names : List QName) :
    Delivers (tokens names) (Spelling.names cx names).Holds := by
  induction names with
  | nil => exact delivers_pure fun _ _ _ _ => ⟨nofun, rfl⟩
  | cons n rest ih =>
      refine (delivers_token hinherits n).bind fun token => Delivers.map ?_
      refine ih.mono fun outer tokens htokens htoken hnames scope hscope => ?_
      obtain ⟨⟨hplain, hne⟩, hrest⟩ := List.forall_mem_cons.1 hnames
      have hspells := htoken hplain scope hscope
      obtain ⟨hwords, hresolve⟩ := htokens hrest scope hscope
      refine ⟨List.forall_mem_cons.2 ⟨⟨hspells.ne_empty hne, hspells.unblank⟩, hwords⟩, ?_⟩
      unfold Context.resolveAll
      rw [hspells.resolve, hresolve]
      rfl

end Names

section Markup

theorem delivers_markupPrefix (scope : Scope) (isAttribute : Bool) (name : Name) :
    Delivers (markupPrefix scope isAttribute name) Spelling.any.Holds := by
  unfold markupPrefix
  cases name.uri with
  | none => exact delivers_pure fun _ => trivial
  | some uri =>
      have hkept : ∀ kept : Bool, Delivers (if kept then pure name.pfx
          else do return some (← declare uri) : Writer (Option String)) Spelling.any.Holds := by
        intro kept
        cases kept with
        | true => exact delivers_pure fun _ => trivial
        | false => exact (delivers_declare uri).bind fun pfx => delivers_pure fun _ _ => trivial
      exact hkept _

theorem delivers_adoptAttributes (scope : Scope) (given : List Attribute) :
    Delivers (adoptAttributes scope given)
      (Spelling.fixed fun as => as.map Attribute.bare = given.map Attribute.bare).Holds := by
  induction given with
  | nil => exact delivers_pure fun _ => rfl
  | cons a rest ih =>
      have hone : Delivers (adoptAttribute scope a)
          (Spelling.fixed fun a' => a'.bare = a.bare).Holds :=
        (delivers_markupPrefix scope true a.name).after fun pfx => delivers_pure fun _ => rfl
      refine hone.bind fun a' => Delivers.map (ih.mono fun _ more hmore ha => ?_)
      exact List.cons_eq_cons.2 ⟨ha, hmore⟩

theorem delivers_adoptTag (scope : Scope) (t : Tag) :
    Delivers (adoptTag scope t) (Spelling.fixed fun t' => t'.bare = t.bare).Holds := by
  refine (delivers_markupPrefix scope false t.name).after fun pfx =>
    ((delivers_adoptAttributes scope t.attributes).mono fun _ as has => ?_).map
  show Tag.bare _ = Tag.bare _
  unfold Tag.bare
  rw [show as.map Attribute.bare = t.attributes.map Attribute.bare from has]
  rfl

mutual

theorem delivers_adopt : ∀ (scope : Scope) (node : Node),
    Delivers (adopt scope node) (Spelling.fixed fun node' => node'.bare = node.bare).Holds
  | _, .text _ => by
      unfold adopt
      exact delivers_pure fun _ => rfl
  | _, .comment _ => by
      unfold adopt
      exact delivers_pure fun _ => rfl
  | scope, .element t kids => by
      unfold adopt
      refine (delivers_adoptTag (scope.enter t.declared) t).bind fun t' =>
        Delivers.map ((delivers_adoptAll (scope.enter t.declared) kids).mono
          fun _ kids' hkids ht => ?_)
      have ht : t'.bare = t.bare := ht
      have hkids : Node.bareAll kids' = Node.bareAll kids := hkids
      show Node.bare _ = Node.bare _
      rw [Node.bare, Node.bare, ht, hkids]

theorem delivers_adoptAll : ∀ (scope : Scope) (nodes : List Node),
    Delivers (adoptAll scope nodes)
      (Spelling.fixed fun nodes' => Node.bareAll nodes' = Node.bareAll nodes).Holds
  | _, [] => by
      unfold adoptAll
      exact delivers_pure fun _ => rfl
  | scope, node :: rest => by
      unfold adoptAll
      refine (delivers_adopt scope node).bind fun node' =>
        Delivers.map ((delivers_adoptAll scope rest).mono fun _ more hmore hnode => ?_)
      have hnode : node'.bare = node.bare := hnode
      have hmore : Node.bareAll more = Node.bareAll rest := hmore
      show Node.bareAll _ = Node.bareAll _
      rw [Node.bareAll, Node.bareAll, hnode, hmore]

end

end Markup

section Constructs

variable {wcx : WriterContext} {outer : Meaning} {q q' q'' : Draft}

/-- Foreign content is written as it is, but for its prefixes. -/
theorem delivers_foreign (hkeep : wcx.policy = .keep) {contents : List ForeignContent}
    (h : ForeignContent.reread contents = contents) :
    Delivers (foreign wcx contents) (Spelling.fixed fun written =>
      written.1.map Attribute.bare = (ForeignContent.attributes contents).map Attribute.bare ∧
        ∃ es : List Element, written.2 = es.map Node.ofElement ∧
          es.map Element.bare = (ForeignContent.elements contents).map Element.bare).Holds := by
  unfold foreign
  split
  · rename_i hempty
    rw [List.isEmpty_iff.1 hempty]
    exact delivers_pure fun _ => ⟨rfl, [], rfl, rfl⟩
  · have hrecord : Delivers (modify fun s => { s with handed := s.handed ++ [contents.length] })
        Spelling.any.Holds := fun _ hs => ⟨hs, .refl _, trivial⟩
    refine hrecord.after fun _ => ?_
    rw [hkeep, ForeignContent.foreignAttributes_of_reread h,
      ForeignContent.foreignElements_of_reread h]
    refine (delivers_adoptAttributes outside _).bind fun as => Delivers.map ?_
    exact (delivers_adoptAll outside _).mono fun _ nodes hnodes has =>
      ⟨has, Node.exists_of_bareAll hnodes⟩

/-- The tag of a construct of the schema language declares nothing. -/
theorem delivers_tag (localName : String) (attributes : List Attribute) :
    Delivers (tag localName attributes) (Spelling.fixed fun t =>
      t.is schemaNamespace localName = true ∧ t.declared = {} ∧
        t.attributes = attributes).Holds := by
  refine (delivers_declare _).bind fun pfx => delivers_pure fun _ _ => ⟨?_, rfl, rfl⟩
  unfold Tag.is
  rw [Bool.and_eq_true, beq_iff_eq, beq_iff_eq]
  exact ⟨rfl, rfl⟩

/-- The foreign attributes of a written tag are those that it was written for. -/
theorem foreignAttributes_written {t : Tag} {pairs : List (String × Option String)}
    {written originals : List Attribute} (ht : t.attributes = attributesOf pairs ++ written)
    (hproper : ∀ a ∈ originals, a.name.namespaceName ≠ "")
    (h : written.map Attribute.bare = originals.map Attribute.bare) :
    (∀ a ∈ written, a.name.namespaceName ≠ "") ∧
      (Reader.foreignAttributes t).map ForeignContent.bare =
        (originals.map ForeignContent.ofAttribute).map ForeignContent.bare := by
  have hwritten : ∀ a ∈ written, a.name.namespaceName ≠ "" := by
    intro a ha
    obtain ⟨original, horiginal, heq⟩ := List.mem_map.1 (h ▸ List.mem_map_of_mem ha)
    have hname : original.name.bare = a.name.bare := (congrArg Attribute.name heq :)
    have huri : original.name.namespaceName = a.name.namespaceName :=
      congrArg QName.namespaceName (Name.toQName_of_bare hname)
    exact huri ▸ hproper original horiginal
  refine ⟨hwritten, ?_⟩
  -- the attributes of the construct itself have no namespace
  have hown : (attributesOf pairs).filter (fun a => a.name.uri.isSome) = [] := by
    refine List.filter_eq_nil_iff.2 fun a ha => ?_
    obtain ⟨p, -, hp⟩ := List.mem_filterMap.1 ha
    obtain ⟨value, -, rfl⟩ := Option.map_eq_some_iff.1 hp
    exact Bool.false_ne_true
  have hothers : written.filter (fun a => a.name.uri.isSome) = written := by
    refine List.filter_eq_self.2 fun a ha => ?_
    cases huri : a.name.uri with
    | some uri => rfl
    | none =>
        refine absurd ?_ (hwritten a ha)
        unfold Name.namespaceName
        rw [huri]
        rfl
  have hbare : ∀ as : List Attribute, (as.map ForeignContent.ofAttribute).map ForeignContent.bare =
      (as.map Attribute.bare).map fun a => (ForeignContent.ofAttribute a).bare := by
    intro as
    rw [List.map_map, List.map_map]
    exact List.map_congr_left fun a _ => ForeignContent.bare_ofAttribute rfl
  have hattributes : Reader.foreignAttributes t = written.map ForeignContent.ofAttribute := by
    unfold Reader.foreignAttributes
    rw [ht, List.filter_append, hown, hothers, List.nil_append]
    rfl
  rw [hattributes, hbare, hbare, h]

theorem formed_of_tag {t : Tag} {localName : String} {construct : Construct}
    {pairs : List (String × Option String)} {contents : List ForeignContent}
    {written : List Attribute} {kids : List Node}
    (ht : t.is schemaNamespace localName = true ∧ t.declared = {} ∧
      t.attributes = attributesOf pairs)
    (hname : Construct.ofLocalName? localName = some construct)
    (hwritten : written.map Attribute.bare =
      (ForeignContent.attributes contents).map Attribute.bare)
    (htakes : q.takesForeign = false → contents = [])
    (hkids : Adds c cx
      (q.addForeigns ((ForeignContent.attributes contents).map .ofAttribute)) q' outer kids) :
    Formed c cx construct pairs q q' outer
      ⟨{ t with attributes := t.attributes ++ written }, kids⟩ := by
  have hattributes : ({ t with attributes := t.attributes ++ written } : Tag).attributes =
      attributesOf pairs ++ written := by rw [ht.2.2]
  obtain ⟨hproper, hforeign⟩ := foreignAttributes_written hattributes
    (fun a ha => ForeignContent.attributes_proper ha) hwritten
  refine ⟨Compose.childClass_of_is ht.1 hname, ht.2.1,
    attribute?_attributesOf hattributes hproper, _, hforeign, fun h => ?_, hkids⟩
  rw [htakes h]
  rfl

/-- Write each entry of a list as a child that a draft takes up. -/
theorem delivers_each {write : α → Writer Node} (made : List α → Draft) {xs : List α}
    (h : ∀ before, ∀ x ∈ xs, Delivers (write x)
      (Spelling.nodeAdds c cx (made before) (made (before ++ [x]))).Holds) (before : List α) :
    Delivers (each write xs) (Spelling.adds c cx (made before) (made (before ++ xs))).Holds := by
  induction xs generalizing before with
  | nil =>
      rw [List.append_nil]
      exact delivers_pure fun _ => adds_nil
  | cons x rest ih =>
      have hrest := ih (fun before y hy => h before y (List.mem_cons_of_mem x hy)) (before ++ [x])
      refine (h before x List.mem_cons_self).bind fun node => Delivers.map (hrest.mono ?_)
      intro outer more hmore hfirst
      rw [List.append_assoc] at hmore
      exact Adds.append hfirst hmore

/-- A node is taken up in the part that the draft takes it in. -/
theorem Delivers.taken {m : Writer Node} {construct : Construct} {role : Role} {p : Part}
    (h : Delivers m (Spelling.nodeReadAs c cx construct role p).Holds)
    (hrole : q.role? construct = some role) (hadopt : q.adopt p = q') :
    Delivers m (Spelling.nodeAdds c cx q q').Holds :=
  h.mono fun _ _ ⟨_, he, hreads⟩ => he ▸ hadopt ▸ hreads.adds hrole

/-- Write an entry that may be absent as a child that a draft takes up. -/
theorem delivers_whenSome {write : α → Writer Node} (made : Option α → Draft) {x : Option α}
    (h : ∀ y, x = some y → Delivers (write y)
      (Spelling.nodeAdds c cx (made none) (made (some y))).Holds) :
    Delivers (whenSome write x) (Spelling.adds c cx (made none) (made x)).Holds := by
  cases x with
  | none => exact delivers_pure fun _ => adds_nil
  | some y => exact Delivers.map ((h y rfl).mono fun _ _ hy => hy)

/-- Nodes after nodes. -/
theorem Delivers.followed {m m' : Writer (List Node)}
    (h : Delivers m (Spelling.adds c cx q q').Holds)
    (h' : Delivers m' (Spelling.adds c cx q' q'').Holds) :
    Delivers (m >>= fun left => m' >>= fun right => pure (left ++ right))
      (Spelling.adds c cx q q'').Holds :=
  h.bind fun _ => Delivers.map (h'.mono fun _ _ hright hleft => Adds.append hleft hright)

theorem Delivers.followedTwice {m m' m'' : Writer (List Node)} {q₃ : Draft}
    (h : Delivers m (Spelling.adds c cx q q').Holds)
    (h' : Delivers m' (Spelling.adds c cx q' q'').Holds)
    (h'' : Delivers m'' (Spelling.adds c cx q'' q₃).Holds) :
    Delivers (do
      let left ← m
      let middle ← m'
      let right ← m''
      return left ++ middle ++ right) (Spelling.adds c cx q q₃).Holds :=
  h.bind fun _ => h'.bind fun _ => Delivers.map (h''.mono fun _ _ hright hmiddle hleft =>
    Adds.append (Adds.append hleft hmiddle) hright)

/-- An element as a node. -/
theorem Delivers.asNode {m : Writer Element} {construct : Construct} {role : Role} {p : Part}
    (h : Delivers m (Spelling.readAs c cx construct role p).Holds) :
    Delivers (m >>= fun e => pure (Node.ofElement e))
      (Spelling.nodeReadAs c cx construct role p).Holds :=
  Delivers.map (h.mono fun _ e he => ⟨e, rfl, he⟩)

theorem Delivers.asNodeWhen {m : Writer Element} {construct : Construct} {role : Role} {p : Part}
    {K : Meaning → Prop}
    (h : Delivers m fun outer e => K outer →
      (Spelling.readAs c cx construct role p).Holds outer e) :
    Delivers (m >>= fun e => pure (Node.ofElement e)) fun outer node => K outer →
      (Spelling.nodeReadAs c cx construct role p).Holds outer node :=
  Delivers.map (h.mono fun _ e he hK => ⟨e, rfl, he hK⟩)

/-- An element with bounds as a node. -/
theorem Delivers.asBoundedNode {m : Writer Element} {construct : Construct} {role : Role}
    {p : Part} {o : Occurs}
    (h : Delivers m fun outer e =>
      (Spelling.readAs c cx construct role p).Holds outer (withOccurs o e)) :
    Delivers (m >>= fun e => pure (Node.ofElement (withOccurs o e)))
      (Spelling.nodeReadAs c cx construct role p).Holds :=
  Delivers.map (h.mono fun _ _ he => ⟨_, rfl, he⟩)

/-- An element as the only node. -/
theorem Delivers.asNodes {m : Writer Element} {construct : Construct} {role : Role} {p : Part}
    (h : Delivers m (Spelling.readAs c cx construct role p).Holds)
    (hrole : q.role? construct = some role) :
    Delivers (m >>= fun e => pure [Node.ofElement e]) (Spelling.adds c cx q (q.adopt p)).Holds :=
  Delivers.map (h.mono fun _ _ he => he.adds hrole)

/-- What does not depend on anything. -/
theorem Delivers.always {m : Writer α} (h : Delivers m fun outer a => True → Q outer a) :
    Delivers m Q :=
  h.mono fun _ _ ha => ha trivial

/-- The attribute for the language of an entry of an annotation. -/
def languageOf (r : Remark) : List Attribute :=
  r.lang.elim [] fun value =>
    [⟨{ uri := some xmlNamespace, localName := "lang", pfx := some "xml" }, value⟩]

theorem remark_eq (r : Remark) : remark r = (do
    let t ← tag r.audience.localName (attributesOf [("source", r.source)])
    let markup ← adoptAll outside r.markup
    return .element { t with attributes := t.attributes ++ languageOf r } markup) := by
  unfold remark languageOf
  cases r.lang <;> rfl

theorem languageOf_proper (r : Remark) : ∀ a ∈ languageOf r, a.name.namespaceName ≠ "" := by
  intro a ha
  cases hlang : r.lang with
  | none => simp [languageOf, hlang] at ha
  | some value =>
      simp only [languageOf, hlang, Option.elim_some, List.mem_singleton] at ha
      rw [ha]
      show xmlNamespace ≠ ""
      decide

/-- The tag of a written remark tells its source and its language. -/
theorem attributes_remark {r : Remark} {t : Tag}
    (h : t.attributes = attributesOf [("source", r.source)] ++ languageOf r) :
    t.attribute? "source" = r.source ∧ t.attributeNs? xmlNamespace "lang" = r.lang := by
  constructor
  · rw [attribute?_attributesOf h (languageOf_proper r)]
    cases r.source <;> rfl
  · unfold Tag.attributeNs?
    rw [h]
    cases r.source <;> cases hlang : r.lang <;>
      simp [attributesOf, languageOf, hlang, Name.namespaceName, xmlNamespace]

theorem delivers_remark {r : Remark} (h : r.reread = r) :
    Delivers (remark r)
      (Spelling.nodeReadAs c cx (.remark r.audience) (.remark r.audience) (.remark r)).Holds := by
  have hname : Construct.ofLocalName? r.audience.localName = some (.remark r.audience) := by
    cases r.audience <;> rfl
  rw [remark_eq]
  refine (delivers_tag _ _).bind fun t =>
    Delivers.map ((delivers_adoptAll outside r.markup).mono ?_)
  intro outer markup hmarkup ht
  let tagged : Tag := { t with attributes := t.attributes ++ languageOf r }
  obtain ⟨hsource, hlang⟩ : tagged.attribute? "source" = r.source ∧
      tagged.attributeNs? xmlNamespace "lang" = r.lang :=
    attributes_remark (congrArg (· ++ languageOf r) ht.2.2)
  refine ⟨⟨tagged, markup⟩, rfl, Compose.childClass_of_is ht.1 hname,
    fun scope hscope O w hfit => ?_⟩
  have hpart : Role.opening cx (scope.enter tagged.declared) tagged markup
      (.remark r.audience) = .ok (.part (.remark { r with markup })) := by
    obtain ⟨audience, source, lang', kids⟩ := r
    cases audience with
    | applications =>
        have hnone : lang' = none := (congrArg Remark.lang h).symm
        simp only [Role.opening, hsource, hnone]
    | readers => simp only [Role.opening, hsource, hlang]
  unfold Reader.construct Reader.begin Reader.Copies
  rw [ends_bind, ends_bind, ends_lift, hpart]
  refine ⟨O, List.Subset.refl O, hfit, fun f _ => ?_⟩
  have hmarkup : Node.bareAll markup = Node.bareAll r.markup := hmarkup
  show Part.remark (Remark.bare _) = Part.remark (Remark.bare _)
  simp only [Remark.bare, hmarkup]

theorem remarks_eq_each (rs : List Remark) : remarks rs = each remark rs := by
  induction rs with
  | nil => rfl
  | cons r rest ih => rw [remarks, each, ih]

variable (hkeep : cx.policy = .keep) (hwrites : wcx.policy = .keep)
include hkeep hwrites

theorem delivers_annotationNode {a : Annotation}
    (h : Transcription.rewritten.annotation a = a) :
    Delivers (annotationNode wcx a) (Spelling.nodeReadAs c cx .note .note (.note a)).Holds := by
  have hforeign : ForeignContent.reread a.foreign = a.foreign := congrArg Annotation.foreign h
  have hremarks : ∀ r ∈ a.remarks, r.reread = r :=
    Transcription.forall_of_map_eq (congrArg Annotation.remarks h)
  have hentries : Delivers (remarks a.remarks)
      (Spelling.adds c cx (.note { a with remarks := [] }) (.note a)).Holds := by
    rw [remarks_eq_each]
    exact delivers_each (fun remarks => .note { a with remarks })
      (fun _ r hr => (delivers_remark (hremarks r hr)).taken rfl rfl) []
  refine (delivers_tag _ _).bind fun t => (delivers_foreign hwrites hforeign).bind fun content =>
    Delivers.map (hentries.mono ?_)
  rintro outer entries hentries ⟨hattributes, es, hes, helements⟩ ht
  have hall : .note { a with remarks := [] } = ((Draft.note { xmlId := a.xmlId }).addForeigns
      ((ForeignContent.attributes a.foreign).map .ofAttribute)).addForeigns
        ((ForeignContent.elements a.foreign).map .ofElement) := by
    rw [Draft.addForeigns_reread hforeign, Draft.addForeigns_eq]
    rfl
  have hname : Construct.ofLocalName? "annotation" = some .note := rfl
  have hformed : Formed c cx .note [("id", a.xmlId)] (.note { xmlId := a.xmlId }) (.note a) outer
      ⟨{ t with attributes := t.attributes ++ content.1 }, content.2 ++ entries⟩ := by
    refine formed_of_tag ht hname hattributes (fun h => Bool.noConfusion h)
      (Adds.append ?_ hentries)
    rw [hall, hes]
    exact adds_foreigns hkeep Draft.takesForeign_addForeigns
      (fun e he => ForeignContent.elements_foreign he) helements
  refine ⟨_, rfl, hformed.reads hkeep (fun scope _ => ⟨_, rfl, fun f _ => ?_⟩) (.of_none rfl)⟩
  rw [hformed.attribute?]
  cases a.xmlId <;> rfl

theorem delivers_leadingNote {note : Option Annotation} (hnote : q.role? .note = some .note)
    (h : ∀ a, note = some a → Transcription.rewritten.annotation a = a) :
    Delivers (leadingNote wcx note) (Spelling.adds c cx q (q.noted note)).Holds := by
  cases note with
  | none => exact delivers_pure fun _ => adds_nil
  | some a =>
      have hnode : Delivers (annotationNode wcx a)
          (Spelling.nodeReadAs c cx .note .note (.note a)).Holds :=
        delivers_annotationNode hkeep hwrites (h a rfl)
      refine Delivers.map (hnode.mono ?_)
      rintro outer node ⟨e, rfl, he⟩
      exact he.adds hnote

/-- A construct is written so that it begins as it did, takes up its annotation
and its foreign content, and then what its children are read as. -/
theorem delivers_construct {localName : String} {construct : Construct}
    (hname : Construct.ofLocalName? localName = some construct)
    {pairs : List (String × Option String)} {common : Common} {children : Writer (List Node)}
    {q₀ : Draft} (hcommon : Transcription.rewritten.common common = common)
    (hdress : q₀.dress common = q) (htakes : q₀.takesForeign = false → common.foreign = [])
    (hnote : q₀.role? .note = some .note)
    (hchildren : Delivers children (Spelling.adds c cx q q').Holds) :
    Delivers (Writer.construct wcx localName pairs common children)
      (Spelling.formed c cx construct (pairs ++ [("id", common.xmlId)]) q₀ q').Holds := by
  have hforeign : ForeignContent.reread common.foreign = common.foreign :=
    congrArg Common.foreign hcommon
  have hannotation := Transcription.eq_of_map_eq (congrArg Common.note hcommon)
  let q₁ := q₀.addForeigns ((ForeignContent.attributes common.foreign).map .ofAttribute)
  have hleading : Delivers (leadingNote wcx common.note)
      (Spelling.adds c cx q₁ (q₁.noted common.note)).Holds :=
    delivers_leadingNote hkeep hwrites (Draft.role?_note_addForeigns.trans hnote) hannotation
  refine (delivers_tag _ _).bind fun t => hleading.bind fun note =>
    (delivers_foreign hwrites hforeign).bind fun content => Delivers.map (hchildren.mono ?_)
  rintro outer inner hinner ⟨hattributes, es, hes, helements⟩ hleading ht
  -- the foreign elements follow the annotation; a draft that takes none has none to write
  have hmiddle : Adds c cx (q₁.noted common.note) q outer content.2 := by
    have hq : q = (q₁.noted common.note).addForeigns
        ((ForeignContent.elements common.foreign).map .ofElement) := by
      rw [Draft.addForeigns_noted, Draft.addForeigns_reread hforeign]
      exact hdress.symm
    rw [hq, hes]
    cases htakes₀ : q₀.takesForeign with
    | true =>
        refine adds_foreigns hkeep ?_ (fun e he => ForeignContent.elements_foreign he) helements
        rw [Draft.takesForeign_noted, Draft.takesForeign_addForeigns, htakes₀]
    | false =>
        rw [htakes htakes₀] at helements ⊢
        rw [List.map_eq_nil_iff.1 (helements : es.map Element.bare = [])]
        exact adds_nil
  exact formed_of_tag ht hname hattributes htakes
    (Adds.append (Adds.append hleading hmiddle) hinner)

/-- A construct is read as a copy of what its draft amounts to in the end, where
its tag begins a copy of the draft at hand. -/
theorem delivers_reading {localName : String} {construct : Construct} {role : Role}
    (hname : Construct.ofLocalName? localName = some construct)
    {pairs : List (String × Option String)} {common : Common} {children : Writer (List Node)}
    {q₀ : Draft} {p : Part} {K : Meaning → Prop}
    (hcommon : Transcription.rewritten.common common = common)
    (hdress : q₀.dress common = q) (htakes : q₀.takesForeign = false → common.foreign = [])
    (hnote : q₀.role? .note = some .note)
    (hchildren : Delivers children (Spelling.adds c cx q q').Holds) (hclose : Closes c q' p)
    (hopen : ∀ outer, K outer → ∀ scope : Scope, scope.Serves outer → ∀ t kids,
      (∀ name, t.attribute? name = valueOf? (pairs ++ [("id", common.xmlId)]) name) →
      ∃ d, role.opening cx scope t kids = .ok (.draft d) ∧ Tally.Matches [] d q₀) :
    Delivers (Writer.construct wcx localName pairs common children) fun outer e =>
      K outer → (Spelling.readAs c cx construct role p).Holds outer e :=
  (delivers_construct hkeep hwrites hname hcommon hdress htakes hnote hchildren).mono
    fun outer _ he hK => he.reads hkeep
      (fun scope hscope => hopen outer hK scope hscope _ _ he.attribute?) hclose

omit hkeep hwrites

/-- The bounds of a particle. -/
def bounds (o : Occurs) : List (String × Option String) :=
  [("minOccurs", o.lexical.1), ("maxOccurs", o.lexical.2)]

theorem find?_putAttribute {localName value : String} {given : List Attribute}
    (h : (given.find? fun a =>
      a.name.namespaceName == "" && a.name.localName == localName) = none) :
    ((Tag.putAttribute localName value given).find? fun a =>
      a.name.namespaceName == "" && a.name.localName == localName) =
        some ⟨{ localName }, value⟩ := by
  induction given with
  | nil => simp [Tag.putAttribute, Name.namespaceName]
  | cons a rest ih =>
      obtain ⟨hfirst, hrest⟩ := List.forall_mem_cons.1 (List.find?_eq_none.1 h)
      -- an attribute without namespace is found by the empty one
      have hother : (a.name.uri.isNone && a.name.localName == localName) = false := by
        refine eq_false_of_ne_true fun hsame => hfirst ?_
        rw [Bool.and_eq_true] at hsame ⊢
        refine ⟨?_, hsame.2⟩
        unfold Name.namespaceName
        rw [Option.isNone_iff_eq_none.1 hsame.1]
        rfl
      unfold Tag.putAttribute
      rw [hother, if_neg Bool.false_ne_true, List.find?_cons, eq_false_of_ne_true hfirst]
      exact ih (List.find?_eq_none.2 hrest)

theorem attribute?_setAttribute_self {t : Tag} {localName value : String}
    (h : t.attribute? localName = none) :
    (t.setAttribute localName value).attribute? localName = some value := by
  unfold Tag.attribute? Tag.attributeNs? at h ⊢
  rw [Tag.setAttribute, find?_putAttribute (Option.map_eq_none_iff.1 h)]
  rfl

theorem filter_putAttribute (localName value : String) (given : List Attribute) :
    (Tag.putAttribute localName value given).filter (fun a => a.name.uri.isSome) =
      given.filter fun a => a.name.uri.isSome := by
  induction given with
  | nil => rfl
  | cons a rest ih =>
      unfold Tag.putAttribute
      split
      · rename_i hsame
        rw [Bool.and_eq_true, Option.isNone_iff_eq_none] at hsame
        rw [List.filter_cons, List.filter_cons, hsame.1]
        rfl
      · rw [List.filter_cons, List.filter_cons, ih]

theorem foreignAttributes_setAttribute (t : Tag) (localName value : String) :
    Reader.foreignAttributes (t.setAttribute localName value) = Reader.foreignAttributes t := by
  unfold Reader.foreignAttributes
  rw [Tag.setAttribute, filter_putAttribute]

/-- A further attribute is written, if it has a value. -/
theorem formed_setAttribute {construct : Construct} {pairs : List (String × Option String)}
    {e : Element} {label : String} (value : Option String)
    (h : Formed c cx construct pairs q q' outer e) (hnone : valueOf? pairs label = none) :
    Formed c cx construct (pairs ++ [(label, value)]) q q' outer
      ((value.map (e.setAttribute label)).getD e) := by
  cases value with
  | none =>
      refine { h with attribute? := fun name => ?_ }
      show e.tag.attribute? name = _
      rw [valueOf?_append, h.attribute?, valueOf?_cons]
      cases valueOf? pairs name <;> simp [valueOf?_nil]
  | some text =>
      obtain ⟨contents, hcontents, hcompletes⟩ := h.completes
      refine ⟨h.class_eq, h.declared, fun name => ?_, contents, ?_, hcompletes⟩
      · rw [valueOf?_append, ← h.attribute?]
        by_cases hname : name = label
        · rw [hname, h.attribute?, hnone, Option.none_or, valueOf?_cons, if_pos rfl]
          exact attribute?_setAttribute_self ((h.attribute? label).trans hnone)
        · rw [valueOf?_cons, if_neg (Ne.symm hname)]
          exact (Tag.attribute?_setAttribute e.tag text hname).trans (Option.or_none).symm
      · rw [← hcontents]
        exact congrArg _ (foreignAttributes_setAttribute e.tag label text)

/-- The bounds of a particle are further attributes of its element. -/
theorem formed_withOccurs {construct : Construct} {pairs : List (String × Option String)}
    {e : Element} (o : Occurs) (h : Formed c cx construct pairs q q' outer e)
    (hmin : valueOf? pairs "minOccurs" = none) (hmax : valueOf? pairs "maxOccurs" = none) :
    Formed c cx construct (pairs ++ bounds o) q q' outer (withOccurs o e) := by
  have hfirst := formed_setAttribute o.lexical.1 h hmin
  have hfree : valueOf? (pairs ++ [("minOccurs", o.lexical.1)]) "maxOccurs" = none := by
    rw [valueOf?_append, hmax, valueOf?_cons,
      if_neg (show ("minOccurs" : String) ≠ "maxOccurs" by decide)]
    rfl
  have hsecond := formed_setAttribute o.lexical.2 hfirst hfree
  rw [List.append_assoc] at hsecond
  exact hsecond

include hkeep hwrites

/-- A particle is read as a copy of what its draft amounts to in the end, where
its tag begins a copy of the draft at hand. -/
theorem delivers_bounded {localName : String} {construct : Construct} {role : Role}
    (hname : Construct.ofLocalName? localName = some construct)
    {pairs : List (String × Option String)} {common : Common} {children : Writer (List Node)}
    {q₀ : Draft} {p : Part} {K : Meaning → Prop} (o : Occurs)
    (hcommon : Transcription.rewritten.common common = common)
    (hdress : q₀.dress common = q) (htakes : q₀.takesForeign = false → common.foreign = [])
    (hnote : q₀.role? .note = some .note)
    (hchildren : Delivers children (Spelling.adds c cx q q').Holds) (hclose : Closes c q' p)
    (hfree : ∀ outer, K outer → valueOf? (pairs ++ [("id", common.xmlId)]) "minOccurs" = none ∧
      valueOf? (pairs ++ [("id", common.xmlId)]) "maxOccurs" = none)
    (hopen : ∀ outer, K outer → ∀ scope : Scope, scope.Serves outer → ∀ t kids,
      (∀ name, t.attribute? name = valueOf? (pairs ++ [("id", common.xmlId)] ++ bounds o) name) →
      ∃ d, role.opening cx scope t kids = .ok (.draft d) ∧ Tally.Matches [] d q₀) :
    Delivers (Writer.construct wcx localName pairs common children) fun outer e =>
      K outer → (Spelling.readAs c cx construct role p).Holds outer (withOccurs o e) :=
  (delivers_construct hkeep hwrites hname hcommon hdress htakes hnote hchildren).mono
    fun outer _ he hK =>
      have hbounded := formed_withOccurs o he (hfree outer hK).1 (hfree outer hK).2
      hbounded.reads hkeep
        (fun scope hscope => hopen outer hK scope hscope _ _ hbounded.attribute?) hclose

end Constructs

end Writer

end XmlSchema
