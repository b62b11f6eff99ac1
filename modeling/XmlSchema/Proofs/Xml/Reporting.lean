import XmlSchema.Proofs.Xml.Events
import XmlSchema.Proofs.Xml.Rereading

/-!
# Bindings in scope, and what is kept of them

While a document is read, every element sees a list of bindings: its own
declarations and those of its parent that it does not redeclare.  The tree keeps
only what is new at each element.  Looking a prefix up in what is kept on an
element and on those around it comes to what the element saw, except where a tag
declares the default namespace twice: the first declaration counts while reading,
but the last one is kept.
-/

namespace XmlSchema

open Attempt

theorem Bindings.lookup?_ofList (pairs : List (String × String)) (pfx : String) :
    (Bindings.ofList pairs).lookup? pfx = pairs.reverse.lookup pfx := by
  suffices h : ∀ b : Bindings, (pairs.foldl (fun b p => b.declare p.1 p.2) b).lookup? pfx =
      (pairs.reverse.lookup pfx <|> b.lookup? pfx) by
    rw [Bindings.ofList, h, show Bindings.empty.lookup? pfx = none from rfl]
    cases pairs.reverse.lookup pfx <;> rfl
  induction pairs with
  | nil => exact fun b => rfl
  | cons p rest ih =>
      intro b
      obtain ⟨q, uri⟩ := p
      rw [List.foldl_cons, ih, Bindings.lookup?_declare, List.reverse_cons, List.lookup_append,
        Bindings.lookup_cons_eq]
      cases rest.reverse.lookup pfx with
      | some found => rfl
      | none =>
          by_cases hq : pfx = q <;> simp [hq]

namespace Xml

namespace InScope

variable {own parent scope : InScope} {pfx uri : String}

/-- A prefix is bound to one namespace at most. -/
def Univocal (scope : InScope) (pfx : String) : Prop :=
  ∀ uri other, (pfx, uri) ∈ scope → (pfx, other) ∈ scope → uri = other

theorem mem_of_lookup? (h : scope.lookup? pfx = some uri) : (pfx, uri) ∈ scope := by
  obtain ⟨before, after, rfl, -⟩ := List.lookup_eq_some_iff.1 h
  simp

theorem exists_lookup? (h : (pfx, uri) ∈ scope) : ∃ found, scope.lookup? pfx = some found := by
  refine Option.ne_none_iff_exists'.1 fun hnone => ?_
  simpa using List.lookup_eq_none_iff.1 hnone _ h

theorem Univocal.lookup? (h : scope.Univocal pfx) (hmem : (pfx, uri) ∈ scope) :
    scope.lookup? pfx = some uri := by
  obtain ⟨found, hfound⟩ := exists_lookup? hmem
  rw [hfound, h _ _ hmem (mem_of_lookup? hfound)]

/-- What an element sees it has declared itself, or its parent sees it and the
element has not redeclared it. -/
theorem mem_extend (h : (pfx, uri) ∈ extend own parent) :
    (pfx, uri) ∈ own ∨ (pfx, uri) ∈ parent ∧ ∀ b ∈ own, b.1 ≠ pfx := by
  have hfold : ∀ seen : InScope, (pfx, uri) ∈ parent.foldl
      (fun seen b => if seen.any (·.1 == b.1) then seen else seen ++ [b]) seen →
      (pfx, uri) ∈ seen ∨ (pfx, uri) ∈ parent ∧ ∀ b ∈ seen, b.1 ≠ pfx := by
    clear h
    induction parent with
    | nil => exact fun seen hmem => .inl hmem
    | cons b parent ih =>
        intro seen hmem
        rw [List.foldl_cons] at hmem
        split at hmem
        · rcases ih seen hmem with hseen | ⟨hparent, hnew⟩
          · exact .inl hseen
          · exact .inr ⟨List.mem_cons_of_mem b hparent, hnew⟩
        · rename_i hany
          have hfree : ∀ c ∈ seen, c.1 ≠ b.1 := fun c hc heq =>
            hany (List.any_eq_true.2 ⟨c, hc, by simp [heq]⟩)
          rcases ih _ hmem with hseen | ⟨hparent, hnew⟩
          · rcases List.mem_append.1 hseen with hseen | hb
            · exact .inl hseen
            · obtain rfl := List.mem_singleton.1 hb
              exact .inr ⟨List.mem_cons_self, hfree⟩
          · exact .inr ⟨List.mem_cons_of_mem b hparent,
              fun c hc => hnew c (List.mem_append_left _ hc)⟩
  unfold extend at h
  split at h
  · rename_i hempty
    obtain rfl := List.isEmpty_iff.1 hempty
    exact .inr ⟨h, nofun⟩
  · exact hfold own h

theorem Univocal.extend (hown : own.Univocal pfx) (hparent : parent.Univocal pfx) :
    (extend own parent).Univocal pfx := by
  intro uri other huri hother
  rcases mem_extend huri with huri | ⟨huri, hfree⟩ <;>
    rcases mem_extend hother with hother | ⟨hother, hfree'⟩
  · exact hown _ _ huri hother
  · exact absurd rfl (hfree' _ huri)
  · exact absurd rfl (hfree _ hother)
  · exact hparent _ _ huri hother

/-- What is new at an element, and what its parent sees where nothing is, is what
the element sees. -/
theorem lookup?_fresh (hpfx : pfx ≠ "xml") (hscope : (extend own parent).Univocal pfx)
    (hparent : parent.Univocal pfx) :
    ((fresh (extend own parent) parent).lookup? pfx <|> parent.lookup? pfx) =
      (extend own parent).lookup? pfx := by
  have hnew : ∀ {uri}, (pfx, uri) ∈ (extend own parent).filter
      (fun b => b.1 != "xml" && !parent.contains b) ↔
      (pfx, uri) ∈ extend own parent ∧ (pfx, uri) ∉ parent := by
    intro uri
    simp [List.mem_filter, hpfx]
  unfold fresh
  rw [Bindings.lookup?_ofList]
  cases hlookup : List.lookup pfx ((extend own parent).filter
      fun b => b.1 != "xml" && !parent.contains b).reverse with
  | some found =>
      have hmem := List.mem_reverse.1 (mem_of_lookup? hlookup)
      rw [hscope.lookup? (hnew.1 hmem).1]
      rfl
  | none =>
      have hold : ∀ {uri}, (pfx, uri) ∈ extend own parent → (pfx, uri) ∈ parent := by
        intro uri hmem
        refine Classical.byContradiction fun hnot => ?_
        simpa using List.lookup_eq_none_iff.1 hlookup _
          (List.mem_reverse.2 (hnew.2 ⟨hmem, hnot⟩))
      cases hseen : (extend own parent).lookup? pfx with
      | some uri => exact hparent.lookup? (hold (mem_of_lookup? hseen))
      | none =>
          rw [lookup?_extend] at hseen
          cases howned : own.lookup? pfx with
          | some uri =>
              rw [howned] at hseen
              cases hseen
          | none =>
              rw [howned] at hseen
              exact hseen

end InScope

/-- What is kept on some tags, innermost first: the root of a scope is the last of
them, and each of the others is a step down. -/
def Tag.scope : List Tag → Scope
  | [] => {}
  | tag :: outer => (Tag.scope outer).enter tag.declared

theorem Tag.scope_singleton (tag : Tag) : Tag.scope [tag] = Scope.root tag.declared := rfl

mutual

/-- The elements at and below a node in the order of the document, each as its
tag with the tags around it, innermost first. -/
def Node.places (outer : List Tag) : Node → List (List Tag)
  | .element tag children => (tag :: outer) :: Node.placesIn (tag :: outer) children
  | .text _ => []
  | .comment _ => []

/-- The elements at and below some nodes. -/
def Node.placesIn (outer : List Tag) : List Node → List (List Tag)
  | [] => []
  | node :: rest => node.places outer ++ Node.placesIn outer rest

end

/-- The elements of a document, in its order. -/
def Element.places (e : Element) : List (List Tag) := (Node.ofElement e).places []

theorem Node.placesIn_append (outer : List Tag) (nodes more : List Node) :
    Node.placesIn outer (nodes ++ more) = Node.placesIn outer nodes ++ Node.placesIn outer more := by
  induction nodes with
  | nil => rfl
  | cons node rest ih => rw [List.cons_append, placesIn, placesIn, ih, List.append_assoc]

namespace OpenDocument

/-- The element that an event begins. -/
def begins (d : OpenDocument) : Event → Option OpenElement
  | .startTag _ _ .cut => none
  | .startTag name list _ =>
      (list.foldlM Pending.add d.pending >>= fun pending =>
        OpenElement.start name pending d.scope).toOption
  | _ => none

/-- The elements that events begin, in order, each with the elements around it,
innermost first. -/
def begun (d : OpenDocument) : List Event → List (List OpenElement)
  | [] => []
  | event :: rest =>
      ((d.begins event).map (· :: d.stack)).toList ++
        match d.step event with
        | .ok d => d.begun rest
        | .error _ => []

/-- The tags of open elements. -/
abbrev tags (place : List OpenElement) : List Tag := place.map OpenElement.tag

/-- The elements of open elements, as far as they have been read. -/
def unfinished : List OpenElement → List (List Tag)
  | [] => []
  | e :: outer =>
      unfinished outer ++ tags (e :: outer) :: Node.placesIn (tags (e :: outer)) e.children.reverse

/-- The elements that have been begun are those of the open elements or, once there
is a root, those of the root and others after them. -/
def Accounts (d : OpenDocument) (places : List (List Tag)) : Prop :=
  match d.root with
  | none => places = unfinished d.stack
  | some root => root.places <+: places

variable {d d' : OpenDocument} {places : List (List Tag)}

/-- Changes that add no element are of no account. -/
theorem Accounts.modify (h : d.Accounts places) {f : OpenElement → OpenElement}
    (hf : ∀ e outer, unfinished (f e :: outer) = unfinished (e :: outer)) :
    (d.modify f).Accounts places := by
  unfold OpenDocument.modify
  split
  · exact h
  · rename_i e outer hstack
    unfold Accounts at h ⊢
    dsimp only
    cases hroot : d.root with
    | none =>
        rw [hroot, hstack] at h
        exact h.trans (hf e outer).symm
    | some root =>
        rw [hroot] at h
        exact h

theorem unfinished_push (e : OpenElement) (outer : List OpenElement) (child : Node) :
    unfinished (e.push child :: outer) =
      unfinished (e :: outer) ++ child.places (tags (e :: outer)) := by
  simp [unfinished, OpenElement.push, Node.placesIn_append, Node.placesIn]

theorem unfinished_pushText (e : OpenElement) (outer : List OpenElement) (content : String) :
    unfinished (e.pushText content :: outer) = unfinished (e :: outer) := by
  unfold OpenElement.pushText
  split
  · rename_i before rest _ hchildren
    simp [unfinished, hchildren, Node.placesIn_append, Node.placesIn, Node.places]
  · simp [unfinished, Node.placesIn_append, Node.placesIn, Node.places]

/-- An element that is closed is no longer among the open ones, but it goes on
accounting for the elements at and below it. -/
theorem accounts_close {e : Element}
    (h : match d.root with
      | none => places = unfinished d.stack ++ (Node.ofElement e).places (tags d.stack)
      | some root => root.places <+: places) :
    (d.close e).Accounts places := by
  obtain ⟨stack, root, pending⟩ := d
  cases root with
  | none =>
      cases stack with
      | nil => exact h ▸ List.prefix_rfl
      | cons outer rest => exact h.trans (unfinished_push outer rest _).symm
  | some root =>
      cases stack with
      | nil => exact h
      | cons outer rest => exact h

/-- An event accounts for the element that it begins. -/
theorem Accounts.step (h : d.Accounts places) {event : Event} (hstep : d.step event = .ok d') :
    d'.Accounts (places ++ (((d.begins event).map (· :: d.stack)).toList).map tags) := by
  have hunglued : (d.modify OpenElement.unglue).Accounts places := h.modify fun e outer => rfl
  cases step_cases hstep with
  | cut hpending =>
      rw [begins, Option.map_none, Option.toList_none, List.map_nil, List.append_nil]
      exact hunglued
  | @closed name list pending e hpending hstart =>
      have hbegins : d.begins (.startTag name list .closed) = some e := by
        simp [begins, hpending, hstart, bind, Except.bind, Except.toOption]
      have hplaces : (Node.ofElement e.finish).places (tags d.stack) = [tags (e :: d.stack)] := by
        simp [Node.ofElement, OpenElement.finish, (OpenElement.starts_start hstart).children,
          Node.places, Node.placesIn]
      rw [hbegins]
      refine accounts_close (d := d) ?_
      rw [hplaces]
      unfold Accounts at h
      split at h
      · exact congrArg (· ++ _) h
      · exact h.trans (List.prefix_append _ _)
  | @opened name list pending e hpending hstart =>
      have hbegins : d.begins (.startTag name list .opened) = some e := by
        simp [begins, hpending, hstart, bind, Except.bind, Except.toOption]
      have hopened : unfinished (e :: d.stack) = unfinished d.stack ++ [tags (e :: d.stack)] := by
        simp [unfinished, (OpenElement.starts_start hstart).children, Node.placesIn]
      rw [hbegins]
      unfold Accounts at h ⊢
      dsimp only
      cases hroot : d.root with
      | none =>
          rw [hroot] at h
          rw [show places = unfinished d.stack from h, hopened]
          rfl
      | some root =>
          rw [hroot] at h
          exact h.trans (List.prefix_append _ _)
  | @ended name e outer hstack =>
      have hplaces : unfinished d.stack =
          unfinished outer ++ (Node.ofElement e.finish).places (tags outer) := by
        rw [hstack]
        rfl
      rw [show d.begins (.endTag name) = none from rfl, Option.map_none, Option.toList_none,
        List.map_nil, List.append_nil]
      refine accounts_close ?_
      rw [← hplaces]
      exact h
  | text content => simpa [begins] using h.modify fun e outer => unfinished_pushText e outer _
  | comment content =>
      have hpushed := h.modify (f := (OpenElement.push · (.comment (String.ofList content))))
        fun e outer => by rw [unfinished_push, Node.places, List.append_nil]
      simpa [begins] using hpushed
  | gap => simpa [begins] using hunglued

/-- Events account for the elements that they begin. -/
theorem Accounts.steps (h : d.Accounts places) {events : List Event}
    (hsteps : events.foldlM OpenDocument.step d = .ok d') :
    d'.Accounts (places ++ (d.begun events).map tags) := by
  induction events generalizing d places with
  | nil =>
      cases hsteps
      simpa [begun] using h
  | cons event rest ih =>
      obtain ⟨d₁, hd₁, hrest⟩ := bind_eq_ok_iff.1 hsteps
      have hlater := ih (h.step hd₁) hrest
      rw [begun, hd₁, List.map_append, ← List.append_assoc]
      exact hlater

/-- What the innermost of some open elements sees. -/
def scopeOf (stack : List OpenElement) : InScope :=
  (stack.head?.map OpenElement.scope).getD []

/-- Open elements inside each other: each sees its own declarations, of which only
those of the default namespace may repeat a prefix, and what the next one sees, and
keeps what is new. -/
inductive Nested : List OpenElement → Prop
  | nil : Nested []
  | cons {e : OpenElement} {outer : List OpenElement} {own : InScope}
      (hown : ∀ pfx, pfx ≠ "" → own.Univocal pfx)
      (hscope : e.scope = InScope.extend own (scopeOf outer))
      (hdeclared : e.tag.declared = e.scope.fresh (scopeOf outer))
      (houter : Nested outer) : Nested (e :: outer)

theorem Nested.univocal {place : List OpenElement} {pfx : String} (h : Nested place)
    (hpfx : pfx ≠ "") : (scopeOf place).Univocal pfx := by
  induction h with
  | nil => exact nofun
  | cons hown hscope hdeclared houter ih =>
      show InScope.Univocal (OpenElement.scope _) pfx
      rw [hscope]
      exact (hown pfx hpfx).extend ih

/-- What is kept on open elements comes to what the innermost one sees. -/
theorem Nested.lookup? {place : List OpenElement} {pfx : String} (h : Nested place)
    (hpfx : pfx ≠ "xml") (hdefault : pfx = "" → ∀ e ∈ place, e.scope.Univocal "") :
    (Tag.scope (tags place)).lookup? pfx = (scopeOf place).lookup? pfx := by
  induction h with
  | nil => rfl
  | @cons e outer own hown hscope hdeclared houter ih =>
      have hunivocal : ∀ {place}, Nested place →
          (pfx = "" → ∀ e ∈ place, e.scope.Univocal "") → (scopeOf place).Univocal pfx := by
        intro place hnested hplace
        by_cases hempty : pfx = ""
        · subst hempty
          cases hnested with
          | nil => exact nofun
          | cons => exact hplace rfl _ List.mem_cons_self
        · exact hnested.univocal hempty
      have hrest : pfx = "" → ∀ e ∈ outer, e.scope.Univocal "" :=
        fun hempty e he => hdefault hempty e (List.mem_cons_of_mem _ he)
      have hinner : (InScope.extend own (scopeOf outer)).Univocal pfx := by
        rw [← hscope]
        exact hunivocal (.cons hown hscope hdeclared houter) hdefault
      show ((Tag.scope (tags outer)).enter e.tag.declared).lookup? pfx = e.scope.lookup? pfx
      rw [Scope.lookup?_enter, ih hrest, hdeclared, hscope]
      exact InScope.lookup?_fresh hpfx hinner (hunivocal houter hrest)

/-- A change of what an element holds leaves it where it is. -/
theorem Nested.change {e e' : OpenElement} {outer : List OpenElement} (h : Nested (e :: outer))
    (hscope : e'.scope = e.scope) (htag : e'.tag = e.tag) : Nested (e' :: outer) := by
  cases h with
  | cons hown hinner hdeclared houter =>
      exact .cons hown (hscope.trans hinner) (by rw [htag, hdeclared, hscope]) houter

end OpenDocument

theorem Pending.univocal_add {p p' : Pending} {a : ReadAttribute} {pfx : String} (hpfx : pfx ≠ "")
    (h : p.bindings.Univocal pfx) (hadd : p.add a = .ok p') : p'.bindings.Univocal pfx := by
  have happend : ∀ key value, (∀ b ∈ p.bindings, b.1 ≠ key) ∨ key = "" →
      InScope.Univocal (p.bindings ++ [(key, value)]) pfx := by
    intro key value hfree uri other huri hother
    simp only [List.mem_append, List.mem_singleton, Prod.mk.injEq] at huri hother
    rcases hfree with hfree | hfree <;> grind [InScope.Univocal]
  unfold Pending.add at hadd
  split at hadd
  · split at hadd
    · cases hadd
    · split at hadd
      · cases hadd
      · split at hadd
        · cases hadd
        · rename_i hany
          split at hadd
          · cases hadd
            exact h
          · cases hadd
            refine happend _ _ (.inl fun b hb heq => hany ?_)
            exact List.any_eq_true.2 ⟨b, hb, by simp [heq]⟩
  · split at hadd
    · split at hadd
      · cases hadd
      · cases hadd
        exact happend _ _ (.inr rfl)
    · cases hadd
      exact h

theorem Pending.univocal_foldlM {p p' : Pending} {list : List ReadAttribute} {pfx : String}
    (hpfx : pfx ≠ "") (h : p.bindings.Univocal pfx)
    (hlist : list.foldlM Pending.add p = .ok p') : p'.bindings.Univocal pfx := by
  induction list generalizing p with
  | nil =>
      cases hlist
      exact h
  | cons a rest ih =>
      obtain ⟨p₁, hp₁, hrest⟩ := bind_eq_ok_iff.1 hlist
      exact ih (univocal_add hpfx h hp₁) hrest

namespace OpenDocument

variable {d d' : OpenDocument}

/-- The open elements are inside each other, and of what waits for a tag only the
default namespace may be declared twice. -/
structure Orderly (d : OpenDocument) : Prop where
  nested : Nested d.stack
  pending : ∀ pfx, pfx ≠ "" → d.pending.bindings.Univocal pfx

theorem Orderly.modify (h : d.Orderly) {f : OpenElement → OpenElement}
    (hf : ∀ e, (f e).scope = e.scope ∧ (f e).tag = e.tag) : (d.modify f).Orderly := by
  unfold OpenDocument.modify
  split
  · exact h
  · rename_i e outer hstack
    have hnested := h.nested
    rw [hstack] at hnested
    exact ⟨hnested.change (hf e).1 (hf e).2, h.pending⟩

theorem Orderly.close (h : d.Orderly) (e : Element) : (d.close e).Orderly := by
  unfold OpenDocument.close
  split
  · exact ⟨h.nested, h.pending⟩
  · exact h.modify fun outer => ⟨rfl, rfl⟩

/-- An element begins inside the open ones. -/
theorem Orderly.begins (h : d.Orderly) {name : RawName} {list : List ReadAttribute}
    {pending : Pending} {e : OpenElement} (hpending : list.foldlM Pending.add d.pending = .ok pending)
    (hstart : OpenElement.start name pending d.scope = .ok e) : Nested (e :: d.stack) := by
  have hstarts := OpenElement.starts_start hstart
  exact .cons (fun pfx hpfx => Pending.univocal_foldlM hpfx (h.pending pfx hpfx) hpending)
    hstarts.scope hstarts.declared h.nested

theorem Orderly.step (h : d.Orderly) {event : Event} (hstep : d.step event = .ok d') :
    d'.Orderly ∧ ∀ e ∈ d.begins event, Nested (e :: d.stack) := by
  have hnothing : ∀ pfx, pfx ≠ "" → InScope.Univocal ({} : Pending).bindings pfx :=
    fun _ _ => nofun
  cases step_cases hstep with
  | cut hpending =>
      have hunglued : (d.modify OpenElement.unglue).Orderly := h.modify fun e => ⟨rfl, rfl⟩
      exact ⟨⟨hunglued.nested,
        fun pfx hpfx => Pending.univocal_foldlM hpfx (h.pending pfx hpfx) hpending⟩, nofun⟩
  | closed hpending hstart =>
      refine ⟨⟨(h.close _).nested, hnothing⟩, ?_⟩
      simp only [OpenDocument.begins, hpending, bind, Except.bind, hstart, Except.toOption,
        Option.mem_some, forall_eq']
      exact h.begins hpending hstart
  | opened hpending hstart =>
      have hnested := h.begins hpending hstart
      refine ⟨⟨hnested, hnothing⟩, ?_⟩
      simpa only [OpenDocument.begins, hpending, bind, Except.bind, hstart, Except.toOption,
        Option.mem_some, forall_eq'] using hnested
  | ended hstack =>
      have hnested := h.nested
      rw [hstack] at hnested
      cases hnested with
      | cons hown hscope hdeclared houter =>
          have houterOrderly : OpenDocument.Orderly { d with stack := _, pending := {} } :=
            ⟨houter, hnothing⟩
          exact ⟨houterOrderly.close _, nofun⟩
  | text content =>
      refine ⟨h.modify fun e => ?_, nofun⟩
      unfold OpenElement.pushText
      split <;> exact ⟨rfl, rfl⟩
  | comment content => exact ⟨h.modify fun e => ⟨rfl, rfl⟩, nofun⟩
  | gap => exact ⟨h.modify fun e => ⟨rfl, rfl⟩, nofun⟩

theorem Orderly.begun (h : d.Orderly) {events : List Event}
    (hsteps : events.foldlM OpenDocument.step d = .ok d') :
    ∀ place ∈ d.begun events, ∃ e outer, place = e :: outer ∧ Nested (e :: outer) := by
  induction events generalizing d with
  | nil => exact nofun
  | cons event rest ih =>
      obtain ⟨d₁, hd₁, hrest⟩ := bind_eq_ok_iff.1 hsteps
      obtain ⟨horderly, hbegins⟩ := h.step hd₁
      intro place hplace
      rw [OpenDocument.begun, hd₁, List.mem_append] at hplace
      rcases hplace with hplace | hplace
      · simp only [Option.mem_toList, Option.map_eq_some_iff] at hplace
        obtain ⟨e, he, rfl⟩ := hplace
        exact ⟨e, d.stack, rfl, hbegins e he⟩
      · exact ih horderly hrest place hplace

end OpenDocument

namespace Element

open OpenDocument

/-- The elements of a document are those that are begun while it is read, in order.
What is kept on one of them and on those around it binds each prefix but `xml` as
the element sees it bound while it is read.  For the default namespace that takes
one thing: none of these elements sees it bound to two namespaces, as it does when
its tag declares the default namespace twice. -/
theorem parse_scopes {document : String} {root : Element} (h : Element.parse document = .ok root) :
    ∃ events, Event.ofDocument document = .ok events ∧
    ∀ (i : Nat) (path : List Tag), root.places[i]? = some path →
      ∃ e outer, (OpenDocument.begun {} events)[i]? = some (e :: outer) ∧
        path = tags (e :: outer) ∧
        ∀ pfx, pfx ≠ "xml" → (pfx = "" → ∀ e' ∈ e :: outer, e'.scope.Univocal "") →
          (Tag.scope path).lookup? pfx = e.scope.lookup? pfx := by
  rw [parse_eq] at h
  obtain ⟨events, hevents, h⟩ := bind_eq_ok_iff.1 h
  obtain ⟨d, hd, hroot⟩ := exists_of_ofEvents h
  refine ⟨events, hevents, fun i path hpath => ?_⟩
  have hnone : Accounts {} [] := rfl
  have haccounts := hnone.steps hd
  have horderly : OpenDocument.Orderly {} := ⟨.nil, fun _ _ => nofun⟩
  have hnested := horderly.begun hd
  unfold Accounts at haccounts
  rw [hroot, List.nil_append] at haccounts
  obtain ⟨later, hlater⟩ := haccounts
  have hbegun : ((OpenDocument.begun {} events).map tags)[i]? = some path := by
    rw [← hlater, List.getElem?_append_left (List.getElem?_eq_some_iff.1 hpath).1, hpath]
  rw [List.getElem?_map] at hbegun
  obtain ⟨place, hplace, rfl⟩ := Option.map_eq_some_iff.1 hbegun
  obtain ⟨e, outer, rfl, hplaced⟩ := hnested place (List.mem_of_getElem? hplace)
  exact ⟨e, outer, hplace, rfl, fun pfx hpfx hdefault => hplaced.lookup? hpfx hdefault⟩

/-- A document that redeclares prefixes, repeats a declaration and undeclares the
default namespace. -/
def redeclaring : String :=
  "<a xmlns='urn:a' xmlns:p='urn:p'><p:b xmlns='' xmlns:p='urn:p'>" ++
    "<c xmlns:p='urn:q' xmlns='urn:c'/></p:b><d/></a>"

theorem parse_scopes_redeclaring :
    ∃ root events, Element.parse redeclaring = .ok root ∧
      Event.ofDocument redeclaring = .ok events ∧
      (root.places.map fun path => ((Tag.scope path).lookup? "", (Tag.scope path).lookup? "p")) =
        [(some "urn:a", some "urn:p"), (some "", some "urn:p"), (some "urn:c", some "urn:q"),
          (some "urn:a", some "urn:p")] ∧
      ∀ (i : Nat) (path : List Tag), root.places[i]? = some path →
        ∃ e outer, (OpenDocument.begun {} events)[i]? = some (e :: outer) ∧
          path = tags (e :: outer) ∧
          ∀ pfx, pfx ≠ "xml" → (pfx = "" → ∀ e' ∈ e :: outer, e'.scope.Univocal "") →
            (Tag.scope path).lookup? pfx = e.scope.lookup? pfx := by
  have hevaluated : ((Element.parse redeclaring).toOption.map fun root =>
      root.places.map fun path => ((Tag.scope path).lookup? "", (Tag.scope path).lookup? "p")) =
        some [(some "urn:a", some "urn:p"), (some "", some "urn:p"), (some "urn:c", some "urn:q"),
          (some "urn:a", some "urn:p")] := by decide +kernel
  cases hparse : Element.parse redeclaring with
  | error fault =>
      rw [hparse] at hevaluated
      cases hevaluated
  | ok root =>
      rw [hparse] at hevaluated
      obtain ⟨events, hevents, hscopes⟩ := parse_scopes hparse
      exact ⟨root, events, rfl, hevents, Option.some.inj hevaluated, hscopes⟩

/-- A tag that declares the default namespace twice: the first declaration counts for
its own name, and the second one is kept. -/
example : (Element.parse "<e xmlns='urn:a' xmlns:p='urn:p' p:xmlns='urn:b'/>").toOption.map
    (fun e => (e.tag.name.namespaceName, e.tag.declared.lookup? "")) =
      some ("urn:a", some "urn:b") := by decide +kernel

end Element

end Xml

end XmlSchema
