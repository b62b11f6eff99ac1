import XmlSchema.Proofs.Attempt
import XmlSchema.Xml.Reader

/-!
# What the events of a document do

A document is read event by event.  What an event can do to the elements that
are open, if it is not refused, is said here once: what is claimed of every
document that has been read is shown for each of these steps.
-/

namespace XmlSchema.Xml

open Attempt

/-- The events of a document. -/
def Event.ofDocument (document : String) : Except Fault (List Event) := do
  let (entities, cs) ← Prolog.read document.toList
  match cs with
  | '<' :: cs =>
      let (lexemes, rest) ← Lexeme.ofElement cs
      let rest ← Prolog.skipMisc rest.length rest
      if !rest.isEmpty then throw .strayText
      Event.ofLexemes entities lexemes
  | _ => throw .noRoot

theorem Element.parse_eq (document : String) :
    Element.parse document = Event.ofDocument document >>= Element.ofEvents := by
  unfold Element.parse Event.ofDocument
  rw [bind_assoc]
  refine bind_congr fun found => ?_
  obtain ⟨entities, cs⟩ := found
  by_cases htag : ∃ rest, cs = '<' :: rest
  · obtain ⟨rest, rfl⟩ := htag
    show (Lexeme.ofElement _ >>= _) = (Lexeme.ofElement _ >>= _) >>= Element.ofEvents
    rw [bind_assoc]
    refine bind_congr fun cut => ?_
    rw [bind_assoc]
    refine bind_congr fun rest => ?_
    split <;> rfl
  · -- both sides refuse a document without an element
    have hrefuse : ∀ {α : Type} (f : List Char → Except Fault α),
        (match cs with
          | '<' :: rest => f rest
          | _ => .error .noRoot) = .error .noRoot := by
      intro α f
      split
      · exact absurd ⟨_, rfl⟩ htag
      · rfl
    exact (hrefuse _).trans (congrArg (· >>= Element.ofEvents) (hrefuse _)).symm

theorem Element.exists_of_ofEvents {events : List Event} {root : Element}
    (h : Element.ofEvents events = .ok root) :
    ∃ d, events.foldlM OpenDocument.step {} = .ok d ∧ d.root = some root := by
  obtain ⟨d, hd, h⟩ := bind_eq_ok_iff.1 h
  refine ⟨d, hd, ?_⟩
  split at h
  · cases h
  · cases h
  · rename_i hroot
    cases h
    exact hroot

/-- What an element begins with: the bindings that wait for its tag and those of its
parent are in scope, the new ones among them are kept, the attributes that wait are
named in this scope, and there are no children. -/
structure OpenElement.Starts (e : OpenElement) (pending : Pending) (parent : InScope) :
    Prop where
  scope : e.scope = InScope.extend pending.bindings parent
  declared : e.tag.declared = e.scope.fresh parent
  attributes : e.scope.attributes pending.attributes [] = .ok e.tag.attributes
  children : e.children = []

theorem OpenElement.starts_start {name : RawName} {pending : Pending} {parent : InScope}
    {e : OpenElement} (h : OpenElement.start name pending parent = .ok e) :
    e.Starts pending parent := by
  obtain ⟨⟨scope, attributes⟩, hresolve, h⟩ := bind_eq_ok_iff.1 h
  obtain ⟨attributes', hattributes, heq⟩ := bind_eq_ok_iff.1 hresolve
  cases heq
  obtain ⟨uri, -, h⟩ := bind_eq_ok_iff.1 h
  cases h
  exact ⟨rfl, rfl, hattributes, rfl⟩

namespace OpenDocument

variable {d d' : OpenDocument}

/-- What an event can do to a document. -/
inductive Step (d : OpenDocument) : Event → OpenDocument → Prop
  | cut {name : RawName} {list : List ReadAttribute} {pending : Pending}
      (hpending : list.foldlM Pending.add d.pending = .ok pending) :
      Step d (.startTag name list .cut) { d.modify OpenElement.unglue with pending }
  | closed {name : RawName} {list : List ReadAttribute} {pending : Pending} {e : OpenElement}
      (hpending : list.foldlM Pending.add d.pending = .ok pending)
      (hstart : OpenElement.start name pending d.scope = .ok e) :
      Step d (.startTag name list .closed) { d.close e.finish with pending := {} }
  | opened {name : RawName} {list : List ReadAttribute} {pending : Pending} {e : OpenElement}
      (hpending : list.foldlM Pending.add d.pending = .ok pending)
      (hstart : OpenElement.start name pending d.scope = .ok e) :
      Step d (.startTag name list .opened) { d with stack := e :: d.stack, pending := {} }
  | ended {name : RawName} {e : OpenElement} {outer : List OpenElement}
      (hstack : d.stack = e :: outer) :
      Step d (.endTag name) (OpenDocument.close { d with stack := outer, pending := {} } e.finish)
  | text (content : List Char) :
      Step d (.text content) (d.modify (·.pushText (String.ofList content)))
  | comment (content : List Char) :
      Step d (.comment content) (d.modify (·.push (.comment (String.ofList content))))
  | gap : Step d .gap (d.modify OpenElement.unglue)

theorem step_cases {event : Event} (h : d.step event = .ok d') : Step d event d' := by
  unfold OpenDocument.step at h
  split at h
  · rename_i name list ending
    dsimp only at h
    split at h
    · cases h
    · obtain ⟨pending, hpending, h⟩ := bind_eq_ok_iff.1 h
      cases ending with
      | cut =>
          cases h
          exact .cut hpending
      | closed =>
          obtain ⟨e, he, h⟩ := bind_eq_ok_iff.1 h
          cases h
          exact .closed hpending he
      | opened =>
          obtain ⟨e, he, h⟩ := bind_eq_ok_iff.1 h
          cases h
          exact .opened hpending he
  · obtain ⟨resolved, -, h⟩ := bind_eq_ok_iff.1 h
    split at h
    · cases h
    · rename_i e outer hstack
      split at h
      · cases h
      · cases h
        exact .ended hstack
  · cases h
    exact .text _
  · cases h
    exact .comment _
  · cases h
    exact .gap

end OpenDocument

end XmlSchema.Xml
