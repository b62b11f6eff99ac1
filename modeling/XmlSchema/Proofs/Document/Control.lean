import XmlSchema.Document.Opening
import XmlSchema.Document.Writer

/-!
# The control of a component over its derivation

An element or a type may forbid that it is stood in for or derived from.  The
methods it forbids are the set that its own attribute denotes, if it has one,
and the set that the root of the document gives as the default, if not.  A set
that has been read is written in such a way that it is read again.
-/

namespace XmlSchema

namespace DerivationSet

/-- A set in which all methods are one whole lists none of them by itself. -/
def Normal (s : DerivationSet) : Prop := s.all = true → s = full

theorem normal_empty : empty.Normal := nofun

theorem Normal.insert {s : DerivationSet} (h : s.all = false) (m : DerivationMethod) :
    (s.insert m).all = false := by
  cases m <;> exact h

theorem normal_ofTokens (tokens : List String) {s : DerivationSet} (h : s.all = false) :
    (s.ofTokens tokens).Normal := by
  induction tokens generalizing s with
  | nil => exact fun hall => absurd (hall.symm.trans h) Bool.noConfusion
  | cons token rest ih =>
      unfold ofTokens
      split
      · exact fun _ => rfl
      · split
        · exact ih (Normal.insert h _)
        · exact ih h

theorem normal_parse (text : String) : (parse text).Normal := normal_ofTokens _ rfl

/-- What a set is written as denotes the set. -/
theorem parse_text {s : DerivationSet} (h : s.Normal) : parse s.text = s := by
  have hlisted : ∀ e r u l n : Bool,
      parse (text ⟨false, e, r, u, l, n⟩) = ⟨false, e, r, u, l, n⟩ := by
    decide +kernel
  obtain ⟨all, e, r, u, l, n⟩ := s
  cases all with
  | false => exact hlisted e r u l n
  | true =>
      rw [h rfl]
      decide +kernel

end DerivationSet

/-- What a component may forbid: to stand in for it, or to derive from it. -/
inductive Control where
  | block
  | final
  deriving DecidableEq, Repr

namespace Control

/-- The attribute of a component. -/
def label : Control → String
  | block => "block"
  | final => "final"

/-- The attribute of the root that stands in for it. -/
def default : Control → String
  | block => "blockDefault"
  | final => "finalDefault"

/-- The set that the root of a document gives to all that say nothing. -/
def common (control : Control) (root : Xml.Tag) : DerivationSet :=
  derivationSet root control.default

/-- The set that is in effect for a tag below a root: the one that its own
attribute denotes, even if that is empty, or else the common one. -/
def effective (control : Control) (root tag : Xml.Tag) : DerivationSet :=
  match tag.attribute? control.label with
  | some text => .parse text
  | none => control.common root

/-- A tag takes itself out of what is common: it has an attribute that denotes
the empty set. -/
def OptsOut (control : Control) (root tag : Xml.Tag) : Prop :=
  (∃ text, tag.attribute? control.label = some text ∧ DerivationSet.parse text = .empty) ∧
    control.common root ≠ .empty

/-- What is in effect once a component has been written below a root. -/
structure Carries (control : Control) (root tag root' tag' : Xml.Tag) : Prop where
  same_iff : control.effective root' tag' = control.effective root tag ↔ ¬ control.OptsOut root tag
  overruled : control.OptsOut root tag → control.effective root' tag' = control.common root

variable {control : Control} {root tag root' tag' : Xml.Tag}

theorem normal_derivationSet (t : Xml.Tag) (name : String) : (derivationSet t name).Normal := by
  unfold derivationSet
  cases t.attribute? name with
  | none => exact DerivationSet.normal_empty
  | some text => exact DerivationSet.normal_parse text

theorem common_written (h : root'.attribute? control.default =
    ((root.attribute? control.default).map DerivationSet.parse).map DerivationSet.text) :
    control.common root' = control.common root := by
  unfold common derivationSet
  rw [h]
  cases root.attribute? control.default with
  | none => rfl
  | some text =>
      simp only [Option.map_some, Option.getD_some]
      exact DerivationSet.parse_text (DerivationSet.normal_parse text)

/-- A set is written unless it is empty, and then the common one is in
effect. -/
theorem effective_written (hown : tag'.attribute? control.label =
    Writer.derivations (derivationSet tag control.label))
    (hcommon : control.common root' = control.common root) :
    control.effective root' tag' =
      if derivationSet tag control.label = .empty then control.common root
      else derivationSet tag control.label := by
  unfold effective
  rw [hown]
  unfold Writer.derivations DerivationSet.isEmpty
  by_cases hempty : derivationSet tag control.label = .empty
  · simp [hempty, hcommon]
  · simp [hempty, DerivationSet.parse_text (normal_derivationSet tag control.label)]

theorem Carries.of_eq (h : control.effective root' tag' = control.effective root tag)
    (hstays : ¬ control.OptsOut root tag) : control.Carries root tag root' tag' :=
  ⟨⟨fun _ => hstays, fun _ => h⟩, fun hopts => absurd hopts hstays⟩

/-- The set in effect changes only where the attribute denotes the empty set and
the common one is not empty: that one then is in effect. -/
theorem carries_written (hown : tag'.attribute? control.label =
    Writer.derivations (derivationSet tag control.label))
    (hcommon : control.common root' = control.common root) :
    control.Carries root tag root' tag' := by
  have hwritten := effective_written hown hcommon
  cases hattribute : tag.attribute? control.label with
  | none =>
      have hset : derivationSet tag control.label = .empty := by
        unfold derivationSet
        rw [hattribute]
        rfl
      have hsource : control.effective root tag = control.common root := by
        unfold effective
        rw [hattribute]
      rw [if_pos hset] at hwritten
      refine .of_eq (hwritten.trans hsource.symm) ?_
      rintro ⟨⟨text, htext, -⟩, -⟩
      rw [hattribute] at htext
      cases htext
  | some text =>
      have hset : derivationSet tag control.label = .parse text := by
        unfold derivationSet
        rw [hattribute]
        rfl
      have hsource : control.effective root tag = .parse text := by
        unfold effective
        rw [hattribute]
      rw [hset] at hwritten
      by_cases hempty : DerivationSet.parse text = .empty
      · rw [if_pos hempty] at hwritten
        rw [hempty] at hsource
        by_cases hcommon : control.common root = .empty
        · exact .of_eq (hwritten.trans (hcommon.trans hsource.symm)) fun hopts => hopts.2 hcommon
        · refine ⟨⟨fun heq => absurd (hwritten.symm.trans (heq.trans hsource)) hcommon, ?_⟩,
            fun _ => hwritten⟩
          exact fun hstays => absurd ⟨⟨text, hattribute, hempty⟩, hcommon⟩ hstays
      · rw [if_neg hempty] at hwritten
        refine .of_eq (hwritten.trans hsource.symm) ?_
        rintro ⟨⟨text', htext', hempty'⟩, -⟩
        cases Option.some.inj (hattribute.symm.trans htext')
        exact hempty hempty'

end Control

end XmlSchema
