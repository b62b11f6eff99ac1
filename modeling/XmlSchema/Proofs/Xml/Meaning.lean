import XmlSchema.Namespace.Bindings
import XmlSchema.Xml.Tree

/-!
# What the names of a document mean

A written name means what its prefix is bound to where the name stands: by the
element itself or by the nearest element around it that declares the prefix.  A
document is consistent when every name means the namespace that it has.
-/

namespace XmlSchema.Xml

/-- What prefixes are bound to at some place; the empty prefix is bound to the
default namespace. -/
abbrev Meaning := String → Option String

namespace Meaning

/-- No prefix is bound. -/
def nothing : Meaning := fun _ => none

/-- What is bound outside of all elements. -/
def outermost : Meaning := fun pfx => if pfx = "xml" then some xmlNamespace else none

/-- What is bound inside an element that declares some bindings. -/
def enter (m : Meaning) (b : Bindings) : Meaning := fun pfx => b.lookup? pfx <|> m pfx

/-- What is bound by one meaning, and by another one where that one is silent. -/
def onto (inner outer : Meaning) : Meaning := fun pfx => inner pfx <|> outer pfx

/-- What one meaning binds, another one binds to the same namespace. -/
def Within (m m' : Meaning) : Prop := ∀ pfx uri, m pfx = some uri → m' pfx = some uri

theorem Within.refl (m : Meaning) : m.Within m := fun _ _ h => h

theorem Within.trans {m m' m'' : Meaning} (h : m.Within m') (h' : m'.Within m'') :
    m.Within m'' := fun pfx uri hpfx => h' pfx uri (h pfx uri hpfx)

@[simp] theorem enter_empty (m : Meaning) : m.enter {} = m := rfl

@[simp] theorem nothing_onto (outer : Meaning) : nothing.onto outer = outer := rfl

theorem enter_onto (inner outer : Meaning) (b : Bindings) :
    (inner.enter b).onto outer = (inner.onto outer).enter b := by
  funext pfx
  unfold onto enter
  cases b.lookup? pfx <;> rfl

theorem scope_enter (scope : Scope) (b : Bindings) :
    (scope.enter b).lookup? = enter scope.lookup? b :=
  funext fun pfx => scope.lookup?_enter b pfx

end Meaning

namespace Name

/-- The written form of a name means its namespace.  Without a prefix an
element is in the default namespace and an attribute in none. -/
def Denoted (m : Meaning) (isAttribute : Bool) (name : Name) : Prop :=
  match name.pfx, isAttribute with
  | some pfx, _ => m pfx = some name.namespaceName
  | none, false => (m "").getD "" = name.namespaceName
  | none, true => name.namespaceName = ""

/-- The prefix of a name, or its lack of one, is bound to another namespace. -/
def Shadowed (m : Meaning) (isAttribute : Bool) (name : Name) : Prop :=
  match name.pfx, isAttribute with
  | some pfx, _ => ∃ uri ∈ m pfx, uri ≠ name.namespaceName
  | none, false => ∃ uri ∈ m "", uri ≠ name.namespaceName
  | none, true => False

instance (m : Meaning) (isAttribute : Bool) (name : Name) :
    Decidable (name.Denoted m isAttribute) := by
  unfold Denoted
  split <;> infer_instance

instance (m : Meaning) (isAttribute : Bool) (name : Name) :
    Decidable (name.Shadowed m isAttribute) := by
  unfold Shadowed
  split <;> infer_instance

/-- A name is spelled with a prefix that one of two meanings binds to its
namespace, or with none when it is in no namespace. -/
def Spelled (outer inner : Meaning) (isAttribute : Bool) (name : Name) : Prop :=
  match name.pfx, isAttribute with
  | some pfx, _ => inner pfx = some name.namespaceName ∨ outer pfx = some name.namespaceName
  | none, false => inner "" = some name.namespaceName ∨ name.namespaceName = ""
  | none, true => name.namespaceName = ""

variable {outer inner : Meaning} {isAttribute : Bool} {name : Name}

theorem Spelled.mono {outer' : Meaning} (h : outer.Within outer')
    (hname : name.Spelled outer inner isAttribute) : name.Spelled outer' inner isAttribute := by
  unfold Spelled at hname ⊢
  split at hname
  · exact hname.imp_right (h _ _)
  · exact hname
  · exact hname

theorem eq_iff_not_exists_ne {uri other : String} :
    uri = other ↔ ¬ ∃ u ∈ some uri, u ≠ other := by simp

/-- What is spelled well means its namespace unless a nearer declaration
shadows the one that it was spelled with. -/
theorem Spelled.denoted_iff (h : name.Spelled outer inner isAttribute)
    (hdefault : outer "" = none) :
    name.Denoted (inner.onto outer) isAttribute ↔ ¬ name.Shadowed inner isAttribute := by
  unfold Spelled at h
  unfold Denoted Shadowed Meaning.onto
  split at h
  · rename_i pfx _
    cases hinner : inner pfx with
    | none =>
        rw [hinner] at h
        exact iff_of_true (h.resolve_left nofun) nofun
    | some uri => exact Option.some_inj.trans eq_iff_not_exists_ne
  · cases hinner : inner "" with
    | none =>
        rw [hinner] at h
        rw [hdefault]
        exact iff_of_true (h.resolve_left nofun).symm nofun
    | some uri => exact eq_iff_not_exists_ne
  · exact iff_of_true h not_false

end Name

/-- Every name of a tag has a property at its place. -/
def Tag.EveryName (P : Meaning → Bool → Name → Prop) (m : Meaning) (t : Tag) : Prop :=
  P m false t.name ∧ ∀ a ∈ t.attributes, P m true a.name

namespace Node

mutual

/-- Every name in a node has a property at its place; `m` is what is bound
around the node. -/
def EveryName (P : Meaning → Bool → Name → Prop) (m : Meaning) : Node → Prop
  | .text _ => True
  | .comment _ => True
  | .element t kids => t.EveryName P (m.enter t.declared) ∧ EveryNameIn P (m.enter t.declared) kids

/-- Every name in some nodes has a property at its place. -/
def EveryNameIn (P : Meaning → Bool → Name → Prop) (m : Meaning) : List Node → Prop
  | [] => True
  | node :: rest => EveryName P m node ∧ EveryNameIn P m rest

end

section Decidable

variable (P : Meaning → Bool → Name → Prop) [∀ m isAttribute name, Decidable (P m isAttribute name)]

mutual

/-- Whether every name in a node has a property can be decided. -/
def decideEveryName (m : Meaning) : (node : Node) → Decidable (EveryName P m node)
  | .text _ => .isTrue trivial
  | .comment _ => .isTrue trivial
  | .element t kids =>
      have := decideEveryNameIn (m.enter t.declared) kids
      inferInstanceAs (Decidable ((P (m.enter t.declared) false t.name ∧
        ∀ a ∈ t.attributes, P (m.enter t.declared) true a.name) ∧
          EveryNameIn P (m.enter t.declared) kids))

/-- Whether every name in some nodes has a property can be decided. -/
def decideEveryNameIn (m : Meaning) : (nodes : List Node) → Decidable (EveryNameIn P m nodes)
  | [] => .isTrue trivial
  | node :: rest =>
      have := decideEveryName m node
      have := decideEveryNameIn m rest
      inferInstanceAs (Decidable (EveryName P m node ∧ EveryNameIn P m rest))

end

instance (m : Meaning) (nodes : List Node) : Decidable (EveryNameIn P m nodes) :=
  decideEveryNameIn P m nodes

end Decidable

variable {P Q : Meaning → Bool → Name → Prop}

mutual

theorem EveryName.mono (h : ∀ m isAttribute name, P m isAttribute name → Q m isAttribute name) :
    ∀ {m : Meaning} {node : Node}, node.EveryName P m → node.EveryName Q m
  | _, .text _, _ => by
      unfold EveryName
      trivial
  | _, .comment _, _ => by
      unfold EveryName
      trivial
  | _, .element _ _, hnode => by
      unfold EveryName at hnode ⊢
      obtain ⟨⟨hname, hattributes⟩, hkids⟩ := hnode
      exact ⟨⟨h _ _ _ hname, fun a ha => h _ _ _ (hattributes a ha)⟩, hkids.mono h⟩

theorem EveryNameIn.mono (h : ∀ m isAttribute name, P m isAttribute name → Q m isAttribute name) :
    ∀ {m : Meaning} {nodes : List Node}, EveryNameIn P m nodes → EveryNameIn Q m nodes
  | _, [], _ => by
      unfold EveryNameIn
      trivial
  | _, _ :: _, hnodes => by
      unfold EveryNameIn at hnodes ⊢
      exact ⟨hnodes.1.mono h, hnodes.2.mono h⟩

end

mutual

/-- Names with two equivalent properties all have the one if they all have the
other. -/
theorem EveryName.congr : ∀ {m : Meaning} {node : Node},
    node.EveryName (fun m isAttribute name => P m isAttribute name ↔ Q m isAttribute name) m →
    (node.EveryName P m ↔ node.EveryName Q m)
  | _, .text _, _ => by
      unfold EveryName
      exact Iff.rfl
  | _, .comment _, _ => by
      unfold EveryName
      exact Iff.rfl
  | _, .element t kids, h => by
      unfold EveryName Tag.EveryName at h ⊢
      obtain ⟨⟨hname, hattributes⟩, hkids⟩ := h
      have hall := forall₂_congr hattributes
      exact and_congr (and_congr hname hall) hkids.congr

theorem EveryNameIn.congr : ∀ {m : Meaning} {nodes : List Node},
    EveryNameIn (fun m isAttribute name => P m isAttribute name ↔ Q m isAttribute name) m nodes →
    (EveryNameIn P m nodes ↔ EveryNameIn Q m nodes)
  | _, [], _ => by
      unfold EveryNameIn
      exact Iff.rfl
  | _, node :: rest, h => by
      unfold EveryNameIn at h ⊢
      exact and_congr h.1.congr h.2.congr

end

mutual

/-- What is bound around a node can be taken into the property. -/
theorem everyName_onto (outer : Meaning) : ∀ {m : Meaning} {node : Node},
    node.EveryName P (m.onto outer) ↔ node.EveryName (fun m => P (m.onto outer)) m
  | _, .text _ => by
      unfold EveryName
      exact Iff.rfl
  | _, .comment _ => by
      unfold EveryName
      exact Iff.rfl
  | m, .element t kids => by
      unfold EveryName Tag.EveryName
      rw [← Meaning.enter_onto]
      exact and_congr Iff.rfl (everyNameIn_onto outer)

theorem everyNameIn_onto (outer : Meaning) : ∀ {m : Meaning} {nodes : List Node},
    EveryNameIn P (m.onto outer) nodes ↔ EveryNameIn (fun m => P (m.onto outer)) m nodes
  | _, [] => by
      unfold EveryNameIn
      exact Iff.rfl
  | _, node :: rest => by
      unfold EveryNameIn
      exact and_congr (everyName_onto outer) (everyNameIn_onto outer)

end

theorem everyNameIn_append {m : Meaning} {left right : List Node} :
    EveryNameIn P m (left ++ right) ↔ EveryNameIn P m left ∧ EveryNameIn P m right := by
  induction left with
  | nil =>
      rw [List.nil_append]
      exact (iff_of_eq (true_and _)).symm
  | cons node rest ih =>
      rw [List.cons_append]
      simp only [EveryNameIn, ih, and_assoc]

end Node

namespace Element

/-- What the root of a document binds. -/
def bound (e : Element) : Meaning := Meaning.outermost.enter e.tag.declared

/-- Every name in a document means the namespace that it has. -/
def Consistent (e : Element) : Prop :=
  (Node.ofElement e).EveryName (fun m isAttribute name => name.Denoted m isAttribute)
    Meaning.outermost

/-- No name in a document stands below a declaration, other than those of the
root, that binds its prefix to another namespace. -/
def Unshadowed (e : Element) : Prop :=
  Node.EveryNameIn (fun inner isAttribute name => ¬ name.Shadowed inner isAttribute)
    Meaning.nothing e.children

instance (e : Element) : Decidable e.Unshadowed :=
  inferInstanceAs (Decidable (Node.EveryNameIn _ _ _))

/-- A name in a document means the namespace that it has, unless a declaration
below the root comes between. -/
structure Exact (e : Element) : Prop where
  root : e.tag.EveryName (fun m isAttribute name => name.Denoted m isAttribute) e.bound
  below : Node.EveryNameIn (fun inner isAttribute name =>
    name.Denoted (inner.onto e.bound) isAttribute ↔ ¬ name.Shadowed inner isAttribute)
      Meaning.nothing e.children

theorem Exact.consistent_iff {e : Element} (h : e.Exact) : e.Consistent ↔ e.Unshadowed := by
  have hbelow : Node.EveryNameIn (fun m isAttribute name => name.Denoted m isAttribute)
      (Meaning.nothing.onto e.bound) e.children ↔ e.Unshadowed :=
    (Node.everyNameIn_onto e.bound).trans h.below.congr
  unfold Consistent Node.ofElement Node.EveryName
  exact (and_iff_right h.root).trans hbelow

/-- A document is exact when its names are spelled with what its root binds. -/
theorem exact_of_spelled {e : Element} (hdefault : e.bound "" = none)
    (hroot : e.tag.EveryName (Name.Spelled e.bound) Meaning.nothing)
    (hbelow : Node.EveryNameIn (Name.Spelled e.bound) Meaning.nothing e.children) : e.Exact := by
  have hunshadowed : ∀ {isAttribute : Bool} {name : Name},
      ¬ name.Shadowed Meaning.nothing isAttribute := by
    intro isAttribute name h
    unfold Name.Shadowed at h
    split at h
    · exact h.elim fun _ hu => nomatch hu.1
    · exact h.elim fun _ hu => nomatch hu.1
    · exact h
  have hdenoted : ∀ {isAttribute : Bool} {name : Name},
      name.Spelled e.bound Meaning.nothing isAttribute → name.Denoted e.bound isAttribute :=
    fun hname => (hname.denoted_iff hdefault).2 hunshadowed
  exact ⟨⟨hdenoted hroot.1, fun a ha => hdenoted (hroot.2 a ha)⟩,
    hbelow.mono fun _ _ _ hname => hname.denoted_iff hdefault⟩

end Element

end XmlSchema.Xml
