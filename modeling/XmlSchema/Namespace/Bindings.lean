import XmlSchema.QName

/-!
# Prefix bindings

The namespace declarations of one element: prefixes bound to namespaces, in
the order of declaration.  The empty prefix is the default namespace.  A
prefix that is declared again keeps its place and takes the new namespace.

Walking down a tree, each element adds the bindings it declares to those of
its ancestors; a prefix means what the nearest declaration says.  A scope may
start from the bindings of another document, which answer for prefixes that
are not empty and never give a default namespace.
-/

namespace XmlSchema

/-- Ordered bindings from prefixes to namespaces. -/
structure Bindings where
  toList : List (String × String) := []
  deriving DecidableEq, Repr, Inhabited

namespace Bindings

/-- No binding at all. -/
def empty : Bindings := ⟨[]⟩

/-- Replace the namespace of a bound prefix, or append a new binding. -/
def insertPair (pfx uri : String) : List (String × String) → List (String × String)
  | [] => [(pfx, uri)]
  | (p, u) :: rest => if p = pfx then (p, uri) :: rest else (p, u) :: insertPair pfx uri rest

/-- Bind a prefix to a namespace. -/
def declare (b : Bindings) (pfx uri : String) : Bindings :=
  ⟨insertPair pfx uri b.toList⟩

/-- Declare the pairs of a list one after the other. -/
def ofList (pairs : List (String × String)) : Bindings :=
  pairs.foldl (fun b p => b.declare p.1 p.2) empty

/-- The namespace bound to a prefix. -/
def lookup? (b : Bindings) (pfx : String) : Option String :=
  b.toList.lookup pfx

/-- The first non-empty prefix bound to a namespace. -/
def prefixOf? (b : Bindings) (uri : String) : Option String :=
  (b.toList.find? (fun p => !p.1.isEmpty && p.2 == uri)).map Prod.fst

/-- Whether a prefix is bound. -/
def containsPrefix (b : Bindings) (pfx : String) : Bool :=
  (b.lookup? pfx).isSome

/-- The default namespace. -/
def default? (b : Bindings) : Option String := b.lookup? ""

/-- The number of bindings. -/
def size (b : Bindings) : Nat := b.toList.length

theorem lookup_cons_eq (p u q : String) (pairs : List (String × String)) :
    ((p, u) :: pairs).lookup q = if q = p then some u else pairs.lookup q := by
  by_cases h : q = p
  · subst h
    simp
  · have hb : (q == p) = false := by simp [h]
    simp [List.lookup_cons, hb, h]

theorem lookup_insertPair (pfx uri q : String) (pairs : List (String × String)) :
    (insertPair pfx uri pairs).lookup q = if q = pfx then some uri else pairs.lookup q := by
  induction pairs with
  | nil => simp only [insertPair, lookup_cons_eq]
  | cons p rest ih =>
      obtain ⟨p, u⟩ := p
      by_cases hp : p = pfx
      · subst hp
        by_cases h : q = p <;> simp only [insertPair, if_true, lookup_cons_eq, h, if_false]
      · have hne : ¬ (q = p ∧ q = pfx) := fun h => hp (h.1.symm.trans h.2)
        simp only [insertPair, hp, if_false, lookup_cons_eq, ih]
        by_cases h : q = p
        · have hq : ¬ q = pfx := fun h' => hne ⟨h, h'⟩
          simp only [if_pos h, if_neg hq]
        · simp only [if_neg h]

theorem lookup?_declare (b : Bindings) (pfx uri q : String) :
    (b.declare pfx uri).lookup? q = if q = pfx then some uri else b.lookup? q :=
  lookup_insertPair pfx uri q b.toList

end Bindings

/-- One level of a scope. -/
structure Scope.Level where
  bindings : Bindings
  prefixedOnly : Bool := false
  deriving DecidableEq, Repr

/-- The levels in scope, innermost first. -/
structure Scope where
  levels : List Scope.Level := []
  deriving DecidableEq, Repr, Inhabited

namespace Scope

/-- What one level says about a prefix. -/
def Level.lookup? (level : Level) (pfx : String) : Option String :=
  if level.prefixedOnly && pfx.isEmpty then none else level.bindings.lookup? pfx

/-- A scope of one level. -/
def root (bindings : Bindings) : Scope := ⟨[{ bindings }]⟩

/-- A scope that borrows the bindings of an enclosing document. -/
def inherited (bindings : Bindings) : Scope := ⟨[{ bindings, prefixedOnly := true }]⟩

/-- Step into an element that declares some bindings. -/
def enter (scope : Scope) (bindings : Bindings) : Scope := ⟨{ bindings } :: scope.levels⟩

/-- The namespace of a prefix: the nearest level that answers. -/
def lookup? (scope : Scope) (pfx : String) : Option String :=
  scope.levels.findSome? (·.lookup? pfx)

theorem lookup?_enter (scope : Scope) (bindings : Bindings) (pfx : String) :
    (scope.enter bindings).lookup? pfx = (bindings.lookup? pfx <|> scope.lookup? pfx) := by
  cases h : bindings.lookup? pfx <;>
    simp [enter, lookup?, Level.lookup?, h]

end Scope

end XmlSchema
