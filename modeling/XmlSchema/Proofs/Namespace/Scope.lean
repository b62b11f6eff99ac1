import XmlSchema.Document.Context

/-!
# What prefixes mean in scope

A prefix means what the nearest declaration says.  What an enclosing document
lends answers last, for prefixes that are not empty.
-/

namespace XmlSchema

namespace Context

variable {scope : Scope} {bindings : Bindings} {pfx : String}

theorem namespaceOf?_enter :
    namespaceOf? (scope.enter bindings) pfx =
      if pfx = "xml" then some xmlNamespace
      else (bindings.lookup? pfx <|> namespaceOf? scope pfx) := by
  unfold namespaceOf?
  rw [Scope.lookup?_enter]
  split
  · rfl
  · cases bindings.lookup? pfx <;> rfl

theorem namespaceOf?_inherited :
    namespaceOf? (.inherited bindings) pfx =
      if pfx = "xml" then some xmlNamespace
      else if pfx = "" then some "" else bindings.lookup? pfx := by
  unfold namespaceOf? Scope.inherited Scope.lookup? Scope.Level.lookup?
  by_cases hpfx : pfx = ""
  · simp [hpfx]
  · simp only [List.findSome?_cons, List.findSome?_nil, Bool.true_and,
      String.isEmpty_iff, hpfx, if_false]
    cases bindings.lookup? pfx <;> rfl

end Context

/-- Every prefix that has a meaning in one scope has the same in another. -/
def Scope.Refines (scope wider : Scope) : Prop :=
  ∀ pfx uri, Context.namespaceOf? scope pfx = some uri → Context.namespaceOf? wider pfx = some uri

namespace Scope.Refines

variable {scope wider : Scope}

theorem enter (h : scope.Refines wider) (bindings : Bindings) :
    (scope.enter bindings).Refines (wider.enter bindings) := by
  intro pfx uri hpfx
  rw [Context.namespaceOf?_enter] at hpfx ⊢
  split
  · rename_i hxml
    rwa [if_pos hxml] at hpfx
  · rename_i hxml
    rw [if_neg hxml] at hpfx
    cases hb : bindings.lookup? pfx with
    | some found =>
        rw [hb] at hpfx
        exact hpfx
    | none =>
        rw [hb] at hpfx
        exact h pfx uri hpfx

/-- Nothing that an enclosing document lends takes a meaning away. -/
theorem inherited (bindings : Bindings) : (Scope.inherited {}).Refines (.inherited bindings) := by
  intro pfx uri hpfx
  rw [Context.namespaceOf?_inherited] at hpfx ⊢
  by_cases hxml : pfx = "xml"
  · rwa [if_pos hxml] at hpfx ⊢
  · by_cases hempty : pfx = ""
    · rwa [if_neg hxml, if_pos hempty] at hpfx ⊢
    · rw [if_neg hxml, if_neg hempty] at hpfx
      cases hpfx

end Scope.Refines

end XmlSchema
