import XmlSchema.Text.Blank

/-!
# Attribute values with a fixed vocabulary

Forms, uses, the processing of wildcards, sets of derivation methods and
occurrence bounds, each with the reading and writing of its text.
-/

namespace XmlSchema

/-- Whether local names are in the target namespace. -/
inductive Form where
  | qualified
  | unqualified
  deriving DecidableEq, Repr, Inhabited

namespace Form

/-- The text of a form. -/
def text : Form → String
  | qualified => "qualified"
  | unqualified => "unqualified"

/-- Read a form, blanks aside. -/
def parse? (s : String) : Option Form :=
  [qualified, unqualified].find? fun f => f.text == Text.trim s

end Form

/-- Whether an attribute must, may or must not occur. -/
inductive AttributeUse where
  | optional
  | required
  | prohibited
  deriving DecidableEq, Repr, Inhabited

namespace AttributeUse

/-- The text of a use. -/
def text : AttributeUse → String
  | optional => "optional"
  | required => "required"
  | prohibited => "prohibited"

/-- Read a use, blanks aside. -/
def parse? (s : String) : Option AttributeUse :=
  [optional, required, prohibited].find? fun u => u.text == Text.trim s

end AttributeUse

/-- How strictly the content that a wildcard admits is checked. -/
inductive ProcessContents where
  | strict
  | lax
  | skip
  deriving DecidableEq, Repr, Inhabited

namespace ProcessContents

/-- The text of a mode of processing. -/
def text : ProcessContents → String
  | strict => "strict"
  | lax => "lax"
  | skip => "skip"

/-- Read a mode of processing, blanks aside. -/
def parse? (s : String) : Option ProcessContents :=
  [strict, lax, skip].find? fun p => p.text == Text.trim s

end ProcessContents

/-- Read a truth value, blanks aside. -/
def parseBool? (s : String) : Option Bool :=
  let t := Text.trim s
  if t = "true" || t = "1" then some true
  else if t = "false" || t = "0" then some false
  else none

/-- The text of a truth value. -/
def boolText (b : Bool) : String := if b then "true" else "false"

/-- A way of deriving one type from another, or of standing in for an element. -/
inductive DerivationMethod where
  | extension
  | restriction
  | substitution
  | list
  | union
  deriving DecidableEq, Repr, Inhabited

namespace DerivationMethod

/-- The token of a method. -/
def text : DerivationMethod → String
  | extension => "extension"
  | restriction => "restriction"
  | substitution => "substitution"
  | list => "list"
  | union => "union"

/-- The methods in the order in which a set lists them. -/
def every : List DerivationMethod := [extension, restriction, substitution, list, union]

/-- Read the token of a method. -/
def parse? (s : String) : Option DerivationMethod := every.find? fun m => m.text == s

end DerivationMethod

/-- A set of derivation methods; `all` stands for every method, present and
future. -/
structure DerivationSet where
  all : Bool := false
  extension : Bool := false
  restriction : Bool := false
  substitution : Bool := false
  list : Bool := false
  union : Bool := false
  deriving DecidableEq, Repr, Inhabited

namespace DerivationSet

/-- The set without a method. -/
def empty : DerivationSet := {}

/-- The set of all methods. -/
def full : DerivationSet := { all := true }

/-- Whether a method is listed by itself. -/
def lists (s : DerivationSet) : DerivationMethod → Bool
  | .extension => s.extension
  | .restriction => s.restriction
  | .substitution => s.substitution
  | .list => s.list
  | .union => s.union

/-- Add a method. -/
def insert (s : DerivationSet) : DerivationMethod → DerivationSet
  | .extension => { s with extension := true }
  | .restriction => { s with restriction := true }
  | .substitution => { s with substitution := true }
  | .list => { s with list := true }
  | .union => { s with union := true }

/-- Whether a method is in the set. -/
def contains (s : DerivationSet) (m : DerivationMethod) : Bool := s.all || s.lists m

/-- Whether nothing is in the set. -/
def isEmpty (s : DerivationSet) : Bool := s = empty

/-- The set of a list of tokens; unknown tokens are skipped and `#all` settles
the matter. -/
def ofTokens (s : DerivationSet) : List String → DerivationSet
  | [] => s
  | token :: rest =>
      if token = "#all" then full
      else
        match DerivationMethod.parse? token with
        | some m => ofTokens (s.insert m) rest
        | none => ofTokens s rest

/-- Read a set of derivation methods. -/
def parse (s : String) : DerivationSet := ofTokens empty (Text.words s)

/-- The text of a set of derivation methods. -/
def text (s : DerivationSet) : String :=
  if s.all then "#all"
  else " ".intercalate ((DerivationMethod.every.filter s.lists).map DerivationMethod.text)

theorem contains_insert (s : DerivationSet) (m n : DerivationMethod) :
    (s.insert m).contains n = (s.contains n || decide (m = n)) := by
  cases m <;> cases n <;> simp [insert, contains, lists]

end DerivationSet

/-- The bounds on how often a particle occurs. -/
structure Occurs where
  min : Nat := 1
  max : Nat := 1
  deriving DecidableEq, Repr, Inhabited

namespace Occurs

/-- The bound that stands for "unbounded". -/
def unbounded : Nat := Nat.pow 2 64 - 1

/-- Whether there is no upper bound. -/
def isUnbounded (o : Occurs) : Bool := o.max == unbounded

/-- The number that decimal digits spell, when there is at least one digit. -/
def digits? (cs : List Char) : Option Nat :=
  if cs.isEmpty || cs.any (fun c => !c.isDigit) then none
  else some (cs.foldl (fun n c => n * 10 + (c.toNat - '0'.toNat)) 0)

/-- Read a numeral of at most 64 bits; a leading plus sign is allowed. -/
def numeral? (s : String) : Option Nat :=
  (digits? (match s.toList with
    | '+' :: rest => rest
    | cs => cs)).filter (· ≤ unbounded)

/-- Read one bound: 1 when absent or malformed. -/
def parseBound : Option String → Nat
  | none => 1
  | some s =>
      let t := Text.trim s
      if t = "unbounded" then unbounded else (numeral? t).getD 1

/-- Read both bounds, each on its own. -/
def parse (min max : Option String) : Occurs := ⟨parseBound min, parseBound max⟩

/-- The text of a bound; the default 1 is not written. -/
def boundText? (bound : Nat) : Option String :=
  if bound = 1 then none
  else if bound = unbounded then some "unbounded"
  else some (toString bound)

/-- The texts of both bounds. -/
def lexical (o : Occurs) : Option String × Option String :=
  (boundText? o.min, boundText? o.max)

end Occurs

end XmlSchema
