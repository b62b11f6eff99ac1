/-!
# Structured values

Settings and reports are trees of values: lists, tables with text keys, and
scalars.  The entries of a table keep the order in which they were written, and
a key may come up more than once.
-/

namespace XmlSchema.Data

/-- A structured value.  `decimal` and `moment` keep the text of a number that
is no integer in range and of a date or time; `garbled` is a string that spells
no text, or a table with such a key. -/
inductive Value where
  | null
  | bool (b : Bool)
  | integer (n : Int)
  | decimal (text : String)
  | moment (text : String)
  | string (s : String)
  | garbled
  | list (items : List Value)
  | table (entries : List (String × Value))
  deriving Repr, Inhabited

namespace Value

/-- The value of a natural number. -/
def nat (n : Nat) : Value := integer n

/-- The value of a text that may be missing. -/
def text? : Option String → Value
  | none => null
  | some s => string s

/-- The value of a number that may be missing. -/
def nat? : Option Nat → Value
  | none => null
  | some n => nat n

/-- The list of some texts. -/
def texts (ss : List String) : Value := list (ss.map string)

/-- A table without the entries that have no value. -/
def record (entries : List (String × Option Value)) : Value :=
  table (entries.filterMap fun e => e.2.map fun v => (e.1, v))

/-- The items of a list. -/
def items : Value → List Value
  | list vs => vs
  | _ => []

/-- The entries of a table. -/
def entries : Value → List (String × Value)
  | table es => es
  | _ => []

/-- The text of a string. -/
def asString? : Value → Option String
  | string s => some s
  | _ => none

/-- A truth value. -/
def asBool? : Value → Option Bool
  | bool b => some b
  | _ => none

/-- A number without sign. -/
def asNat? : Value → Option Nat
  | integer n => if 0 ≤ n then some n.toNat else none
  | _ => none

/-- Whether a value says nothing. -/
def isNull : Value → Bool
  | null => true
  | _ => false

/-- The first value under a key, when it says something. -/
def field? (v : Value) (key : String) : Option Value :=
  (v.entries.lookup key).filter fun x => !x.isNull

/-- The string under a key. -/
def stringAt? (v : Value) (key : String) : Option String := (v.field? key).bind asString?

/-- The truth value under a key. -/
def boolAt? (v : Value) (key : String) : Option Bool := (v.field? key).bind asBool?

/-- Whether the value under a key is true. -/
def flagAt (v : Value) (key : String) : Bool := (v.boolAt? key).getD false

/-- The number under a key. -/
def natAt? (v : Value) (key : String) : Option Nat := (v.field? key).bind asNat?

/-- The items of the list under a key. -/
def itemsAt (v : Value) (key : String) : List Value := ((v.field? key).map items).getD []

/-- The strings in the list under a key. -/
def stringsAt (v : Value) (key : String) : List String := (v.itemsAt key).filterMap asString?

mutual

/-- How deeply a value is nested. -/
def depth : Value → Nat
  | list vs => depthList vs + 1
  | table es => depthEntries es + 1
  | _ => 0

/-- The depth of the deepest item of a list. -/
def depthList : List Value → Nat
  | [] => 0
  | v :: rest => max (depth v) (depthList rest)

/-- The depth of the deepest entry of a table. -/
def depthEntries : List (String × Value) → Nat
  | [] => 0
  | (_, v) :: rest => max (depth v) (depthEntries rest)

end

end Value

end XmlSchema.Data
