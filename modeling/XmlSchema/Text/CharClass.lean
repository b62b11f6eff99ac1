import XmlSchema.Text.Blank
import XmlSchema.Text.Natural

/-!
# Classes of characters

A class of characters is a list of runs.  A run goes from one code point to
another, perhaps with gaps of equal width.  A map takes the characters of a run
to characters that keep pace with them.

Both are written as rows of words in hexadecimal code points.  `41-5a` is a run
and `100-12e/2` one of every second code point; `c0-d6:e0` maps a run, and
`132:69.6a` maps one character to two.
-/

namespace XmlSchema.Text

/-- The code points from `first` to `last`, each `stride` after the one before. -/
structure Run where
  first : Nat
  last : Nat
  stride : Nat
  deriving DecidableEq, Repr

namespace Run

/-- Whether a code point belongs to a run. -/
def contains (r : Run) (n : Nat) : Bool :=
  r.first ≤ n && n ≤ r.last && (n - r.first) % r.stride == 0

/-- Read a run. -/
def ofChars? (cs : List Char) : Option Run := do
  let (range, stride) := (splitAtFirst '/' cs).getD (cs, ['1'])
  let (first, last) := (splitAtFirst '-' range).getD (range, range)
  return ⟨← hexNat? first, ← hexNat? last, ← hexNat? stride⟩

end Run

/-- A class of characters. -/
structure CharClass where
  runs : List Run := []
  deriving DecidableEq, Repr

namespace CharClass

/-- Whether a character belongs to a class. -/
def contains (k : CharClass) (c : Char) : Bool := k.runs.any (·.contains c.toNat)

/-- Read the rows of a class. -/
def ofRows (rows : List String) : CharClass :=
  ⟨rows.flatMap fun row => (words row).filterMap fun w => Run.ofChars? w.toList⟩

end CharClass

/-- A map from the characters of some runs.  The first character of the answer
keeps pace with the run. -/
structure CharMap where
  entries : List (Run × List Nat) := []
  deriving DecidableEq, Repr

namespace CharMap

/-- What an entry makes of a code point of its run. -/
def image (e : Run × List Nat) (n : Nat) : List Char :=
  match e.2 with
  | [] => []
  | t :: rest => Char.ofNat (t + (n - e.1.first)) :: rest.map Char.ofNat

/-- What a map makes of a character, if it has an entry for it. -/
def lookup? (m : CharMap) (c : Char) : Option (List Char) :=
  (m.entries.find? (·.1.contains c.toNat)).map (image · c.toNat)

/-- The code point that an entry takes to a character on its own. -/
def preimage? (e : Run × List Nat) (n : Nat) : Option Char :=
  match e.2 with
  | [t] =>
      if t ≤ n && e.1.contains (e.1.first + (n - t)) then
        some (Char.ofNat (e.1.first + (n - t)))
      else none
  | _ => none

/-- The first character that a map takes to a given one. -/
def source? (m : CharMap) (c : Char) : Option Char :=
  m.entries.findSome? (preimage? · c.toNat)

/-- Read an entry. -/
def entry? (cs : List Char) : Option (Run × List Nat) := do
  let (run, targets) ← splitAtFirst ':' cs
  return (← Run.ofChars? run, ← (splitOnChar '.' targets).mapM hexNat?)

/-- Read the rows of a map. -/
def ofRows (rows : List String) : CharMap :=
  ⟨rows.flatMap fun row => (words row).filterMap fun w => entry? w.toList⟩

end CharMap

end XmlSchema.Text
