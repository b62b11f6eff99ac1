/-!
# Shapes of byte strings

A shape tells which byte strings are matched: single bytes and runs of bytes
from a set, one shape after another, one of two shapes.  Matching reads the
bytes one by one and keeps the shapes that the rest may have.
-/

namespace XmlSchema.Glob

/-- A set of bytes, given by ranges that it holds or leaves out. -/
structure ByteSet where
  negated : Bool := false
  ranges : List (UInt8 × UInt8) := []
  deriving DecidableEq, Repr, Inhabited

namespace ByteSet

/-- Whether a byte is in the set. -/
def has (s : ByteSet) (b : UInt8) : Bool :=
  s.ranges.any (fun r => decide (r.1 ≤ b) && decide (b ≤ r.2)) != s.negated

/-- The set of one byte. -/
def single (b : UInt8) : ByteSet := { ranges := [(b, b)] }

/-- All bytes. -/
def all : ByteSet := { negated := true }

/-- All bytes but the slash. -/
def noSlash : ByteSet := { negated := true, ranges := [(47, 47)] }

end ByteSet

/-- A shape of byte strings. -/
inductive Shape where
  | done
  | one (s : ByteSet)
  | many (s : ByteSet)
  | seq (first second : Shape)
  | either (first second : Shape)
  deriving DecidableEq, Repr, Inhabited

namespace Shape

/-- Whether the empty string has the shape. -/
def nullable : Shape → Bool
  | done => true
  | one _ => false
  | many _ => true
  | seq a b => a.nullable && b.nullable
  | either a b => a.nullable || b.nullable

/-- One shape after another. -/
def andThen : Shape → Shape → Shape
  | done, b => b
  | a, b => seq a b

/-- The shapes that the rest of a string of this shape has after a byte. -/
def after (b : UInt8) : Shape → List Shape
  | done => []
  | one s => if s.has b then [done] else []
  | many s => if s.has b then [many s] else []
  | seq x y => (x.after b).map (·.andThen y) ++ if x.nullable then y.after b else []
  | either x y => x.after b ++ y.after b

/-- The shapes that the rest of a string of one of some shapes has after a
byte, each once. -/
def step (shapes : List Shape) (b : UInt8) : List Shape :=
  (shapes.flatMap fun s => s.after b).eraseDups

/-- Whether a byte string has a shape. -/
def matches? (s : Shape) (bytes : List UInt8) : Bool :=
  (bytes.foldl step [s]).any nullable

/-- The shape of one byte string. -/
def ofBytes (bytes : List UInt8) : Shape :=
  bytes.foldr (fun b s => andThen (one (.single b)) s) done

/-- One of several shapes. -/
def oneOf : List Shape → Shape
  | [] => done
  | [s] => s
  | s :: rest => either s (oneOf rest)

end Shape

end XmlSchema.Glob
