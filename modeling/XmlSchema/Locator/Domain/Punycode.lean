import XmlSchema.Text.Natural

/-!
# Encoded labels

A label beyond ASCII is written with its ASCII characters first.  A hyphen and
the other characters follow, in the order of their code points, each as the
distance from the one before it.  Distances are numbers whose digits have
weights that adapt to the distances met so far.
-/

namespace XmlSchema.Domain

/-- The digit of a value below 36. -/
def labelDigit (d : Nat) : Char :=
  if d < 26 then Char.ofNat ('a'.toNat + d) else Char.ofNat ('0'.toNat + (d - 26))

/-- The value of a digit. -/
def labelDigitValue? (c : Char) : Option Nat :=
  if 'a' ≤ c ∧ c ≤ 'z' then some (c.toNat - 'a'.toNat)
  else if '0' ≤ c ∧ c ≤ '9' then some (c.toNat - '0'.toNat + 26)
  else none

/-- The least digit that may be followed by another, at a position. -/
def threshold (bias position : Nat) : Nat :=
  if position ≤ bias then 1 else if bias + 26 ≤ position then 26 else position - bias

/-- The bias after a distance, when `points` characters are in place. -/
def adaptBias (distance points : Nat) (first : Bool) : Nat :=
  let d := if first then distance / 700 else distance / 2
  shrink (d + d / points) 0
where
  /-- Divide until the distance is short, counting positions. -/
  shrink (d position : Nat) : Nat :=
    if 455 < d then shrink (d / 35) (position + 36) else position + 36 * d / (d + 38)
  termination_by d

theorem threshold_pos (bias position : Nat) : 1 ≤ threshold bias position := by
  unfold threshold
  split
  · omega
  · split <;> omega

theorem threshold_le (bias position : Nat) : threshold bias position ≤ 26 := by
  unfold threshold
  split
  · omega
  · split <;> omega

/-- The digits of a distance from a position on. -/
def distanceDigits (bias position q : Nat) : List Char :=
  let t := threshold bias position
  if q < t then [labelDigit q]
  else labelDigit (t + (q - t) % (36 - t)) ::
    distanceDigits bias (position + 36) ((q - t) / (36 - t))
termination_by q
decreasing_by
  have pos := threshold_pos bias position
  have shorter := Nat.div_le_self (q - threshold bias position) (36 - threshold bias position)
  omega

/-- A label half written: its digits so far, the distance from the character
written last, the bias, and how many characters are in place. -/
structure Encoding where
  digits : List Char
  distance : Nat
  bias : Nat
  handled : Nat

/-- Pass a character of the label while those with a given code are written. -/
def Encoding.pass (basic code : Nat) (e : Encoding) (c : Char) : Encoding :=
  if c.toNat < code then { e with distance := e.distance + 1 }
  else if c.toNat = code then
    { digits := e.digits ++ distanceDigits e.bias 36 e.distance
      distance := 0
      bias := adaptBias e.distance (e.handled + 1) (e.handled == basic)
      handled := e.handled + 1 }
  else e

/-- Write the characters with the given codes, which are in order, all those
below `next` being in place. -/
def Encoding.write (label : List Char) (basic : Nat) : List Nat → Nat → Encoding → Encoding
  | [], _, e => e
  | code :: rest, next, e =>
      let e := { e with distance := e.distance + (code - next) * (e.handled + 1) }
      let e := label.foldl (Encoding.pass basic code) e
      Encoding.write label basic rest (code + 1) { e with distance := e.distance + 1 }

/-- Whether a character is part of ASCII. -/
def isBasic (c : Char) : Bool := c.toNat < 128

/-- The encoded form of a label, without its mark. -/
def encode (label : List Char) : List Char :=
  let basic := label.filter isBasic
  let codes := ((label.filter (!isBasic ·)).map Char.toNat).eraseDups.mergeSort (· ≤ ·)
  let e := Encoding.write label basic.length codes 128 ⟨[], 0, 72, basic.length⟩
  basic ++ (if basic.isEmpty then [] else ['-']) ++ e.digits

/-- Distances are numbers of at most 32 bits. -/
def maxDistance : Nat := Nat.pow 2 32 - 1

/-- Add the distance at the front to `sum`; the answer has what follows it. -/
def readDistance? (bias : Nat) : Nat → Nat → Nat → List Char → Option (Nat × List Char)
  | _, _, _, [] => none
  | position, weight, sum, c :: rest => do
      let d ← labelDigitValue? c
      let sum := sum + d * weight
      let t := threshold bias position
      if maxDistance < sum then none
      else if d < t then some (sum, rest)
      else if maxDistance < weight * (36 - t) then none
      else readDistance? bias (position + 36) (weight * (36 - t)) sum rest

/-- Put the characters of the distances that follow in place, one for each unit
of fuel. -/
def decodeFrom? : Nat → Nat → Nat → Nat → List Char → List Char → Option (List Char)
  | _, _, _, _, label, [] => some label
  | 0, _, _, _, _, _ :: _ => none
  | fuel + 1, bias, code, place, label, c :: rest => do
      let (sum, rest) ← readDistance? bias 36 1 place (c :: rest)
      let points := label.length + 1
      let code := code + sum / points
      let place' := sum % points
      if code.isValidChar then
        decodeFrom? fuel (adaptBias (sum - place) points (place == 0)) code (place' + 1)
          (label.insertIdx place' (Char.ofNat code)) rest
      else none

/-- The label that an encoded form without its mark stands for. -/
def decode? (cs : List Char) : Option (List Char) :=
  let digits := (cs.reverse.takeWhile (· != '-')).reverse
  let basic := cs.take (cs.length - digits.length)
  if basic = ['-'] || !basic.all isBasic then none
  else decodeFrom? digits.length 72 128 0 basic.dropLast digits

end XmlSchema.Domain
