/-!
# Numbers with fixed places

A number is shown with a fixed count of decimal places.  The exact value is
rounded to the nearest such number, and a tie goes to the even neighbour.
-/

namespace XmlSchema

/-- A quotient of natural numbers. -/
structure Quotient where
  num : Nat
  den : Nat
  deriving DecidableEq, Repr, Inhabited

namespace Quotient

/-- The exact value of a finite floating-point number without sign: its fields
are an exponent of 11 bits and a significand of 52. -/
def ofFloat (x : Float) : Quotient :=
  let bits := x.toBits.toNat
  let exponent := bits / Nat.pow 2 52 % Nat.pow 2 11
  let fraction := bits % Nat.pow 2 52
  let significand := if exponent = 0 then fraction else fraction + Nat.pow 2 52
  let exponent := max exponent 1
  if 1075 ≤ exponent then ⟨significand * Nat.pow 2 (exponent - 1075), 1⟩
  else ⟨significand, Nat.pow 2 (1075 - exponent)⟩

/-- What is left when a whole number is taken away as often as possible. -/
def remainder (q : Quotient) (n : Nat) : Quotient := ⟨q.num % (n * q.den), q.den⟩

/-- The nearest natural number, the even one of two. -/
def round (q : Quotient) : Nat :=
  let whole := q.num / q.den
  let rest := q.num % q.den
  if 2 * rest < q.den then whole
  else if q.den < 2 * rest then whole + 1
  else whole + whole % 2

/-- The text with a count of decimal places, of which there is at least one. -/
def text (places : Nat) (q : Quotient) : String :=
  let scaled := round ⟨q.num * Nat.pow 10 places, q.den⟩
  let fraction := toString (scaled % Nat.pow 10 places)
  toString (scaled / Nat.pow 10 places) ++ "." ++
    String.ofList (List.replicate (places - fraction.length) '0') ++ fraction

/-- A rounded quotient is within half a unit of the exact one. -/
theorem round_near (q : Quotient) (h : 0 < q.den) :
    2 * q.num ≤ 2 * (q.round * q.den) + q.den ∧ 2 * (q.round * q.den) ≤ 2 * q.num + q.den := by
  have hdiv : q.den * (q.num / q.den) + q.num % q.den = q.num := Nat.div_add_mod ..
  have hlt : q.num % q.den < q.den := Nat.mod_lt _ h
  have hcomm : q.num / q.den * q.den = q.den * (q.num / q.den) := Nat.mul_comm ..
  have hsucc : (q.num / q.den + 1) * q.den = q.den * (q.num / q.den) + q.den := by
    rw [Nat.add_mul, Nat.one_mul, hcomm]
  unfold round
  simp only
  split
  · omega
  · split
    · omega
    · rcases Nat.mod_two_eq_zero_or_one (q.num / q.den) with hm | hm
      · rw [hm, Nat.add_zero]
        omega
      · rw [hm]
        omega

end Quotient

end XmlSchema
