/-!
# Numbers in digits

Reading a number without sign from decimal digits: a plus may stand in front of
them, and there is a greatest number that is accepted.  Hexadecimal digits have
letters of either case.
-/

namespace XmlSchema.Text

/-- The greatest number of 32 bits. -/
def maxWord32 : Nat := Nat.pow 2 32 - 1

/-- The greatest number of 64 bits. -/
def maxWord64 : Nat := Nat.pow 2 64 - 1

/-- The number that decimal digits spell. -/
def ofDigits (ds : List Char) : Nat := ds.foldl (fun n c => n * 10 + (c.toNat - '0'.toNat)) 0

/-- The number that a text spells, up to a greatest one. -/
def natural? (greatest : Nat) (s : String) : Option Nat :=
  let ds := match s.toList with
    | '+' :: rest => rest
    | cs => cs
  if !ds.isEmpty && ds.all Char.isDigit && ofDigits ds ≤ greatest then some (ofDigits ds)
  else none

/-- The value of a hexadecimal digit. -/
def hexValue? (c : Char) : Option Nat :=
  if '0' ≤ c ∧ c ≤ '9' then some (c.toNat - '0'.toNat)
  else if 'a' ≤ c ∧ c ≤ 'f' then some (c.toNat - 'a'.toNat + 10)
  else if 'A' ≤ c ∧ c ≤ 'F' then some (c.toNat - 'A'.toNat + 10)
  else none

/-- Whether a character is a hexadecimal digit. -/
def isHexDigit (c : Char) : Bool := (hexValue? c).isSome

/-- The hexadecimal digit of a value below 16, in a capital letter. -/
def hexDigit (n : Nat) : Char :=
  if n < 10 then Char.ofNat ('0'.toNat + n) else Char.ofNat ('A'.toNat + (n - 10))

/-- The number that some hexadecimal digits spell; at least one is needed. -/
def hexNat? (cs : List Char) : Option Nat :=
  if cs.isEmpty then none
  else cs.foldlM (fun n c => (hexValue? c).map (n * 16 + ·)) 0

theorem hexValue?_hexDigit {n : Nat} (h : n < 16) : hexValue? (hexDigit n) = some n := by
  have all : ∀ k ∈ List.range 16, hexValue? (hexDigit k) = some k := by decide
  exact all n (List.mem_range.mpr h)

end XmlSchema.Text
