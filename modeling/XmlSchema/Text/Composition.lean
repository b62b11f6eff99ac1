import XmlSchema.Text.Composition.Composites

/-!
# Composed text

A base and its marks may be written as one character.  Text is composed when
marks are in the order of their classes and every base has taken up the marks it
can.  The characters given here are those that composition itself can make; a
character that is never part of composed text stays as it is.
-/

namespace XmlSchema.Text

/-- The class by which a mark is ordered; a base has class zero. -/
def combiningClass (c : Char) : Nat :=
  ((combiningClasses.find? (·.2.contains c)).map Prod.fst).getD 0

/-- The Korean syllable of two characters: a consonant and a vowel, or an open
syllable and a final consonant. -/
def syllable? (a b : Char) : Option Char :=
  let first := a.toNat
  let second := b.toNat
  if 0x1100 ≤ first && first < 0x1113 && 0x1161 ≤ second && second < 0x1176 then
    some (Char.ofNat (0xAC00 + ((first - 0x1100) * 21 + (second - 0x1161)) * 28))
  else if 0xAC00 ≤ first && first < 0xD7A4 && (first - 0xAC00) % 28 == 0 &&
      0x11A7 < second && second < 0x11C3 then
    some (Char.ofNat (first + (second - 0x11A7)))
  else none

/-- The two characters of a Korean syllable. -/
def syllableParts? (c : Char) : Option (Char × Char) :=
  if 0xAC00 ≤ c.toNat && c.toNat < 0xD7A4 then
    let n := c.toNat - 0xAC00
    if n % 28 = 0 then
      some (Char.ofNat (0x1100 + n / 28 / 21), Char.ofNat (0x1161 + n / 28 % 21))
    else some (Char.ofNat (c.toNat - n % 28), Char.ofNat (0x11A7 + n % 28))
  else none

/-- The character that stands for two. -/
def composite? (a b : Char) : Option Char :=
  match syllable? a b with
  | some c => some c
  | none => ((composites.lookup b.toNat).bind (·.lookup? a)).bind List.head?

/-- The two characters that a composite stands for. -/
def parts? (c : Char) : Option (Char × Char) :=
  match syllableParts? c with
  | some p => some p
  | none => composites.findSome? fun m => (m.2.source? c).map (·, Char.ofNat m.1)

/-- The characters that a composite stands for, taken apart up to a depth. -/
def decompose : Nat → Char → List Char
  | 0, c => [c]
  | depth + 1, c =>
      match parts? c with
      | some (a, b) => decompose depth a ++ [b]
      | none => [c]

/-- How many marks a composite can hold. -/
def maxMarks : Nat := 4

/-- Put a mark behind characters, last one first, before the marks of greater
classes. -/
def insertMark (c : Char) : List Char → List Char
  | [] => [c]
  | d :: before =>
      if combiningClass c != 0 && combiningClass c < combiningClass d then
        d :: insertMark c before
      else c :: d :: before

/-- Order the marks behind each base by their classes. -/
def orderMarks (cs : List Char) : List Char :=
  (cs.foldl (fun before c => insertMark c before) []).reverse

/-- Let a base take up the characters behind it.  Those that it has left so far
are in `passed`, last one first; only a mark of a greater class gets past them. -/
def composeBase (base : Char) (passed : List Char) : List Char → List Char
  | [] => base :: passed.reverse
  | c :: rest =>
      let reaches := passed.head?.all fun d => combiningClass d < combiningClass c
      match if reaches then composite? base c else none with
      | some base => composeBase base passed rest
      | none =>
          if combiningClass c = 0 then base :: passed.reverse ++ composeBase c [] rest
          else composeBase base (c :: passed) rest

/-- Let every base take up the marks behind it. -/
def composeMarks : List Char → List Char
  | [] => []
  | c :: rest => if combiningClass c = 0 then composeBase c [] rest else c :: composeMarks rest

/-- The composed form of a text. -/
def compose (cs : List Char) : List Char :=
  composeMarks (orderMarks (cs.flatMap (decompose maxMarks)))

end XmlSchema.Text
