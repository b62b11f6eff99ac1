import XmlSchema.Locator.Domain.Exclusion
import XmlSchema.Locator.Domain.Mapping
import XmlSchema.Locator.Domain.Punycode
import XmlSchema.Text.Composition
import XmlSchema.Text.Direction
import XmlSchema.Text.Joining
import XmlSchema.Text.Mark

/-!
# Domains

A domain is a sequence of labels with dots between them.  A label is composed
text of allowed characters that does not begin with a mark, and its characters
that join letters stand where they have an effect.  In a domain with text from
right to left, every label keeps to one direction.

The written form of a domain: its characters mapped to those they stand for,
composed, and every label beyond ASCII encoded.
-/

namespace XmlSchema.Domain

open XmlSchema.Text

/-- The characters that a character stands for; none when no domain holds it. -/
def map? (c : Char) : Option (List Char) :=
  if ignoredClass.contains c then some []
  else if disallowedClass.contains c then none
  else some ((mapping.lookup? c).getD [c])

/-- Whether a character stands for itself. -/
def isAllowed (c : Char) : Bool := map? c == some [c]

/-- The beginning of every encoded label. -/
def encodedMark : List Char := "xn--".toList

/-- How many characters a label that is to be encoded may have. -/
def maxPlain : Nat := 1000

/-- How many characters an encoded label may have behind its beginning. -/
def maxEncoded : Nat := 2000

/-- The combining class of the marks that join two consonants. -/
def viramaClass : Nat := 9

/-- How the nearest character that is not transparent joins others. -/
def nearestJoining? (cs : List Char) : Option Joining :=
  (cs.dropWhile fun c => joiningOf? c == some .transparent).head?.bind joiningOf?

/-- Whether the characters that join letters, or part them, have an effect.
What precedes `before` is reversed. -/
def joinersFit (before : List Char) : List Char → Bool
  | [] => true
  | c :: rest =>
      let afterVirama := before.head?.any fun d => combiningClass d == viramaClass
      let fits :=
        if c = '\u200D' then afterVirama
        else if c = '\u200C' then
          afterVirama ||
            ([some Joining.both, some .left].contains (nearestJoining? before) &&
              [some Joining.both, some .right].contains (nearestJoining? rest))
        else true
      fits && joinersFit (c :: before) rest

/-- Whether a label in its plain form is one that a domain may have. -/
def isWellFormed (label : List Char) : Bool :=
  !(label.head?.any isMark) && joinersFit [] label

/-- The plain form of a label; none when it is no label. -/
def plain? (label : List Char) : Option (List Char) :=
  let form :=
    if encodedMark.isPrefixOf label then
      let encoded := label.drop encodedMark.length
      if maxEncoded < encoded.length then none
      else (decode? encoded).filter fun cs =>
        !cs.all isBasic && cs.all isAllowed && compose cs == cs && !encodedMark.isPrefixOf cs
    else some label
  form.filter isWellFormed

/-- The written form of a label; none when it is too long. -/
def written? (label : List Char) : Option (List Char) :=
  if label.all isBasic then some label
  else if maxPlain < label.length then none
  else some (encodedMark ++ encode label)

/-- Whether a direction occurs only in domains with text from right to left. -/
def isRightToLeft (d : Direction) : Bool :=
  [Direction.rightToLeft, .arabicLetter, .arabicNumber].contains d

/-- The directions inside a label from left to right. -/
def insideLeftToRight : List Direction :=
  [.leftToRight, .europeanNumber, .europeanSeparator, .commonSeparator, .europeanTerminator,
    .neutral, .boundary, .mark]

/-- The directions inside a label from right to left. -/
def insideRightToLeft : List Direction :=
  [.rightToLeft, .arabicLetter, .arabicNumber, .europeanNumber, .europeanSeparator, .commonSeparator,
    .europeanTerminator, .neutral, .boundary, .mark]

/-- Whether a label keeps to the direction of its first character.  It ends in
a letter or number of that direction, marks aside, and numbers of two kinds do
not meet in a label from right to left. -/
def keepsDirection (label : List Char) : Bool :=
  let ds := label.map directionOf
  let ending := (ds.reverse.dropWhile (· == .mark)).head?
  match ds.head? with
  | none => true
  | some .leftToRight =>
      ds.all insideLeftToRight.contains && ending.any [.leftToRight, .europeanNumber].contains
  | some first =>
      [Direction.rightToLeft, .arabicLetter].contains first && ds.all insideRightToLeft.contains &&
        ending.any [.rightToLeft, .arabicLetter, .arabicNumber, .europeanNumber].contains &&
        !(ds.contains .europeanNumber && ds.contains .arabicNumber)

/-- The written form of a domain; none when one of its labels is refused. -/
def ofChars? (cs : List Char) : Option (List Char) := do
  let mapped ← cs.mapM map?
  let labels := splitOnChar '.' (compose mapped.flatten)
  let plain ← labels.mapM plain?
  let turns := plain.any (·.any fun c => isRightToLeft (directionOf c))
  if turns && !plain.all keepsDirection then none
  else return List.intercalate ['.'] (← labels.mapM written?)

end XmlSchema.Domain
