import XmlSchema.Data.Value
import XmlSchema.Text.Natural

/-!
# Bare words of a TOML document

Truth values, numbers, dates and times are single words.  Each kind of word has
one reader that takes the whole word or refuses it.
-/

namespace XmlSchema.Data.Toml

/-- The digits of a run in which single underscores may stand between two
digits. -/
def digitRun? (isDigit : Char → Bool) (cs : List Char) : Option (List Char) :=
  let rec go (seen : Bool) : List Char → Option (List Char)
    | [] => if seen then some [] else none
    | '_' :: rest => if seen then go false rest else none
    | c :: rest => if isDigit c then (go true rest).map (c :: ·) else none
  go false cs

/-- The number that digits of a base up to sixteen spell. -/
def natOfDigits (base : Nat) (cs : List Char) : Nat :=
  cs.foldl (fun n c => n * base + (Text.hexValue? c).getD 0) 0

/-- Whether digits have a zero in front that says nothing. -/
def hasLeadingZero (ds : List Char) : Bool := ds.head? == some '0' && 1 < ds.length

/-- A word without its sign, and whether the sign was a minus. -/
def unsigned : List Char → Bool × List Char
  | '-' :: rest => (true, rest)
  | '+' :: rest => (false, rest)
  | cs => (false, cs)

/-- The value of an integer, which takes at most 128 bits. -/
def integerOf? (negative : Bool) (n : Nat) : Option Value :=
  if negative && Nat.pow 2 127 < n || Nat.pow 2 128 ≤ n then none
  else some (.integer (if negative then -(n : Int) else n))

/-- The digits of another base than ten, by the letter that announces them. -/
def based? (isDigit : Char → Bool) (base : Nat) (cs : List Char) : Option Value :=
  (digitRun? isDigit cs).bind fun ds => integerOf? false (natOfDigits base ds)

/-- An integer. -/
def integer? : List Char → Option Value
  | '0' :: 'x' :: rest => based? Text.isHexDigit 16 rest
  | '0' :: 'o' :: rest => based? (fun c => '0' ≤ c && c ≤ '7') 8 rest
  | '0' :: 'b' :: rest => based? (fun c => c = '0' || c = '1') 2 rest
  | cs =>
      let (negative, cs) := unsigned cs
      (digitRun? Char.isDigit cs).bind fun ds =>
        if hasLeadingZero ds then none else integerOf? negative (natOfDigits 10 ds)

/-- The number that an exponent spells. -/
def exponent? : List Char → Option Int
  | e :: rest =>
      let (negative, digits) := unsigned rest
      if e = 'e' || e = 'E' then
        (digitRun? Char.isDigit digits).map fun ds =>
          if negative then -(natOfDigits 10 ds : Int) else natOfDigits 10 ds
      else none
  | [] => none

/-- Whether a character belongs to a run of digits. -/
def inRun (c : Char) : Bool := c.isDigit || c = '_'

/-- The least number that a double takes for infinite: half a step beyond the
greatest finite one. -/
def overflow : Nat := Nat.pow 2 1024 - Nat.pow 2 970

/-- Whether the number of some digits, times a power of ten, is finite as a
double. -/
def isFinite (ds : List Char) (exponent : Int) : Bool :=
  let ds := ds.dropWhile (· = '0')
  let size := exponent + ds.length
  if ds.isEmpty || size < 300 then true
  else if 400 < size then false
  else natOfDigits 10 ds * Nat.pow 10 exponent.toNat < overflow * Nat.pow 10 (-exponent).toNat

/-- The digits and the power of ten of a number with a fraction or an
exponent. -/
def scientific? (cs : List Char) : Option (List Char × Int) := do
  let whole ← digitRun? Char.isDigit (cs.takeWhile inRun)
  if hasLeadingZero whole then none
  else
    match cs.dropWhile inRun with
    | '.' :: rest => do
        let places ← digitRun? Char.isDigit (rest.takeWhile inRun)
        let tail := rest.dropWhile inRun
        let e ← if tail.isEmpty then some 0 else exponent? tail
        return (whole ++ places, e - places.length)
    | rest => return (whole, ← exponent? rest)

/-- A number with a fraction or an exponent, which has to be finite, or one of
the words `inf` and `nan`. -/
def float? (cs : List Char) : Option Value :=
  let body := (unsigned cs).2
  let finite := (scientific? body).any fun (ds, e) => isFinite ds e
  if String.ofList body = "inf" || String.ofList body = "nan" || finite then
    some (.decimal (String.ofList cs))
  else none

/-- A number of a fixed count of digits, and the rest. -/
def fixed? (count : Nat) (cs : List Char) : Option (Nat × List Char) :=
  let ds := cs.take count
  if ds.length = count && ds.all Char.isDigit then some (natOfDigits 10 ds, cs.drop count)
  else none

/-- Whether a year has a day more. -/
def isLeapYear (y : Nat) : Bool := (y % 4 == 0 && y % 100 != 0) || y % 400 == 0

/-- The number of days of a month. -/
def daysIn (year month : Nat) : Nat :=
  if month = 2 then (if isLeapYear year then 29 else 28)
  else if [4, 6, 9, 11].contains month then 30
  else 31

/-- A number in two digits. -/
def twoDigits (n : Nat) : List Char := [Nat.digitChar (n / 10), Nat.digitChar (n % 10)]

/-- The date at the front of a text, and the rest. -/
def date? (cs : List Char) : Option (List Char × List Char) :=
  match fixed? 4 cs with
  | some (year, '-' :: rest) =>
      match fixed? 2 rest with
      | some (month, '-' :: rest) =>
          match fixed? 2 rest with
          | some (day, rest) =>
              if 1 ≤ month && month ≤ 12 && 1 ≤ day && day ≤ daysIn year month then
                some (cs.take 10, rest)
              else none
          | none => none
      | _ => none
  | _ => none

/-- The fraction of a second at the front of a text, perhaps none, and the rest.
It has nine places at most and no zeros at its end. -/
def fraction? : List Char → Option (List Char × List Char)
  | '.' :: rest =>
      let places := rest.takeWhile Char.isDigit
      let kept := ((places.take 9).reverse.dropWhile (· = '0')).reverse
      if places.isEmpty then none
      else some (if kept.isEmpty then [] else '.' :: kept, rest.dropWhile Char.isDigit)
  | cs => some ([], cs)

/-- The time of day at the front of a text, and the rest; the seconds may be
left out. -/
def time? (cs : List Char) : Option (List Char × List Char) :=
  match fixed? 2 cs with
  | some (hour, ':' :: rest) =>
      match fixed? 2 rest with
      | some (minute, rest) =>
          let front := twoDigits hour ++ ':' :: twoDigits minute
          if 24 ≤ hour || 60 ≤ minute then none
          else
            match rest with
            | ':' :: rest =>
                match fixed? 2 rest with
                | some (second, rest) =>
                    if 60 < second then none
                    else (fraction? rest).map fun p =>
                      (front ++ ':' :: twoDigits second ++ p.1, p.2)
                | none => none
            | rest => some (front ++ ":00".toList, rest)
      | none => none
  | _ => none

/-- The distance from universal time at the front of a text, perhaps none, and
the rest.  No distance at all counts as positive. -/
def offset? : List Char → Option (List Char × List Char)
  | 'Z' :: rest => some (['Z'], rest)
  | 'z' :: rest => some (['Z'], rest)
  | c :: rest =>
      if c = '+' || c = '-' then
        match fixed? 2 rest with
        | some (hour, ':' :: rest) =>
            match fixed? 2 rest with
            | some (minute, rest) =>
                let sign := if hour = 0 && minute = 0 then '+' else c
                if 24 ≤ hour || 60 ≤ minute then none
                else some (sign :: twoDigits hour ++ ':' :: twoDigits minute, rest)
            | none => none
        | _ => none
      else some ([], c :: rest)
  | [] => some ([], [])

/-- The written form of a date, a time, or both with an offset at will. -/
def moment? (cs : List Char) : Option (List Char) :=
  match date? cs with
  | some (date, []) => some date
  | some (date, c :: rest) => do
      let (time, rest) ← time? rest
      let (offset, rest) ← offset? rest
      if (c = 'T' || c = 't' || c = ' ') && rest.isEmpty then
        some (date ++ 'T' :: time ++ offset)
      else none
  | none =>
      match time? cs with
      | some (time, []) => some time
      | _ => none

/-- The value of a bare word. -/
def word? (cs : List Char) : Option Value :=
  if String.ofList cs = "true" then some (.bool true)
  else if String.ofList cs = "false" then some (.bool false)
  else
    match moment? cs with
    | some text => some (.moment (String.ofList text))
    | none => (integer? cs).orElse fun _ => float? cs

/-- Whether a character may stand in a bare word. -/
def inWord (c : Char) : Bool :=
  c.isAlphanum || c = '_' || c = '-' || c = '+' || c = '.' || c = ':'

/-- The bare word at the front of a text, and the rest.  A blank between a date
and a time belongs to the word. -/
def splitWord (cs : List Char) : List Char × List Char :=
  let first := cs.takeWhile inWord
  match date? first, cs.dropWhile inWord with
  | some (_, []), ' ' :: rest =>
      if (rest.head?.map Char.isDigit).getD false then
        (first ++ ' ' :: rest.takeWhile inWord, rest.dropWhile inWord)
      else (first, ' ' :: rest)
  | _, rest => (first, rest)

end XmlSchema.Data.Toml
