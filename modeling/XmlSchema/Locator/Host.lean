import XmlSchema.Locator.Domain
import XmlSchema.Locator.Percent

/-!
# Hosts of URLs

The host of a URL is a domain, an address of version 4 or 6, or opaque text.
Domains are written in lower case, labels beyond ASCII in their encoded form,
and addresses in their shortest form.
-/

namespace XmlSchema.Host

/-- The characters that no host may hold. -/
def forbidden (c : Char) : Bool :=
  c.toNat = 0 || "\t\n\r #/:<>?@[\\]^|".contains c

/-- The characters that no domain may hold. -/
def forbiddenInDomain (c : Char) : Bool :=
  forbidden c || c.toNat ≤ 0x1F || c = '%' || c.toNat = 0x7F

/-- The number of a part of an address: decimal, or octal after `0`, or
hexadecimal after `0x`. -/
def number? (cs : List Char) : Option Nat :=
  let digits (base : Nat) (ds : List Char) : Option Nat :=
    ds.foldl (fun n d => do
      let n ← n
      let v ← Text.hexValue? d
      if v < base then some (n * base + v) else none) (some 0)
  match cs with
  | [] => none
  | '0' :: 'x' :: rest => digits 16 rest
  | '0' :: 'X' :: rest => digits 16 rest
  | '0' :: d :: rest => digits 8 (d :: rest)
  | ds => digits 10 ds

/-- The parts of a dotted name; one trailing dot does not count. -/
def dottedParts (cs : List Char) : List (List Char) :=
  let parts := Text.splitOnChar '.' cs
  if parts.getLast? == some [] && parts.length > 1 then parts.dropLast else parts

/-- Whether a domain has to be read as an address of version 4. -/
def endsInNumber (cs : List Char) : Bool :=
  match (dottedParts cs).getLast? with
  | none => false
  | some last =>
      (!last.isEmpty && last.all Char.isDigit) ||
        (match last with
          | '0' :: x :: rest =>
              (x = 'x' || x = 'X') && rest.all Text.isHexDigit
          | _ => false)

/-- An address of version 4 in dotted form. -/
def version4? (cs : List Char) : Option String := do
  let numbers ← (dottedParts cs).mapM number?
  let last ← numbers.getLast?
  let front := numbers.dropLast
  if numbers.length > 4 || front.any (· > 255) || last ≥ Nat.pow 256 (5 - numbers.length) then none
  else
    let value := front.zipIdx.foldl (fun v p => v + p.1 * Nat.pow 256 (3 - p.2)) last
    some (".".intercalate ([3, 2, 1, 0].map fun k => toString (value / Nat.pow 256 k % 256)))

/-- A piece of an address of version 6: one to four hexadecimal digits. -/
def piece? (cs : List Char) : Option Nat :=
  if cs.length > 4 then none else Text.hexNat? cs

/-- The pieces that a dotted address of version 4 stands for. -/
def dottedPieces? (cs : List Char) : Option (List Nat) := do
  let parts ← (Text.splitOnChar '.' cs).mapM fun p =>
    if p.isEmpty || p.length > 3 || !p.all Char.isDigit || (p.length > 1 && p.head? == some '0')
    then none else number? p
  match parts with
  | [a, b, c, d] =>
      if a > 255 || b > 255 || c > 255 || d > 255 then none
      else some [a * 256 + b, c * 256 + d]
  | _ => none

/-- The pieces between colons; only the last may be a dotted address. -/
def pieces? : List (List Char) → Option (List Nat)
  | [] => some []
  | [last] => if last.contains '.' then dottedPieces? last else (piece? last).map fun n => [n]
  | p :: rest => do return (← piece? p) :: (← pieces? rest)

/-- Split at the first double colon. -/
def splitDoubleColon : List Char → Option (List Char × List Char)
  | ':' :: ':' :: rest => some ([], rest)
  | c :: rest => (splitDoubleColon rest).map fun p => (c :: p.1, p.2)
  | [] => none

/-- The eight pieces of an address of version 6. -/
def version6Pieces? (cs : List Char) : Option (List Nat) := do
  let read (part : List Char) : Option (List Nat) :=
    if part.isEmpty then some [] else pieces? (Text.splitOnChar ':' part)
  match splitDoubleColon cs with
  | none =>
      let all ← read cs
      if all.length = 8 then some all else none
  | some (before, after) =>
      if before.contains '.' then none
      else
        let front ← read before
        let back ← read after
        if front.length + back.length < 8 then
          some (front ++ List.replicate (8 - front.length - back.length) 0 ++ back)
        else none

/-- The length of the run of zeros at the start. -/
def zeroRun : List Nat → Nat
  | 0 :: rest => zeroRun rest + 1
  | _ => 0

/-- The longest run of at least two zeros: where it starts and its length. -/
def longestZeroRun (pieces : List Nat) : Nat × Nat :=
  (List.range pieces.length).foldl
    (fun best k =>
      let run := zeroRun (pieces.drop k)
      if run > 1 && run > best.2 then (k, run) else best)
    (0, 0)

/-- The hexadecimal text of a number. -/
def hexText (n : Nat) : String := String.ofList (Nat.toDigits 16 n)

/-- The text of an address of version 6, its longest run of zeros left out. -/
def version6Text (pieces : List Nat) : String :=
  let (start, length) := longestZeroRun pieces
  let join (ps : List Nat) := ":".intercalate (ps.map hexText)
  if length = 0 then join pieces
  else join (pieces.take start) ++ "::" ++ join (pieces.drop (start + length))

/-- The written form of a host. -/
def parse? (special : Bool) (cs : List Char) : Option String :=
  match cs with
  | '[' :: rest =>
      if rest.getLast? == some ']' then
        (version6Pieces? rest.dropLast).map fun ps => "[" ++ version6Text ps ++ "]"
      else none
  | _ =>
      if special then do
        let decoded ← Percent.decode? cs
        let domain ← Domain.ofChars? decoded.toList
        if domain.isEmpty || domain.any forbiddenInDomain then none
        else if endsInNumber domain then version4? domain
        else some (String.ofList domain)
      else if cs.any forbidden then none
      else some (String.ofList (Percent.encode Percent.controls cs))

end XmlSchema.Host
