import XmlSchema.Data.Value
import XmlSchema.Text.Natural

/-!
# JSON

Reading and writing structured values in the JSON format.  `parse?` accepts
exactly one value with blanks around it.  There are two written forms, one
without blanks and one with an item or entry a line.
-/

namespace XmlSchema.Data.Json

/-- Drop leading blanks. -/
def skipBlanks (cs : List Char) : List Char :=
  cs.dropWhile fun c => c = ' ' || c = '\n' || c = '\t' || c = '\r'

/-- Four hexadecimal digits and the rest. -/
def hexQuad? : List Char → Option (Nat × List Char)
  | a :: b :: c :: d :: rest => do
      let a ← Text.hexValue? a
      let b ← Text.hexValue? b
      let c ← Text.hexValue? c
      let d ← Text.hexValue? d
      return (((a * 16 + b) * 16 + c) * 16 + d, rest)
  | _ => none

/-- The character that a one-letter escape stands for. -/
def escaped? : Char → Option Char
  | '"' => some '"'
  | '\\' => some '\\'
  | '/' => some '/'
  | 'b' => some '\x08'
  | 'f' => some '\x0c'
  | 'n' => some '\n'
  | 'r' => some '\r'
  | 't' => some '\t'
  | _ => none

/-- The units of a string up to its closing quote: characters, and halves of
surrogate pairs as they were escaped. -/
def units? : Nat → List (Char ⊕ Nat) → List Char → Option (List (Char ⊕ Nat) × List Char)
  | 0, _, _ => none
  | _ + 1, _, [] => none
  | _ + 1, done, '"' :: rest => some (done.reverse, rest)
  | fuel + 1, done, '\\' :: 'u' :: rest =>
      match hexQuad? rest with
      | none => none
      | some (n, rest) =>
          if 0xD800 ≤ n && n < 0xE000 then units? fuel (.inr n :: done) rest
          else units? fuel (.inl (Char.ofNat n) :: done) rest
  | fuel + 1, done, '\\' :: c :: rest =>
      match escaped? c with
      | none => none
      | some c => units? fuel (.inl c :: done) rest
  | fuel + 1, done, c :: rest =>
      if c.toNat < 0x20 || c = '\\' then none else units? fuel (.inl c :: done) rest

/-- The text of a sequence of units, each high half followed by its low half. -/
def textOfUnits? : List (Char ⊕ Nat) → Option (List Char)
  | [] => some []
  | .inl c :: rest => (textOfUnits? rest).map (c :: ·)
  | .inr high :: .inr low :: rest =>
      if high < 0xDC00 && 0xDC00 ≤ low then
        (textOfUnits? rest).map
          (Char.ofNat (0x10000 + (high - 0xD800) * 0x400 + (low - 0xDC00)) :: ·)
      else none
  | .inr _ :: _ => none

/-- A string behind its opening quote; the inner answer is missing when the
string spells no text. -/
def string? (cs : List Char) : Option (Option String × List Char) :=
  (units? (cs.length + 1) [] cs).map fun (units, rest) =>
    (if units.all Sum.isLeft then
        some (String.ofList (units.filterMap Sum.getLeft?))
      else (textOfUnits? units).map String.ofList, rest)

/-- The digits at the front of a text and the rest. -/
def digits (cs : List Char) : List Char × List Char :=
  (cs.takeWhile Char.isDigit, cs.dropWhile Char.isDigit)

/-- The fraction of a number, perhaps none. -/
def fraction? : List Char → Option (List Char × List Char)
  | '.' :: rest =>
      let (ds, rest) := digits rest
      if ds.isEmpty then none else some ('.' :: ds, rest)
  | cs => some ([], cs)

/-- The exponent of a number, perhaps none. -/
def exponent? : List Char → Option (List Char × List Char)
  | e :: rest =>
      if e = 'e' || e = 'E' then
        let (sign, rest) := match rest with
          | '+' :: rest => (['+'], rest)
          | '-' :: rest => (['-'], rest)
          | rest => ([], rest)
        let (ds, rest) := digits rest
        if ds.isEmpty then none else some (e :: sign ++ ds, rest)
      else some ([], e :: rest)
  | [] => some ([], [])

/-- The number that decimal digits spell. -/
def natOfDigits (ds : List Char) : Nat :=
  ds.foldl (fun n c => n * 10 + (c.toNat - '0'.toNat)) 0

/-- The value of a number: an integer when it has neither fraction nor exponent
and fits into 64 bits. -/
def numberOf (negative : Bool) (whole fraction exponent : List Char) : Value :=
  let n := natOfDigits whole
  let fits := if negative then 0 < n && n ≤ Nat.pow 2 63 else n < Nat.pow 2 64
  if fraction.isEmpty && exponent.isEmpty && fits then
    .integer (if negative then -(n : Int) else n)
  else
    .decimal (String.ofList ((if negative then ['-'] else []) ++ whole ++ fraction ++ exponent))

/-- A number at the front of a text. -/
def number? (cs : List Char) : Option (Value × List Char) := do
  let (negative, cs) := match cs with
    | '-' :: rest => (true, rest)
    | cs => (false, cs)
  let (whole, rest) := digits cs
  if whole.isEmpty || (whole.length > 1 && whole.head? = some '0') then none
  else
    let (fraction, rest) ← fraction? rest
    let (exponent, rest) ← exponent? rest
    return (numberOf negative whole fraction exponent, rest)

/-- The rest of a text behind a given word. -/
def after? (word : String) (cs : List Char) : Option (List Char) :=
  if word.toList.isPrefixOf cs then some (cs.drop word.length) else none

/-- The table of some entries; when a key spells no text, the whole table does
not. -/
def tableOf (es : List (Option String × Value)) : Value :=
  match es.mapM fun e => e.1.map (·, e.2) with
  | some es => .table es
  | none => .garbled

mutual

/-- A value at the front of a text. -/
def value? : Nat → List Char → Option (Value × List Char)
  | 0, _ => none
  | fuel + 1, cs =>
      match skipBlanks cs with
      | '{' :: rest => (entries? fuel true [] rest).map fun (es, rest) => (tableOf es, rest)
      | '[' :: rest => (items? fuel true [] rest).map fun (vs, rest) => (.list vs, rest)
      | '"' :: rest => (string? rest).map fun (s, rest) =>
          (match s with
            | some s => .string s
            | none => .garbled, rest)
      | 't' :: rest => (after? "rue" rest).map fun rest => (.bool true, rest)
      | 'f' :: rest => (after? "alse" rest).map fun rest => (.bool false, rest)
      | 'n' :: rest => (after? "ull" rest).map fun rest => (.null, rest)
      | cs => number? cs

/-- The items of a list up to its closing bracket. -/
def items? : Nat → Bool → List Value → List Char → Option (List Value × List Char)
  | 0, _, _, _ => none
  | fuel + 1, first, done, cs =>
      match skipBlanks cs with
      | ']' :: rest => if first then some ([], rest) else none
      | cs =>
          match value? fuel cs with
          | none => none
          | some (v, rest) =>
              match skipBlanks rest with
              | ',' :: rest => items? fuel false (v :: done) rest
              | ']' :: rest => some ((v :: done).reverse, rest)
              | _ => none

/-- The entries of a table up to its closing brace. -/
def entries? : Nat → Bool → List (Option String × Value) → List Char →
    Option (List (Option String × Value) × List Char)
  | 0, _, _, _ => none
  | fuel + 1, first, done, cs =>
      match skipBlanks cs with
      | '\x7d' :: rest => if first then some ([], rest) else none
      | '"' :: rest =>
          match string? rest with
          | some (key, rest) =>
              match skipBlanks rest with
              | ':' :: rest =>
                  match value? fuel rest with
                  | none => none
                  | some (v, rest) =>
                      match skipBlanks rest with
                      | ',' :: rest => entries? fuel false ((key, v) :: done) rest
                      | '\x7d' :: rest => some (((key, v) :: done).reverse, rest)
                      | _ => none
              | _ => none
          | _ => none
      | _ => none

end

/-- Read a text that holds one value. -/
def parse? (s : String) : Option Value :=
  let cs := s.toList
  match value? (2 * cs.length + 2) cs with
  | some (v, rest) => if (skipBlanks rest).isEmpty then some v else none
  | none => none

/-- A hexadecimal digit. -/
def hexChar (n : Nat) : Char := if n < 10 then Char.ofNat (48 + n) else Char.ofNat (87 + n)

/-- How a character is written inside quotes. -/
def escape (c : Char) : List Char :=
  match c with
  | '"' => ['\\', '"']
  | '\\' => ['\\', '\\']
  | '\n' => ['\\', 'n']
  | '\r' => ['\\', 'r']
  | '\t' => ['\\', 't']
  | '\x08' => ['\\', 'b']
  | '\x0c' => ['\\', 'f']
  | c =>
      if c.toNat < 0x20 then ['\\', 'u', '0', '0', hexChar (c.toNat / 16), hexChar (c.toNat % 16)]
      else [c]

/-- A text in quotes. -/
def quoted (s : String) : String :=
  "\"" ++ String.ofList (s.toList.flatMap escape) ++ "\""

/-- How a scalar is written. -/
def scalar : Value → String
  | .bool true => "true"
  | .bool false => "false"
  | .integer n => toString n
  | .decimal text => text
  | .moment text => quoted text
  | .string s => quoted s
  | _ => "null"

mutual

/-- The form without blanks. -/
def compact : Value → String
  | .list vs => "[" ++ ",".intercalate (compactList vs) ++ "]"
  | .table es => "\x7b" ++ ",".intercalate (compactEntries es) ++ "\x7d"
  | v => scalar v

/-- The items of a list without blanks. -/
def compactList : List Value → List String
  | [] => []
  | v :: rest => compact v :: compactList rest

/-- The entries of a table without blanks. -/
def compactEntries : List (String × Value) → List String
  | [] => []
  | (key, v) :: rest => (quoted key ++ ":" ++ compact v) :: compactEntries rest

end

/-- A new line at a given depth. -/
def newline (depth : Nat) : String := "\n" ++ String.ofList (List.replicate (2 * depth) ' ')

mutual

/-- The form with an item or entry a line, at a given depth. -/
def prettyAt (depth : Nat) : Value → String
  | .list [] => "[]"
  | .list vs =>
      "[" ++ ",".intercalate (prettyList (depth + 1) vs) ++ newline depth ++ "]"
  | .table [] => "\x7b\x7d"
  | .table es =>
      "\x7b" ++ ",".intercalate (prettyEntries (depth + 1) es) ++ newline depth ++ "\x7d"
  | v => scalar v

/-- The items of a list, each on a line of its own. -/
def prettyList (depth : Nat) : List Value → List String
  | [] => []
  | v :: rest => (newline depth ++ prettyAt depth v) :: prettyList depth rest

/-- The entries of a table, each on a line of its own. -/
def prettyEntries (depth : Nat) : List (String × Value) → List String
  | [] => []
  | (key, v) :: rest =>
      (newline depth ++ quoted key ++ ": " ++ prettyAt depth v) :: prettyEntries depth rest

end

/-- The form with an item or entry a line. -/
def pretty (v : Value) : String := prettyAt 0 v

end XmlSchema.Data.Json
