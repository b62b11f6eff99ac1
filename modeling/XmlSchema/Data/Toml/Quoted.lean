import XmlSchema.Data.Json

/-!
# Quoted strings and keys of a TOML document

A string stands between double quotes, where a backslash begins an escape, or
between single quotes, where every character stands for itself; three quotes
open a string over several lines.  A line ends in a line feed, which may have a
carriage return before it.
-/

namespace XmlSchema.Data.Toml

/-- Drop leading blanks of a line. -/
def skipSpaces (cs : List Char) : List Char := cs.dropWhile fun c => c = ' ' || c = '\t'

/-- Whether a character may not stand in a line. -/
def isControl (c : Char) : Bool := (c.toNat < 0x20 && c != '\t') || c.toNat == 0x7F

/-- The rest of a text behind the line end at its front. -/
def afterLineEnd? : List Char → Option (List Char)
  | '\n' :: rest => some rest
  | '\r' :: '\n' :: rest => some rest
  | _ => none

/-- Drop blanks and line ends, one for each unit of fuel. -/
def skipLines : Nat → List Char → List Char
  | 0, cs => cs
  | fuel + 1, cs =>
      match afterLineEnd? (skipSpaces cs) with
      | some rest => skipLines fuel rest
      | none => skipSpaces cs

/-- The number that a fixed count of hexadecimal digits spells, and the rest. -/
def hexadecimal? : Nat → Nat → List Char → Option (Nat × List Char)
  | 0, n, cs => some (n, cs)
  | count + 1, n, c :: rest => (Text.hexValue? c).bind fun d => hexadecimal? count (n * 16 + d) rest
  | _ + 1, _, [] => none

/-- A character given by a count of hexadecimal digits. -/
def coded? (count : Nat) (cs : List Char) : Option (Char × List Char) :=
  (hexadecimal? count 0 cs).bind fun (n, rest) =>
    if n.isValidChar then some (Char.ofNat n, rest) else none

/-- The character that an escape stands for, behind its backslash. -/
def escape? : List Char → Option (Char × List Char)
  | 'b' :: rest => some ('\x08', rest)
  | 't' :: rest => some ('\t', rest)
  | 'n' :: rest => some ('\n', rest)
  | 'f' :: rest => some ('\x0c', rest)
  | 'r' :: rest => some ('\r', rest)
  | 'e' :: rest => some ('\x1b', rest)
  | '"' :: rest => some ('"', rest)
  | '\\' :: rest => some ('\\', rest)
  | 'x' :: rest => coded? 2 rest
  | 'u' :: rest => coded? 4 rest
  | 'U' :: rest => coded? 8 rest
  | _ => none

/-- A string on one line, behind its double quote. -/
def basic? : Nat → List Char → List Char → Option (List Char × List Char)
  | 0, _, _ => none
  | _ + 1, _, [] => none
  | _ + 1, done, '"' :: rest => some (done.reverse, rest)
  | fuel + 1, done, '\\' :: rest => (escape? rest).bind fun (c, rest) => basic? fuel (c :: done) rest
  | fuel + 1, done, c :: rest => if isControl c then none else basic? fuel (c :: done) rest

/-- The end of a string over several lines, behind three quotes: up to two more
quotes belong to the string. -/
def closeLong (quote : Char) (done rest : List Char) : List Char × List Char :=
  let more := min 2 (rest.takeWhile (· == quote)).length
  (done.reverse ++ List.replicate more quote, rest.drop more)

/-- A string over several lines, behind its double quotes.  A backslash at the
end of a line joins the line with the next that holds something. -/
def longBasic? : Nat → List Char → List Char → Option (List Char × List Char)
  | 0, _, _ => none
  | _ + 1, _, [] => none
  | _ + 1, done, '"' :: '"' :: '"' :: rest => some (closeLong '"' done rest)
  | fuel + 1, done, '\\' :: rest =>
      match afterLineEnd? (skipSpaces rest) with
      | some rest => longBasic? fuel done (skipLines rest.length rest)
      | none => (escape? rest).bind fun (c, rest) => longBasic? fuel (c :: done) rest
  | fuel + 1, done, '\r' :: '\n' :: rest => longBasic? fuel ('\n' :: '\r' :: done) rest
  | fuel + 1, done, c :: rest =>
      if isControl c && c != '\n' then none else longBasic? fuel (c :: done) rest

/-- A string on one line, behind its single quote. -/
def literal? (cs : List Char) : Option (List Char × List Char) :=
  match cs.dropWhile fun c => c != '\'' && !isControl c with
  | '\'' :: rest => some (cs.takeWhile (· != '\''), rest)
  | _ => none

/-- A string over several lines, behind its single quotes. -/
def longLiteral? : Nat → List Char → List Char → Option (List Char × List Char)
  | 0, _, _ => none
  | _ + 1, _, [] => none
  | _ + 1, done, '\'' :: '\'' :: '\'' :: rest => some (closeLong '\'' done rest)
  | fuel + 1, done, '\r' :: '\n' :: rest => longLiteral? fuel ('\n' :: '\r' :: done) rest
  | fuel + 1, done, c :: rest =>
      if isControl c && c != '\n' then none else longLiteral? fuel (c :: done) rest

/-- Drop the line end right behind the quotes of a string over several lines. -/
def dropLineEnd (cs : List Char) : List Char := (afterLineEnd? cs).getD cs

/-- A string on one line with its quotes. -/
def short? : List Char → Option (List Char × List Char)
  | '"' :: rest => basic? (rest.length + 1) [] rest
  | '\'' :: rest => literal? rest
  | _ => none

/-- A string with its quotes. -/
def string? : List Char → Option (List Char × List Char)
  | '"' :: '"' :: '"' :: rest => longBasic? (rest.length + 1) [] (dropLineEnd rest)
  | '\'' :: '\'' :: '\'' :: rest => longLiteral? (rest.length + 1) [] (dropLineEnd rest)
  | cs => short? cs

/-- Whether a character may stand in a key without quotes. -/
def inKey (c : Char) : Bool := c.isAlphanum || c = '_' || c = '-'

/-- One part of a key. -/
def keyPart? (cs : List Char) : Option (String × List Char) :=
  match short? cs with
  | some (k, rest) => some (String.ofList k, rest)
  | none =>
      let k := cs.takeWhile inKey
      if k.isEmpty then none else some (String.ofList k, cs.dropWhile inKey)

/-- How many parts a key may have. -/
def maxParts : Nat := 80

/-- A key with a limited number of parts and dots between them, and what follows
its blanks.  The last part stands apart. -/
def keyUpTo? : Nat → List Char → Option (List String × String × List Char)
  | 0, _ => none
  | limit + 1, cs =>
      (keyPart? (skipSpaces cs)).bind fun (part, rest) =>
        match skipSpaces rest with
        | '.' :: rest =>
            (keyUpTo? limit rest).map fun (path, last, rest) => (part :: path, last, rest)
        | rest => some ([], part, rest)

/-- A key, and what follows its blanks. -/
def key? (cs : List Char) : Option (List String × String × List Char) := keyUpTo? maxParts cs

end XmlSchema.Data.Toml
