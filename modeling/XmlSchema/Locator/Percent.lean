import XmlSchema.Text.Natural

/-!
# Percent encoding

Bytes that may not stand in a part of a URL are written as `%` and two
hexadecimal digits.  Each part of a URL has its own set of such characters;
everything beyond ASCII is always encoded.
-/

namespace XmlSchema.Percent

/-- The encoded form of a byte. -/
def encodeByte (b : UInt8) : List Char :=
  ['%', Text.hexDigit (b.toNat / 16), Text.hexDigit (b.toNat % 16)]

/-- Control characters and everything beyond ASCII. -/
def controls (c : Char) : Bool := c.toNat < 0x20 || 0x7E < c.toNat

/-- The characters encoded in a fragment. -/
def fragmentSet (c : Char) : Bool := controls c || " \"<>`".contains c

/-- The characters encoded in a query. -/
def querySet (special : Bool) (c : Char) : Bool :=
  controls c || " \"#<>".contains c || (special && c = '\'')

/-- The characters encoded in a path. -/
def pathSet (c : Char) : Bool := controls c || " \"#<>?`\x7b\x7d".contains c

/-- The characters encoded in a user name or a password. -/
def userSet (c : Char) : Bool := pathSet c || "/:;=@[\\]^|".contains c

/-- Encode the characters of a set. -/
def encode (set : Char → Bool) (cs : List Char) : List Char :=
  cs.flatMap fun c => if set c then (String.utf8EncodeChar c).flatMap encodeByte else [c]

/-- The bytes that an encoded text stands for. -/
def decodeBytes : List Char → List UInt8
  | '%' :: a :: b :: rest =>
      match Text.hexValue? a, Text.hexValue? b with
      | some x, some y => UInt8.ofNat (16 * x + y) :: decodeBytes rest
      | _, _ => String.utf8EncodeChar '%' ++ decodeBytes (a :: b :: rest)
  | c :: rest => String.utf8EncodeChar c ++ decodeBytes rest
  | [] => []

/-- The text that an encoded text stands for, when its bytes are text. -/
def decode? (cs : List Char) : Option String :=
  String.fromUTF8? (ByteArray.mk (decodeBytes cs).toArray)

end XmlSchema.Percent
