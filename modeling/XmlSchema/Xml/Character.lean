/-!
# Characters of documents

The classes of characters that well-formedness speaks of: blanks between
markup, characters allowed at all, and those that start or continue a name.
The last part names what can be wrong with a document.
-/

namespace XmlSchema.Xml

/-- Blanks between the parts of markup. -/
def isSpace (c : Char) : Bool := c = ' ' || c = '\t' || c = '\n' || c = '\r'

/-- Characters that may stand in a document. -/
def isAllowed (c : Char) : Bool :=
  if c.toNat < 0x20 then isSpace c else c.toNat != 0xFFFE && c.toNat != 0xFFFF

/-- Whether a code point lies in one of some ranges. -/
def inRanges (n : Nat) (ranges : List (Nat × Nat)) : Bool :=
  ranges.any fun r => r.1 ≤ n && n ≤ r.2

/-- The ranges beyond ASCII that may start a name. -/
def nameStartRanges : List (Nat × Nat) :=
  [(0xC0, 0xD6), (0xD8, 0xF6), (0xF8, 0x2FF), (0x370, 0x37D), (0x37F, 0x1FFF),
   (0x200C, 0x200D), (0x2070, 0x218F), (0x2C00, 0x2FEF), (0x3001, 0xD7FF),
   (0xF900, 0xFDCF), (0xFDF0, 0xFFFD), (0x10000, 0xEFFFF)]

/-- The ranges beyond ASCII that may only continue a name. -/
def nameContinueRanges : List (Nat × Nat) :=
  [(0xB7, 0xB7), (0x300, 0x36F), (0x203F, 0x2040)]

/-- Characters that may start a name. -/
def isNameStart (c : Char) : Bool :=
  if c.toNat < 128 then c.isAlpha || c = ':' || c = '_'
  else inRanges c.toNat nameStartRanges

/-- Characters that may stand in a name. -/
def isNameChar (c : Char) : Bool :=
  if c.toNat < 128 then c.isAlphanum || c = ':' || c = '_' || c = '-' || c = '.'
  else inRanges c.toNat nameStartRanges || inRanges c.toNat nameContinueRanges

/-- What can be wrong with a document. -/
inductive Fault where
  | unexpectedEnd
  | expected (what : String)
  | forbiddenCharacter (c : Char)
  | invalidName
  | malformedComment
  | strayDeclaration
  | strayMarkup
  | strayText
  | sectionEndInText
  | malformedReference
  | unknownEntity (name : String)
  | entityLoop
  | strayEndTag
  | lessThanInValue
  | reservedPrefix (name : String)
  | reservedNamespace (uri : String)
  | unboundPrefix (name : String)
  | duplicateBinding (name : String)
  | duplicateAttribute (name : String)
  | mismatchedTag (name : String)
  | unclosedElement (name : String)
  | noRoot
  deriving DecidableEq, Repr

/-- The text of a fault. -/
def Fault.message : Fault → String
  | .unexpectedEnd => "unexpected end of the document"
  | .expected what => "expected " ++ what
  | .forbiddenCharacter c => "a forbidden character with code " ++ toString c.toNat
  | .invalidName => "invalid name"
  | .malformedComment => "malformed comment"
  | .strayDeclaration => "unexpected declaration"
  | .strayMarkup => "unexpected markup"
  | .strayText => "unexpected text"
  | .sectionEndInText => "']]>' in text"
  | .malformedReference => "malformed reference"
  | .unknownEntity name => "unknown entity '" ++ name ++ "'"
  | .entityLoop => "entity references nested too deeply"
  | .strayEndTag => "an end tag before any start tag"
  | .lessThanInValue => "'<' in an attribute value"
  | .reservedPrefix name => "wrong use of the reserved prefix '" ++ name ++ "'"
  | .reservedNamespace uri => "wrong use of the reserved namespace '" ++ uri ++ "'"
  | .unboundPrefix name => "unbound prefix '" ++ name ++ "'"
  | .duplicateBinding name => "prefix '" ++ name ++ "' declared twice"
  | .duplicateAttribute name => "attribute '" ++ name ++ "' given twice"
  | .mismatchedTag name => "mismatched end tag '" ++ name ++ "'"
  | .unclosedElement name => "unclosed element '" ++ name ++ "'"
  | .noRoot => "no root element"

end XmlSchema.Xml
