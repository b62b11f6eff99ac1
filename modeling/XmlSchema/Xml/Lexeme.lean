import XmlSchema.Xml.Character

/-!
# Lexemes of documents

The characters of a document, or of the replacement text of an entity, are
cut into lexemes: tags with their raw attributes, text, character sections,
comments and instructions.  References are left in place.  Every reader takes
the characters that are left and returns what remains after it.
-/

namespace XmlSchema.Xml

/-- A name as written, split at its colon. -/
structure RawName where
  pfx : String
  localName : String
  deriving DecidableEq, Repr, Inhabited

/-- The written form of a raw name. -/
def RawName.text (name : RawName) : String :=
  if name.pfx.isEmpty then name.localName else name.pfx ++ ":" ++ name.localName

/-- An attribute whose value still holds its references. -/
structure RawAttribute where
  name : RawName
  value : List Char
  deriving DecidableEq, Repr

/-- How a start tag ends: it opens an element, it closes the element at once,
or the characters end inside it. -/
inductive TagEnding where
  | opened
  | closed
  | cut
  deriving DecidableEq, Repr

/-- A piece of a document. -/
inductive Lexeme where
  | startTag (name : RawName) (attributes : List RawAttribute) (ending : TagEnding)
  | endTag (name : RawName)
  | text (raw : List Char)
  | cdata (raw : List Char)
  | comment (content : List Char)
  | instruction
  deriving DecidableEq, Repr

/-- A reader takes characters and returns a value with what remains. -/
abbrev Lexer (α : Type) := List Char → Except Fault (α × List Char)

namespace Lexer

/-- Skip blanks. -/
def skipSpaces (cs : List Char) : List Char := cs.dropWhile isSpace

/-- Remove a given beginning. -/
def afterText? (start cs : List Char) : Option (List Char) :=
  if start.isPrefixOf cs then some (cs.drop start.length) else none

/-- Skip at least one blank. -/
def spaces (cs : List Char) : Except Fault (List Char) :=
  match cs with
  | c :: rest => if isSpace c then .ok (skipSpaces rest) else .error (.expected "a blank")
  | [] => .error .unexpectedEnd

/-- Skip a given text. -/
def skipText (start : String) (cs : List Char) : Except Fault (List Char) :=
  match afterText? start.toList cs with
  | some rest => .ok rest
  | none => .error (.expected start)

/-- The characters before the first occurrence of a text, which is dropped. -/
def splitAtText? (stop : List Char) : List Char → Option (List Char × List Char)
  | [] => none
  | c :: rest =>
      match afterText? stop (c :: rest) with
      | some after => some ([], after)
      | none =>
          match splitAtText? stop rest with
          | none => none
          | some (before, after) => some (c :: before, after)

/-- Check that every character may stand in a document. -/
def allowed (cs : List Char) : Except Fault Unit :=
  match cs.find? (fun c => !isAllowed c) with
  | some c => .error (.forbiddenCharacter c)
  | none => .ok ()

/-- The allowed characters before a text, which is dropped. -/
def untilText (stop : String) : Lexer (List Char) := fun cs =>
  match splitAtText? stop.toList cs with
  | none => .error (.expected stop)
  | some (before, after) => do
      allowed before
      return (before, after)

/-- A name that may hold colons. -/
def name : Lexer String := fun cs =>
  match cs with
  | [] => .error .invalidName
  | c :: _ =>
      if isNameStart c then .ok (String.ofList (cs.takeWhile isNameChar), cs.dropWhile isNameChar)
      else .error .invalidName

/-- A word is empty or begins with a character that may start a name. -/
def startsName (cs : List Char) : Bool :=
  match cs with
  | [] => true
  | c :: _ => isNameStart c

/-- The characters before and after the first colon, if there is one. -/
def splitColon : List Char → Option (List Char × List Char)
  | [] => none
  | c :: rest =>
      if c = ':' then some ([], rest)
      else (splitColon rest).map fun p => (c :: p.1, p.2)

/-- A name with at most one colon. -/
def rawName : Lexer RawName := fun cs =>
  let word := cs.takeWhile isNameChar
  let rest := cs.dropWhile isNameChar
  let (pfx, localPart) := (splitColon word).getD ([], word)
  if localPart.contains ':' || localPart.isEmpty || !startsName pfx || !startsName localPart then
    .error .invalidName
  else .ok (⟨String.ofList pfx, String.ofList localPart⟩, rest)

/-- An equals sign with blanks around it. -/
def equals (cs : List Char) : Except Fault (List Char) :=
  match skipSpaces cs with
  | '=' :: rest => .ok (skipSpaces rest)
  | _ => .error (.expected "'='")

/-- An opening quote. -/
def quote : Lexer Char := fun cs =>
  match cs with
  | '"' :: rest => .ok ('"', rest)
  | '\'' :: rest => .ok ('\'', rest)
  | _ => .error (.expected "a quote")

/-- The characters up to a closing quote, which is dropped. -/
def quoted (q : Char) : Lexer (List Char) := fun cs =>
  match cs.dropWhile (· != q) with
  | _ :: rest => .ok (cs.takeWhile (· != q), rest)
  | [] => .error .unexpectedEnd

/-- An attribute: a name, an equals sign and a quoted value without `<`. -/
def rawAttribute : Lexer RawAttribute := fun cs => do
  let (name, rest) ← rawName cs
  let rest ← equals rest
  let (q, rest) ← quote rest
  let (value, rest) ← quoted q rest
  if value.contains '<' then throw .lessThanInValue
  allowed value
  return (⟨name, value⟩, rest)

/-- The attributes of a tag and its ending.  Every attribute follows a blank.
A tag may be cut off right after its name or an attribute, not after a blank. -/
def attributes : Nat → Lexer (List RawAttribute × TagEnding)
  | _, [] => .ok (([], .cut), [])
  | 0, _ :: _ => .error .unexpectedEnd
  | fuel + 1, b :: cs =>
      match skipSpaces (b :: cs) with
      | [] => .error .unexpectedEnd
      | '/' :: '>' :: rest => .ok (([], .closed), rest)
      | '/' :: _ => .error (.expected "'>'")
      | '>' :: rest => .ok (([], .opened), rest)
      | c :: rest =>
          if !isSpace b then .error (.expected "a blank")
          else do
            let (a, rest) ← rawAttribute (c :: rest)
            let ((more, ending), rest) ← attributes fuel rest
            return ((a :: more, ending), rest)

/-- A comment, from after `<!--`. -/
def comment : Lexer (List Char) := fun cs => do
  let (content, rest) ← untilText "-->" cs
  if (splitAtText? ['-', '-'] content).isSome || content.getLast? == some '-' then
    throw .malformedComment
  return (content, rest)

/-- An instruction, from after `<?`. -/
def instruction (cs : List Char) : Except Fault (List Char) := do
  if (afterText? "xml ".toList cs).isSome then throw .strayDeclaration
  let (_, rest) ← name cs
  let (_, rest) ← untilText "?>" (skipSpaces rest)
  return rest

/-- A start tag, from after `<`. -/
def startTag : Lexer Lexeme := fun cs => do
  let (name, rest) ← rawName cs
  let ((list, ending), rest) ← attributes rest.length rest
  return (.startTag name list ending, rest)

/-- An end tag, from after `</`. -/
def endTag : Lexer Lexeme := fun cs => do
  let (name, rest) ← rawName cs
  match skipSpaces rest with
  | '>' :: rest => return (.endTag name, rest)
  | _ => throw (.expected "'>'")

/-- Text up to the next markup. -/
def text : Lexer Lexeme := fun cs => do
  let raw := cs.takeWhile (· != '<')
  allowed raw
  if (splitAtText? "]]>".toList raw).isSome then throw .sectionEndInText
  return (.text raw, cs.dropWhile (· != '<'))

/-- The next lexeme inside an element. -/
def lexeme : Lexer Lexeme := fun cs =>
  match cs with
  | [] => .error .unexpectedEnd
  | '<' :: '!' :: rest =>
      match afterText? "--".toList rest with
      | some rest => do
          let (content, rest) ← comment rest
          return (.comment content, rest)
      | none =>
          match afterText? "[CDATA[".toList rest with
          | some rest => do
              let (raw, rest) ← untilText "]]>" rest
              return (.cdata raw, rest)
          | none => .error .strayMarkup
  | '<' :: '?' :: rest => do
      let rest ← instruction rest
      return (.instruction, rest)
  | '<' :: '/' :: rest => endTag rest
  | '<' :: rest => startTag rest
  | c :: rest => text (c :: rest)

end Lexer

namespace Lexeme

/-- How many elements are open inside some content after a lexeme; none when
the lexeme is the end tag that closes the content itself. -/
def depthAfter? (depth : Nat) : Lexeme → Option Nat
  | .startTag _ _ .opened => some (depth + 1)
  | .endTag _ => if depth = 0 then none else some (depth - 1)
  | _ => some depth

/-- The lexemes of content with `depth` elements open, up to the end tag that
closes the content or to the end of the characters, and what follows. -/
def ofContent : Nat → Nat → Lexer (List Lexeme)
  | _, _, [] => .ok ([], [])
  | 0, _, _ :: _ => .error .unexpectedEnd
  | fuel + 1, depth, c :: cs => do
      let (l, rest) ← Lexer.lexeme (c :: cs)
      match l.depthAfter? depth with
      | none => return ([l], rest)
      | some depth =>
          let (more, rest) ← ofContent fuel depth rest
          return (l :: more, rest)

/-- The lexemes of an element, from after its `<`, and what follows it. -/
def ofElement : Lexer (List Lexeme) := fun cs => do
  let (l, rest) ← Lexer.startTag cs
  match l with
  | .startTag _ _ .opened =>
      let (content, rest) ← ofContent rest.length 0 rest
      return (l :: content, rest)
  | _ => return ([l], rest)

/-- Whether a lexeme is a tag. -/
def isTag : Lexeme → Bool
  | .startTag _ _ _ => true
  | .endTag _ => true
  | _ => false

/-- Whether a lexeme is an end tag. -/
def isEndTag : Lexeme → Bool
  | .endTag _ => true
  | _ => false

/-- The lexemes of a replacement text, up to an end tag whose start tag stands
outside of it; what follows that tag does not count.  Such a tag may not be the
first tag of the text. -/
def ofReplacement (value : List Char) : Except Fault (List Lexeme) := do
  let (lexemes, _) ← ofContent value.length 0 value
  if (lexemes.find? isTag).any isEndTag then throw .strayEndTag
  return lexemes

end Lexeme

end XmlSchema.Xml
