import XmlSchema.Text.Natural
import XmlSchema.Xml.Prolog

/-!
# Events of documents

Lexemes with every reference resolved and every line end normalised.  An
entity in text stands for the content its replacement text holds; an entity
in an attribute value stands for its characters.  Entities nest at most ten
deep, and one outermost reference leads to at most 255 others.
-/

namespace XmlSchema.Xml

/-- An attribute with its final value. -/
structure ReadAttribute where
  name : RawName
  value : String
  deriving DecidableEq, Repr

/-- A piece of a document whose references are resolved. -/
inductive Event where
  | startTag (name : RawName) (attributes : List ReadAttribute) (ending : TagEnding)
  | endTag (name : RawName)
  | text (content : List Char)
  | comment (content : List Char)
  | gap
  deriving DecidableEq, Repr

/-- A piece of text: a character, a character reference or an entity. -/
inductive Chunk where
  | char (c : Char)
  | reference (c : Char)
  | entity (name : String)
  deriving DecidableEq, Repr

namespace Chunk

/-- The number that digits of some base spell. -/
def number (base : Nat) (digits : List Char) : Nat :=
  digits.foldl (fun n d => n * base + (Text.hexValue? d).getD 0) 0

/-- The character with a given code; a code that is no character gives the
replacement character, and a code of more than 32 bits none at all. -/
def ofCode? (n : Nat) : Option Char :=
  if n < Nat.pow 2 32 then
    some (if n.isValidChar then Char.ofNat n else '\uFFFD')
  else none

/-- A reference, from after its ampersand. -/
def readReference : Lexer Chunk := fun cs =>
  match cs with
  | '#' :: rest =>
      let (base, isDigit, rest) :=
        match rest with
        | 'x' :: rest => (16, Text.isHexDigit, rest)
        | _ => (10, Char.isDigit, rest)
      let digits := rest.takeWhile isDigit
      match rest.dropWhile isDigit, ofCode? (number base digits) with
      | ';' :: after, some c =>
          if digits.isEmpty || !isAllowed c then .error .malformedReference
          else .ok (.reference c, after)
      | _, _ => .error .malformedReference
  | _ =>
      match Lexer.name cs with
      | .ok (word, ';' :: after) =>
          .ok (match word with
            | "quot" => .reference '"'
            | "amp" => .reference '&'
            | "apos" => .reference '\''
            | "lt" => .reference '<'
            | "gt" => .reference '>'
            | _ => .entity word, after)
      | _ => .error .malformedReference

/-- Cut text into chunks. -/
def ofText : Nat → List Char → Except Fault (List Chunk)
  | _, [] => .ok []
  | 0, _ :: _ => .error .unexpectedEnd
  | fuel + 1, c :: rest =>
      if c = '&' then do
        let (chunk, rest) ← readReference rest
        let more ← ofText fuel rest
        return chunk :: more
      else do
        let more ← ofText fuel rest
        return .char c :: more

end Chunk

/-- Text being gathered, last character first. -/
abbrev TextBuffer := List Char

/-- Add a character of the text itself: a carriage return, with the line feed
after it, becomes a line feed. -/
def TextBuffer.pushText (buffer : TextBuffer) (c : Char) (atEnd : Bool) : TextBuffer :=
  match buffer with
  | '\r' :: before =>
      if atEnd && c = '\r' then '\n' :: '\n' :: before
      else if c = '\n' then '\n' :: before
      else c :: '\n' :: before
  | _ => if atEnd && c = '\r' then '\n' :: buffer else c :: buffer

/-- Text with its line ends normalised. -/
def normaliseLines (cs : List Char) : List Char :=
  let rec go (buffer : TextBuffer) : List Char → TextBuffer
    | [] => buffer
    | c :: rest => go (buffer.pushText c rest.isEmpty) rest
  (go [] cs).reverse

/-- How deep inside entities the text stands, and how many references the
outermost one has led to. -/
structure Nesting where
  outermost : Bool
  references : Nat
  deriving DecidableEq, Repr

/-- Count one more reference. -/
def Nesting.enter (n : Nesting) : Except Fault Nesting :=
  if n.outermost then .ok ⟨false, 0⟩
  else if n.references < 255 then .ok ⟨false, n.references + 1⟩
  else .error .entityLoop

/-- The nesting after a reference that was met at `n`. -/
def Nesting.leave (n inner : Nesting) : Nesting :=
  if n.outermost then n else inner

/-- A character of an attribute value; each blank becomes a space, and a
carriage return before a line feed is dropped. -/
def valueChar (c : Char) (next : Option Chunk) : List Char :=
  if c = '\r' && next == some (.char '\n') then []
  else if c = '\n' || c = '\r' || c = '\t' then [' ']
  else [c]

/-- The value that chunks spell, with entities resolved by `inner`. -/
def valueOfChunks (inner : Nesting → String → Except Fault (List Char × Nesting)) :
    Nesting → List Chunk → Except Fault (List Char × Nesting)
  | n, [] => .ok ([], n)
  | n, .char c :: rest => do
      let (more, n) ← valueOfChunks inner n rest
      return (valueChar c rest.head? ++ more, n)
  | n, .reference c :: rest => do
      if !n.outermost && c = '<' then throw .lessThanInValue
      let own := if n.outermost then [c] else valueChar c none
      let (more, n) ← valueOfChunks inner n rest
      return (own ++ more, n)
  | n, .entity name :: rest => do
      let (own, after) ← inner (← n.enter) name
      let (more, n) ← valueOfChunks inner (n.leave after) rest
      return (own ++ more, n)

/-- The value that raw characters spell, with at most `depth` entities inside
each other. -/
def readValue (entities : List Entity) :
    Nat → Nesting → List Char → Except Fault (List Char × Nesting)
  | depth, n, raw => do
      let chunks ← Chunk.ofText raw.length raw
      valueOfChunks
        (fun n name =>
          match Entity.lookup? entities name, depth with
          | none, _ => .error (.unknownEntity name)
          | some _, 0 => .error .entityLoop
          | some value, depth + 1 => readValue entities depth n value)
        n chunks

/-- The final attributes of a tag. -/
def readAttributes (entities : List Entity) (depth : Nat) :
    Nesting → List RawAttribute → Except Fault (List ReadAttribute × Nesting)
  | n, [] => .ok ([], n)
  | n, a :: rest => do
      let (value, n) ← readValue entities depth n a.value
      let (more, n) ← readAttributes entities depth n rest
      return (⟨a.name, String.ofList value⟩ :: more, n)

/-- The text event of a buffer that is not empty. -/
def TextBuffer.flush (buffer : TextBuffer) : List Event :=
  if buffer.isEmpty then [] else [.text buffer.reverse]

/-- The events of a text, with entities resolved by `inner`.  The character
right after a character reference is taken as it is. -/
def eventsOfChunks (inner : Nesting → String → Except Fault (List Event × Nesting)) :
    Nesting → TextBuffer → Bool → List Chunk → Except Fault (List Event × Nesting)
  | n, buffer, _, [] => .ok (buffer.flush, n)
  | n, buffer, verbatim, .char c :: rest =>
      if verbatim then eventsOfChunks inner n (c :: buffer) false rest
      else eventsOfChunks inner n (buffer.pushText c rest.isEmpty) false rest
  | n, buffer, verbatim, .reference c :: rest =>
      if n.outermost then eventsOfChunks inner n (c :: buffer) true rest
      else eventsOfChunks inner n (buffer.pushText c rest.isEmpty) verbatim rest
  | n, buffer, _, .entity name :: rest => do
      let (own, after) ← inner (← n.enter) name
      let (more, n) ← eventsOfChunks inner (n.leave after) [] false rest
      return (buffer.flush ++ own ++ more, n)

/-- The events of lexemes, with entities in text resolved by `inner`. -/
def eventsOfLexemes (entities : List Entity) (depth : Nat)
    (inner : Nesting → String → Except Fault (List Event × Nesting)) :
    Nesting → List Lexeme → Except Fault (List Event × Nesting)
  | n, [] => .ok ([], n)
  | n, l :: rest => do
      let (own, n) ←
        match l with
        | .startTag name attributes ending => do
            let (list, n) ← readAttributes entities depth n attributes
            pure ([Event.startTag name list ending], n)
        | .endTag name => pure ([Event.endTag name], n)
        | .text raw => do
            let chunks ← Chunk.ofText raw.length raw
            eventsOfChunks inner n [] false chunks
        | .cdata raw => pure ([Event.text (normaliseLines raw)], n)
        | .comment content => pure ([Event.comment content], n)
        | .instruction => pure ([Event.gap], n)
      let (more, n) ← eventsOfLexemes entities depth inner n rest
      return (own ++ more, n)

/-- The events of the content that an entity stands for. -/
def entityEvents (entities : List Entity) :
    Nat → Nesting → String → Except Fault (List Event × Nesting)
  | 0, _, name =>
      match Entity.lookup? entities name with
      | none => .error (.unknownEntity name)
      | some _ => .error .entityLoop
  | depth + 1, n, name =>
      match Entity.lookup? entities name with
      | none => .error (.unknownEntity name)
      | some value => do
          let lexemes ← Lexeme.ofReplacement value
          eventsOfLexemes entities depth (entityEvents entities depth) n lexemes

/-- The deepest nesting of entities. -/
def entityDepth : Nat := 10

/-- The events of the lexemes of a document. -/
def Event.ofLexemes (entities : List Entity) (lexemes : List Lexeme) :
    Except Fault (List Event) := do
  let (events, _) ← eventsOfLexemes entities entityDepth (entityEvents entities entityDepth)
    ⟨true, 0⟩ lexemes
  return events

end XmlSchema.Xml
