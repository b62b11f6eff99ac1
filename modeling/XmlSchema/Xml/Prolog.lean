import XmlSchema.Xml.Lexeme

/-!
# What precedes the root element

A document may begin with a declaration and a document type.  Of the document
type only the internal entities matter; the first declaration of a name wins
and nothing outside the document is loaded.
-/

namespace XmlSchema.Xml

/-- An internal entity with its replacement text. -/
structure Entity where
  name : String
  value : List Char
  deriving DecidableEq, Repr

/-- The replacement text of an entity. -/
def Entity.lookup? (entities : List Entity) (name : String) : Option (List Char) :=
  (entities.find? (·.name == name)).map Entity.value

namespace Prolog

open Lexer

/-- Comments, instructions and blanks. -/
def skipMisc : Nat → List Char → Except Fault (List Char)
  | 0, cs => .ok (skipSpaces cs)
  | fuel + 1, cs =>
      let cs := skipSpaces cs
      match afterText? "<!--".toList cs with
      | some rest => do
          let (_, rest) ← comment rest
          skipMisc fuel rest
      | none =>
          match afterText? "<?".toList cs with
          | some rest => do
              let rest ← instruction rest
              skipMisc fuel rest
          | none => .ok cs

/-- The blanks between two parts of the declaration. -/
def declarationSpaces (cs : List Char) : Except Fault (List Char) :=
  match cs with
  | [] => .ok []
  | c :: _ =>
      if isSpace c then .ok (skipSpaces cs)
      else if (afterText? "?>".toList cs).isSome then .ok cs
      else .error (.expected "a blank")

/-- An optional part of the declaration. -/
def declarationPart (word : String) (cs : List Char) : Except Fault (List Char) :=
  if (afterText? word.toList cs).isSome then do
    let (_, rest) ← rawAttribute cs
    return rest
  else .ok cs

/-- The declaration, from after `<?xml`; the version is mandatory. -/
def declaration (cs : List Char) : Except Fault (List Char) := do
  let cs ← declarationSpaces cs
  if (afterText? "version".toList cs).isNone then throw (.expected "version")
  let (_, cs) ← rawAttribute cs
  let cs ← declarationSpaces cs
  let cs ← do
    if (afterText? "encoding".toList cs).isSome then
      let cs ← declarationPart "encoding" cs
      declarationSpaces cs
    else pure cs
  let cs ← declarationPart "standalone" cs
  skipText "?>" (skipSpaces cs)

/-- A literal between quotes. -/
def literal : Lexer (List Char) := fun cs => do
  let (q, rest) ← quote cs
  quoted q rest

/-- An identifier of something outside the document. -/
def externalId? (cs : List Char) : Except Fault (Option (List Char)) :=
  match afterText? "SYSTEM".toList cs with
  | some rest => do
      let (_, rest) ← literal (← spaces rest)
      return some rest
  | none =>
      match afterText? "PUBLIC".toList cs with
      | some rest => do
          let (_, rest) ← literal (← spaces rest)
          let (_, rest) ← literal (← spaces rest)
          return some rest
      | none => .ok none

/-- The definition of an entity: a replacement text, or something outside. -/
def entityDefinition (general : Bool) : Lexer (Option (List Char)) := fun cs =>
  match cs with
  | [] => .error .unexpectedEnd
  | c :: _ =>
      if c = '"' || c = '\'' then do
        let (value, rest) ← literal cs
        return (some value, rest)
      else do
        match ← externalId? cs with
        | none => throw (.expected "an entity definition")
        | some rest =>
            let after := skipSpaces rest
            match if general then afterText? "NDATA".toList after else none with
            | none => return (none, after)
            | some after => do
                let after ← spaces after
                match after with
                | [] => return (none, [])
                | _ =>
                    let (_, after) ← name after
                    return (none, after)

/-- An entity declaration, from after `<!ENTITY`. -/
def entity : Lexer (Option Entity) := fun cs => do
  let cs ← spaces cs
  let (general, cs) ←
    match cs with
    | '%' :: rest => do pure (false, ← spaces rest)
    | _ => pure (true, cs)
  let (entityName, cs) ← name cs
  let cs ← spaces cs
  let (value, cs) ← entityDefinition general cs
  match skipSpaces cs with
  | '>' :: rest => return (value.map fun v => ⟨entityName, v⟩, rest)
  | _ => throw (.expected "'>'")

/-- Whether a declaration begins that has no bearing on the tree. -/
def startsOther (cs : List Char) : Bool :=
  ["<!ELEMENT", "<!ATTLIST", "<!NOTATION"].any fun w => (afterText? w.toList cs).isSome

/-- The internal subset, from after its opening bracket. -/
def subset : Nat → Lexer (List Entity)
  | 0, _ => .error .unexpectedEnd
  | fuel + 1, cs =>
      let cs := skipSpaces cs
      match afterText? "<!ENTITY".toList cs with
      | some rest => do
          let (declared, rest) ← entity rest
          let (more, rest) ← subset fuel rest
          return (declared.toList ++ more, rest)
      | none =>
          match cs with
          | [] => .ok ([], [])
          | ']' :: rest =>
              match skipSpaces rest with
              | '>' :: rest => .ok ([], rest)
              | _ => .error (.expected "'>'")
          | '<' :: '!' :: '-' :: '-' :: rest => do
              let (_, rest) ← comment rest
              subset fuel rest
          | '<' :: '?' :: rest => do
              let rest ← instruction rest
              subset fuel rest
          | c :: rest =>
              if startsOther (c :: rest) then
                match (c :: rest).dropWhile (· != '>') with
                | _ :: rest => subset fuel rest
                | [] => .error .strayMarkup
              else .error .strayMarkup

/-- A document type, from after `<!DOCTYPE`. -/
def documentType : Lexer (List Entity) := fun cs => do
  let cs ← spaces cs
  let cs ←
    match cs with
    | [] => pure []
    | _ => do
        let (_, rest) ← name cs
        pure rest
  let cs := skipSpaces cs
  let cs := skipSpaces ((← externalId? cs).getD cs)
  match cs with
  | '[' :: rest => subset (rest.length + 1) rest
  | '>' :: rest => return ([], rest)
  | _ => throw (.expected "'[' or '>'")

/-- Everything before the root element: the entities and what remains. -/
def read : Lexer (List Entity) := fun cs => do
  let cs := (afterText? ['\uFEFF'] cs).getD cs
  let cs ←
    match afterText? "<?xml ".toList cs with
    | some _ => declaration (cs.drop 5)
    | none => pure cs
  let cs ← skipMisc cs.length cs
  match afterText? "<!DOCTYPE".toList cs with
  | none => return ([], cs)
  | some rest => do
      let (entities, rest) ← documentType rest
      let rest ← skipMisc rest.length rest
      return (entities, rest)

end Prolog

end XmlSchema.Xml
