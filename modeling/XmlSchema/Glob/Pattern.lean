import XmlSchema.Glob.Shape

/-!
# Glob patterns

A pattern is read into tokens: characters, `?`, `*`, classes in brackets,
alternatives in braces, and `**` at the start, at the end or between slashes.
Only `**` crosses a slash; a class stands for one byte.
-/

namespace XmlSchema.Glob

/-- A token of a pattern. -/
inductive Token where
  | literal (c : Char)
  | any
  | run
  | deepPrefix
  | deepSuffix
  | deepMiddle
  | members (negated : Bool) (ranges : List (Char × Char))
  | alternatives (branches : List (List Token))
  deriving Repr, Inhabited

/-- What has been read at one depth of braces: the alternatives that are
finished, and the tokens of the current one, last first. -/
structure Frame where
  finished : List (List Token) := []
  current : List Token := []
  deriving Inhabited

/-- The place of a reader: the frames, innermost first, the character before,
and the rest of the pattern. -/
structure Place where
  frame : Frame := {}
  outer : List Frame := []
  last : Option Char := none
  rest : List Char

namespace Place

/-- Add a token. -/
def push (p : Place) (t : Token) : Place :=
  { p with frame := { p.frame with current := t :: p.frame.current } }

/-- Go on behind some characters. -/
def skipTo (p : Place) (last : Char) (rest : List Char) : Place :=
  { p with last := some last, rest }

/-- Replace the last token by one for `**`: a `**` before stays as it is. -/
def deepen (p : Place) (t : Token) : Place :=
  match p.frame.current with
  | .deepPrefix :: _ => p
  | .deepSuffix :: _ => p
  | _ :: before => { p with frame := { p.frame with current := t :: before } }
  | [] => p.push t

/-- Read what follows `**`; `before` is the character before it. -/
def readDeep (p : Place) (before : Option Char) : Place :=
  let plain := (p.push .run).push .run
  if p.frame.current.isEmpty then
    match p.rest with
    | [] => p.push .deepPrefix
    | '/' :: rest => (p.push .deepPrefix).skipTo '/' rest
    | _ => plain
  else if before != some '/' &&
      (p.outer.isEmpty || (before != some ',' && before != some '\x7b')) then plain
  else
    match p.rest with
    | [] => p.deepen .deepSuffix
    | '/' :: rest => (p.deepen .deepMiddle).skipTo '/' rest
    | c :: _ =>
        if (c = ',' || c = '\x7d') && !p.outer.isEmpty then p.deepen .deepSuffix else plain

end Place

/-- Close the last range of a class with a character. -/
def closeRange (c : Char) : List (Char × Char) → Option (List (Char × Char))
  | [] => none
  | r :: before => if c < r.1 then none else some ((r.1, c) :: before)

/-- Read the members of a class up to its bracket; `ranges` has the last one
first, and `open_` tells that a dash stands before. -/
def readMembers (first isOpen : Bool) (ranges : List (Char × Char)) :
    List Char → Option (List (Char × Char) × List Char)
  | [] => none
  | ']' :: rest =>
      if first then readMembers false false ((']', ']') :: ranges) rest
      else some ((if isOpen then ('-', '-') :: ranges else ranges).reverse, rest)
  | '-' :: rest =>
      if first then readMembers false false (('-', '-') :: ranges) rest
      else if isOpen then
        match closeRange '-' ranges with
        | none => none
        | some ranges => readMembers false false ranges rest
      else readMembers false true ranges rest
  | c :: rest =>
      if isOpen then
        match closeRange c ranges with
        | none => none
        | some ranges => readMembers false false ranges rest
      else readMembers false false ((c, c) :: ranges) rest

/-- Read a class behind its opening bracket. -/
def readClass (p : Place) (cs : List Char) : Option Place :=
  let (negated, cs) :=
    match cs with
    | '!' :: rest => (true, rest)
    | '^' :: rest => (true, rest)
    | cs => (false, cs)
  (readMembers true false [] cs).map fun (ranges, rest) =>
    (p.push (.members negated ranges)).skipTo ']' rest

/-- Read one piece of a pattern; nothing when the pattern is malformed. -/
def readPiece (p : Place) (c : Char) (rest : List Char) : Option Place :=
  let next := p.skipTo c rest
  match c, rest with
  | '?', _ => some (next.push .any)
  | '*', '*' :: rest => some ((p.skipTo '*' rest).readDeep p.last)
  | '*', _ => some (next.push .run)
  | '[', _ => readClass p rest
  | '\x7b', _ => some { next with frame := {}, outer := p.frame :: p.outer }
  | '\x7d', _ =>
      match p.outer with
      | [] => none
      | frame :: outer =>
          let branches := p.frame.finished ++ [p.frame.current.reverse]
          some (Place.push { next with frame, outer } (.alternatives branches))
  | ',', _ =>
      if p.outer.isEmpty then some (next.push (.literal ','))
      else
        some { next with
          frame := { finished := p.frame.finished ++ [p.frame.current.reverse] } }
  | '\\', [] => none
  | '\\', c :: rest => some ((p.skipTo c rest).push (.literal c))
  | c, _ => some (next.push (.literal c))

/-- Read a pattern from a place on, a piece for each unit of fuel. -/
def readFrom : Nat → Place → Option (List Token)
  | 0, _ => none
  | fuel + 1, p =>
      match p.rest with
      | [] => if p.outer.isEmpty then some p.frame.current.reverse else none
      | c :: rest => (readPiece p c rest).bind (readFrom fuel)

/-- The tokens of a pattern. -/
def tokens? (pattern : String) : Option (List Token) :=
  readFrom (pattern.length + 1) { rest := pattern.toList }

/-- The bytes of a character. -/
def bytesOf (c : Char) : List UInt8 := String.utf8EncodeChar c

/-- The ranges of bytes that a range of characters gives: of characters of
several bytes, the last byte of the lower end goes with the first byte of the
upper end, and the other bytes stand for themselves. -/
def rangesOf (r : Char × Char) : List (UInt8 × UInt8) :=
  let lower := bytesOf r.1
  let upper := bytesOf r.2
  let alone := List.map fun b : UInt8 => (b, b)
  if r.1 = r.2 then alone lower
  else
    alone lower.dropLast ++ [(lower.getLast?.getD 0, upper.head?.getD 0)] ++ alone upper.tail

/-- The shape of any string. -/
def everything : Shape := .many .all

/-- The shape of a slash. -/
def slash : Shape := .one (.single 47)

mutual

/-- The shape of a token; nothing for alternatives that are all empty. -/
def shapeOf : Token → Option Shape
  | .literal c => some (.ofBytes (bytesOf c))
  | .any => some (.one .noSlash)
  | .run => some (.many .noSlash)
  | .deepPrefix => some (.either (.either .done slash) (.seq everything slash))
  | .deepSuffix => some (.seq slash everything)
  | .deepMiddle => some (.either slash (.seq slash (.seq everything slash)))
  | .members negated ranges => some (.one { negated, ranges := ranges.flatMap rangesOf })
  | .alternatives branches =>
      match shapesOfBranches branches with
      | [] => none
      | shapes => some (.oneOf shapes)

/-- The shape of a list of tokens; nothing when none of them has one. -/
def shapeOfTokens : List Token → Option Shape
  | [] => none
  | t :: rest =>
      match shapeOf t, shapeOfTokens rest with
      | none, s => s
      | some s, none => some s
      | some a, some b => some (a.andThen b)

/-- The shapes of the alternatives that are not empty. -/
def shapesOfBranches : List (List Token) → List Shape
  | [] => []
  | b :: rest =>
      match shapeOfTokens b with
      | none => shapesOfBranches rest
      | some s => s :: shapesOfBranches rest

end

/-- The shape of a whole pattern; `**` alone matches everything. -/
def shapeOfPattern : List Token → Shape
  | [.deepPrefix] => everything
  | ts => (shapeOfTokens ts).getD .done

/-- The shape of a pattern, when it is well-formed. -/
def shape? (pattern : String) : Option Shape := (tokens? pattern).map shapeOfPattern

/-- Whether a path has one of some shapes. -/
def anyMatches (shapes : List Shape) (path : String) : Bool :=
  shapes.any fun s => s.matches? path.toUTF8.toList

end XmlSchema.Glob
