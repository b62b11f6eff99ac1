import XmlSchema.Locator.Percent
import XmlSchema.Text.Blank

/-!
# Paths of URLs

The path of a URL is empty or begins with a slash.  It is read segment by
segment onto a path that is there already; dot segments lead back on it.  In a
`file` URL a drive letter at the front is a root of its own.
-/

namespace XmlSchema

/-- The kinds of schemes: `file`, those of the web, and all others.  The first
two are special. -/
inductive SchemeKind where
  | file
  | web
  | other
  deriving DecidableEq, Repr

/-- Whether URLs of a kind have hosts, and backslashes for slashes. -/
def SchemeKind.isSpecial : SchemeKind → Bool
  | file => true
  | web => true
  | other => false

namespace Route

/-- Whether a character separates the segments of a path. -/
def isSlash (special : Bool) (c : Char) : Bool := c = '/' || (special && c = '\\')

/-- Whether a segment stands for the directory itself. -/
def isSingleDot (s : List Char) : Bool :=
  s = ['.'] || s.map Char.toLower = "%2e".toList

/-- Whether a segment stands for the directory above. -/
def isDoubleDot (s : List Char) : Bool :=
  ["..", ".%2e", "%2e.", "%2e%2e"].any fun t => s.map Char.toLower = t.toList

/-- Whether a segment is a drive letter in its written form. -/
def isPlainDrive : List Char → Bool
  | [c, ':'] => c.isAlpha
  | _ => false

/-- Whether a segment is a drive letter. -/
def isDrive : List Char → Bool
  | [c, d] => c.isAlpha && (d = ':' || d = '|')
  | _ => false

/-- Whether the first segment of a text is a drive letter. -/
def startsWithDrive (cs : List Char) : Bool :=
  isDrive (cs.take 2) && (cs.drop 2).head?.all fun c => "/\\?#".contains c

/-- The last segment of a path. -/
def lastSegment (path : List Char) : List Char := (path.reverse.takeWhile (· != '/')).reverse

/-- A path without what follows its last slash. -/
def upToSlash (path : List Char) : List Char := (path.reverse.dropWhile (· != '/')).reverse

/-- The first segment of a path. -/
def firstSegment (path : List Char) : List Char := (path.drop 1).takeWhile (· != '/')

/-- Remove the last segment.  A drive letter at the end of a file's path
stays. -/
def pop (kind : SchemeKind) (path : List Char) : List Char :=
  if kind = .file && isPlainDrive (lastSegment path) then path else upToSlash path

/-- Whether the slash at the end of a path may go: there is one before it, and
no drive letter stands between the two. -/
def slashMayGo (path : List Char) : Bool :=
  let before := path.dropLast
  before.contains '/' && !startsWithDrive (path.drop (upToSlash before).length)

/-- A path with a slash at its end. -/
def closed (path : List Char) : List Char :=
  if path.getLast? = some '/' then path else path ++ ['/']

/-- Go to the directory above. -/
def ascend (kind : SchemeKind) (path : List Char) : List Char :=
  pop kind (if path.getLast? = some '/' && slashMayGo path then path.dropLast else path)

/-- A path while it is read, and whether a drive letter has taken the place of
the host. -/
structure Draft where
  path : List Char
  hostless : Bool := false

/-- Add the written form of a segment. -/
def Draft.add (d : Draft) (s : List Char) : Draft :=
  { d with path := d.path ++ Percent.encode Percent.pathSet s }

/-- Read a segment.  `more` tells that a slash follows it. -/
def Draft.read (kind : SchemeKind) (d : Draft) (s : List Char) (more : Bool) : Draft :=
  let slash (d : Draft) : Draft := if more then { d with path := d.path ++ ['/'] } else d
  let apart := kind = .file && isPlainDrive (d.path.drop 1) && !s.isEmpty
  let d := if apart then { d with path := closed d.path } else d
  let first := kind = .file && d.path = ['/']
  if first && isPlainDrive (s.take 2) && 2 < s.length then
    slash (({ d with path := d.path ++ s.take 2 ++ ['/'] } : Draft).add (s.drop 2))
  else if isDoubleDot s then
    let path := ascend kind d.path
    { d with path := if more then closed path else path }
  else if isSingleDot s then { d with path := closed d.path }
  else if first && isDrive s then
    slash { path := d.path ++ s.take 1 ++ [':'], hostless := true }
  else slash (d.add s)

/-- Read segments with slashes between them. -/
def Draft.readAll (kind : SchemeKind) : Draft → List (List Char) → Draft
  | d, [] => d
  | d, [s] => d.read kind s false
  | d, s :: rest => Draft.readAll kind (d.read kind s true) rest

/-- Cut a text at its separators. -/
def cut (special : Bool) : List Char → List (List Char)
  | [] => [[]]
  | c :: rest =>
      if isSlash special c then [] :: cut special rest
      else
        match cut special rest with
        | [] => [[c]]
        | w :: ws => (c :: w) :: ws

/-- Read a text onto a path.  The path of a file begins with a single slash. -/
def read (kind : SchemeKind) (start text : List Char) : Draft :=
  let d := Draft.readAll kind ⟨start, false⟩ (cut kind.isSpecial text)
  if kind = .file then { d with path := '/' :: d.path.dropWhile (· = '/') } else d

end Route

end XmlSchema
