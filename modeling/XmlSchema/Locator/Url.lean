import XmlSchema.Locator.Authority

/-!
# URLs

Reading, resolving and writing URLs.  Special schemes have hosts and default
ports and treat a backslash as a slash; URLs of other schemes may have an
opaque path, against which nothing but a fragment can be resolved.
-/

namespace XmlSchema

/-- A URL by the written forms of its parts; an authority that is empty is told
apart from none. -/
structure Url where
  scheme : String
  authority : Option String := none
  path : String
  query : Option String := none
  fragment : Option String := none
  deriving DecidableEq, Repr, Inhabited

namespace Url

/-- The kind of a URL's scheme. -/
def kind (u : Url) : SchemeKind := .ofScheme u.scheme

/-- Whether the path is opaque. -/
def isOpaque (u : Url) : Bool := u.authority.isNone && u.path.toList.head? != some '/'

/-- Remove blanks and control characters at both ends, tabs and line ends
everywhere. -/
def clean (s : String) : List Char :=
  let drop := List.dropWhile fun c : Char => c.toNat ≤ 0x20
  (drop (drop s.toList).reverse).reverse.filter fun c => c != '\t' && c != '\n' && c != '\r'

/-- A scheme and what follows its colon. -/
def splitScheme (cs : List Char) : Option (String × List Char) :=
  match cs with
  | c :: _ =>
      if c.isAlpha then
        let isPart (c : Char) := c.isAlphanum || c = '+' || c = '-' || c = '.'
        match cs.dropWhile isPart with
        | ':' :: rest => some (String.ofList ((cs.takeWhile isPart).map Char.toLower), rest)
        | _ => none
      else none
  | [] => none

/-- Separate the path from the query and the fragment. -/
def splitTail (cs : List Char) : List Char × Option (List Char) × Option (List Char) :=
  let (front, fragment) :=
    match Text.splitAtFirst '#' cs with
    | some (front, fragment) => (front, some fragment)
    | none => (cs, none)
  match Text.splitAtFirst '?' front with
  | some (path, query) => (path, some query, fragment)
  | none => (front, none, fragment)

/-- The written form of a query. -/
def encodeQuery (scheme : String) (cs : List Char) : String :=
  String.ofList
    (Percent.encode (Percent.querySet (SchemeKind.ofScheme scheme).isSpecial) cs)

/-- The written form of a fragment. -/
def encodeFragment (cs : List Char) : String :=
  String.ofList (Percent.encode Percent.fragmentSet cs)

/-- A URL whose path is read from `cs` onto `start`; query and fragment
follow. -/
def build (scheme : String) (authority : Option String) (start cs : List Char) : Url :=
  let (path, query, fragment) := splitTail cs
  { scheme, authority
    path := String.ofList (Route.read (.ofScheme scheme) start path).path
    query := query.map (encodeQuery scheme)
    fragment := fragment.map encodeFragment }

/-- What follows the slash at the front of a path. -/
def behindSlash (special : Bool) (cs : List Char) : List Char :=
  if cs.head?.any (Route.isSlash special) then cs.drop 1 else cs

/-- What follows an authority.  The path begins with a slash, except that it
may be empty when the scheme is not special. -/
def buildBehind (scheme authority : String) (cs : List Char) : Url :=
  let special := (SchemeKind.ofScheme scheme).isSpecial
  if !special && cs.head?.all (fun c => c = '?' || c = '#') then
    build scheme (some authority) [] cs
  else build scheme (some authority) ['/'] (behindSlash special cs)

/-- The part behind the two slashes that announce an authority. -/
def readAuthority? (scheme : String) (cs : List Char) : Option Url :=
  (Authority.read? scheme cs).map fun p => buildBehind scheme p.1 p.2

/-- A location relative to the path of a URL, or a part behind the path. -/
def readTail (base : Url) (start cs : List Char) : Url :=
  let (_, query, fragment) := splitTail cs
  match cs.head? with
  | none => { base with fragment := none }
  | some '#' => { base with fragment := fragment.map encodeFragment }
  | some '?' =>
      { base with
        query := query.map (encodeQuery base.scheme), fragment := fragment.map encodeFragment }
  | some _ => build base.scheme base.authority start cs

/-- The part behind the two slashes of a `file` URL.  A drive letter at the
front of the path takes the place of the host. -/
def readFileHost? (cs : List Char) : Option Url :=
  let name := cs.takeWhile (!Authority.isEnd true ·)
  let rest := cs.dropWhile (!Authority.isEnd true ·)
  if Route.isDrive name then some (build "file" (some "") ['/'] cs)
  else if name.isEmpty then some (build "file" (some "") ['/'] rest)
  else
    (Host.parse? true name).map fun host =>
      if host = "localhost" then build "file" (some "") ['/'] rest
      else
        let path := behindSlash true (splitTail rest).1
        buildBehind "file" (if (Route.read .file ['/'] path).hostless then "" else host) rest

/-- A `file` URL with an absolute path, perhaps on the host or the drive of
another one.  `cs` begins with the slash. -/
def readFilePath (base : Option Url) (cs : List Char) : Url :=
  match base.filter fun _ => !Route.startsWithDrive (cs.drop 1) with
  | none => build "file" (some "") [] cs
  | some b =>
      let first := Route.firstSegment b.path.toList
      if Route.isPlainDrive first then build "file" (some "") ('/' :: first) cs
      else build "file" b.authority [] cs

/-- A `file` URL, perhaps relative to another one. -/
def readFile? (base : Option Url) (cs : List Char) : Option Url :=
  match cs.takeWhile (Route.isSlash true), base with
  | _ :: _ :: _, _ => readFileHost? (cs.drop 2)
  | [_], _ => some (readFilePath base cs)
  | [], none => some (build "file" (some "") ['/'] cs)
  | [], some b =>
      if Route.startsWithDrive cs then some (build "file" (some "") ['/'] cs)
      else some (readTail b (Route.pop .file b.path.toList) cs)

/-- A location without a scheme, relative to a URL whose path is not opaque. -/
def readRelative? (base : Url) (cs : List Char) : Option Url :=
  let slashes := cs.takeWhile (Route.isSlash true)
  match slashes with
  | [] =>
      let before := Route.pop base.kind base.path.toList
      some (readTail base (if before.isEmpty then ['/'] else before) cs)
  | [_] => some (build base.scheme base.authority ['/'] (cs.drop 1))
  | '/' :: '/' :: _ => readAuthority? base.scheme (cs.drop 2)
  | _ => readAuthority? base.scheme (cs.drop slashes.length)

/-- A URL with an explicit scheme. -/
def readAbsolute? (base : Option Url) (scheme : String) (cs : List Char) : Option Url :=
  match SchemeKind.ofScheme scheme with
  | .file => readFile? (base.filter (·.scheme == "file")) cs
  | .web =>
      let slashes := cs.takeWhile (Route.isSlash true)
      match base.filter fun b => slashes.length < 2 && b.scheme == scheme with
      | some b => readRelative? b cs
      | none => readAuthority? scheme (cs.drop slashes.length)
  | .other =>
      match cs with
      | '/' :: '/' :: rest => readAuthority? scheme rest
      | '/' :: rest => some (build scheme none ['/'] rest)
      | _ =>
          let (path, query, fragment) := splitTail cs
          some
            { scheme
              path := String.ofList (Percent.encode Percent.controls path)
              query := query.map (encodeQuery scheme)
              fragment := fragment.map encodeFragment }

/-- Read a URL. -/
def parse? (s : String) : Option Url := do
  let (scheme, rest) ← splitScheme (clean s)
  readAbsolute? none scheme rest

/-- Resolve a location against a URL. -/
def join? (base : Url) (location : String) : Option Url :=
  let cs := clean location
  match splitScheme cs with
  | some (scheme, rest) => readAbsolute? (some base) scheme rest
  | none =>
      if cs.head? = some '#' then some (readTail base [] cs)
      else if base.isOpaque then none
      else if base.scheme = "file" then readFile? (some base) cs
      else readRelative? base cs

/-- The written form of a URL.  Without an authority, a path may not look like
one. -/
def text (u : Url) : String :=
  u.scheme ++ ":" ++
    (match u.authority with
      | some a => "//" ++ a
      | none => if "//".toList.isPrefixOf u.path.toList then "/." else "") ++
    u.path ++
    (match u.query with
      | none => ""
      | some q => "?" ++ q) ++
    (match u.fragment with
      | none => ""
      | some f => "#" ++ f)

/-- A path in which a drive letter at the end stands for its directory. -/
def driveDirectory (path : String) : String :=
  if Route.isDrive (path.toList.drop (path.length - 2)) then path ++ "/" else path

/-- The path of a `file` URL on this machine.  A segment whose bytes are no text
names no file; it becomes the replacement character. -/
def filePath? (u : Url) : Option String :=
  if u.authority == some "" then
    some (driveDirectory (String.join ((Text.splitOnChar '/' (u.path.toList.drop 1)).map fun s =>
      "/" ++ (Percent.decode? s).getD "\ufffd")))
  else none

end Url

end XmlSchema
