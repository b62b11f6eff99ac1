import XmlSchema.Component.Error
import XmlSchema.Locator.Path

/-!
# Trees of files

A tree of files has directories, files with text, and symbolic links.  A path
is followed from the root or from the current directory, one component after
the other; a link is replaced by its target on the way, a limited number of
times.
-/

namespace XmlSchema

/-- What a name in a directory stands for. -/
inductive FileNode where
  | file (text : String)
  | link (target : String)
  | directory (entries : List (String × FileNode))
  deriving Repr, Inhabited

namespace FileNode

/-- Whether a node is a link. -/
def isLink : FileNode → Bool
  | link _ => true
  | _ => false

/-- The entries of a directory. -/
def entries : FileNode → List (String × FileNode)
  | directory es => es
  | _ => []

/-- The node at the end of a list of names; links are not followed. -/
def get? : FileNode → List String → Option FileNode
  | n, [] => some n
  | directory es, name :: rest => (es.lookup name).bind fun n => n.get? rest
  | _, _ :: _ => none

mutual

/-- The number of nodes. -/
def size : FileNode → Nat
  | directory es => sizeEntries es + 1
  | file _ => 1
  | link _ => 1

/-- The number of nodes below some entries. -/
def sizeEntries : List (String × FileNode) → Nat
  | [] => 0
  | (_, n) :: rest => size n + sizeEntries rest

end

mutual

/-- The files below a node, each with the names that lead to it. -/
def files : FileNode → List (List String × String)
  | file text => [([], text)]
  | link _ => []
  | directory es => filesOfEntries es

/-- The files below some entries. -/
def filesOfEntries : List (String × FileNode) → List (List String × String)
  | [] => []
  | (name, n) :: rest =>
      ((files n).map fun f => (name :: f.1, f.2)) ++ filesOfEntries rest

end

/-- Replace or append an entry. -/
def putEntry (name : String) (n : FileNode) : List (String × FileNode) → List (String × FileNode)
  | [] => [(name, n)]
  | e :: rest => if e.1 = name then (name, n) :: rest else e :: putEntry name n rest

/-- Put a node at the end of a list of names; what is missing on the way
becomes a directory. -/
def put (old : FileNode) : List String → FileNode → FileNode
  | [], n => n
  | name :: rest, n =>
      let inner := (old.entries.lookup name).getD (directory [])
      directory (putEntry name (put inner rest n) old.entries)

end FileNode

/-- A tree with a current directory, and with directories that no one may list:
what is in them is found under its name only. -/
structure FileTree where
  root : FileNode := .directory []
  current : List String := []
  closed : List (List String) := []
  deriving Repr, Inhabited

namespace FileTree

/-- The longest name that an entry may have, in bytes. -/
def maxName : Nat := 255

/-- The longest path that can be followed, in bytes. -/
def maxPath : Nat := 4095

/-- How many links may be followed on the way. -/
def maxLinks : Nat := 40

/-- The components of a path as they stand; an empty one tells that what comes
before it must be a directory. -/
def split (path : String) : List String :=
  (Text.splitOnChar '/' path.toList).map String.ofList

/-- Follow components from a directory up to a link, and from there as told. -/
def walkWith (follow : List String → List String → Except FileFault (List String)) (t : FileTree)
    (here : List String) : List String → Except FileFault (List String)
  | [] => .ok here
  | part :: rest =>
      match t.root.get? here with
      | some (.directory es) =>
          if part = "" || part = "." then walkWith follow t here rest
          else if part = ".." then walkWith follow t here.dropLast rest
          else if maxName < part.utf8ByteSize then .error .nameTooLong
          else
            match es.lookup part with
            | none => .error .notFound
            | some (.link target) =>
                follow (if Path.isAbsolute target then [] else here) (split target ++ rest)
            | some _ => walkWith follow t (here ++ [part]) rest
      | some _ => .error .notDirectory
      | none => .error .notFound

/-- Follow components from a directory to a file or directory.  The answer is
the way to it without links. -/
def walk (t : FileTree) : Nat → List String → List String → Except FileFault (List String)
  | 0 => walkWith (fun _ _ => .error .tooManyLinks) t
  | links + 1 => walkWith (walk t links) t

/-- Where a path begins. -/
def origin (t : FileTree) (path : String) : List String :=
  if Path.isAbsolute path then [] else t.current

/-- Refuse a path that no file can have. -/
def checkPath (path : String) : Except FileFault Unit :=
  if path.toList.contains '\x00' then .error .nulInName
  else if path.isEmpty then .error .notFound
  else if maxPath < path.utf8ByteSize then .error .nameTooLong
  else .ok ()

/-- The way to what a path leads to. -/
def canonical (t : FileTree) (path : String) : Except FileFault (List String) := do
  checkPath path
  walk t maxLinks (t.origin path) (split path)

/-- What a path leads to. -/
def node (t : FileTree) (path : String) : Except FileFault FileNode :=
  match t.canonical path with
  | .error fault => .error fault
  | .ok names =>
      match t.root.get? names with
      | some n => .ok n
      | none => .error .notFound

/-- The text of a file. -/
def read (t : FileTree) (path : String) : Except FileFault String :=
  match t.node path with
  | .ok (.file text) => .ok text
  | .ok _ => .error .isDirectory
  | .error fault => .error fault

/-- Whether a path leads to a directory. -/
def isDirectory (t : FileTree) (path : String) : Bool :=
  match t.node path with
  | .ok (.directory _) => true
  | _ => false

/-- Whether a path leads to something. -/
def contains (t : FileTree) (path : String) : Bool :=
  match t.node path with
  | .ok _ => true
  | .error _ => false

/-- The entries of a directory, in the order in which they are listed. -/
def list (t : FileTree) (path : String) : Except FileFault (List (String × FileNode)) := do
  let names ← t.canonical path
  match t.root.get? names with
  | some (.directory es) => if t.closed.contains names then throw .permissionDenied else return es
  | some _ => throw .notDirectory
  | none => throw .notFound

/-- The number of nodes. -/
def size (t : FileTree) : Nat := t.root.size

/-- The path of a name in a directory. -/
def join (directory name : String) : String :=
  if Path.isAbsolute name || directory.isEmpty then name
  else if directory.toList.getLast? = some '/' then directory ++ name
  else directory ++ "/" ++ name

/-- The path of the current directory. -/
def currentPath (t : FileTree) : String := "/" ++ "/".intercalate t.current

end FileTree

end XmlSchema
