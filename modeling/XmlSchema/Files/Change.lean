import XmlSchema.Files.Tree

/-!
# Changing a tree of files

Making directories and writing files.  A step that fails leaves the tree as it
was; of several steps, those before a failure stay done.
-/

namespace XmlSchema.FileTree

/-- Make a directory in one that is there.  The name of the new one may not be
a dot segment. -/
def makeDirectory (t : FileTree) (path : String) : Except FileFault FileTree := do
  checkPath path
  match (split path).reverse.dropWhile String.isEmpty with
  | [] => throw .alreadyExists
  | name :: above => do
      let here ← t.walk maxLinks (t.origin path) above.reverse
      match t.root.get? here with
      | some (.directory es) =>
          if name = "." || name = ".." || (es.lookup name).isSome then throw .alreadyExists
          else if maxName < name.utf8ByteSize then throw .nameTooLong
          else return { t with root := t.root.put (here ++ [name]) (.directory []) }
      | _ => throw .notDirectory

/-- The components of a path: its root or a dot at its front, and the names. -/
def components (path : String) : List String :=
  (if Path.isAbsolute path then [""] else if (split path).head? == some "." then ["."] else []) ++
    Path.components path

/-- The paths above a path, nearest first.  Only the components count: a path
with a dot at its end has the same ones above it as without. -/
def above (path : String) : List String :=
  ((List.range (components path).length).reverse.map fun k =>
    if k = 1 && Path.isAbsolute path then "/" else "/".intercalate ((components path).take k)).filter
      fun p => !(p.isEmpty && Path.isAbsolute path)

/-- The outcome of several steps, with the tree they lead to. -/
abbrev Steps := Except FileFault Unit × FileTree

/-- Make a directory, unless it is there. -/
def ensureDirectory (t : FileTree) (path : String) : Steps :=
  match t.makeDirectory path with
  | .ok t => (.ok (), t)
  | .error fault => (if t.isDirectory path then .ok () else .error fault, t)

/-- Make a directory below the paths of a list, nearest first, of which some
may be missing as well. -/
def makeBelow (t : FileTree) (path : String) : List String → Steps
  | [] => if path.isEmpty then (.ok (), t) else t.ensureDirectory path
  | next :: rest =>
      match t.makeDirectory path with
      | .error .notFound =>
          match makeBelow t next rest with
          | (.ok _, t) => t.ensureDirectory path
          | failed => failed
      | _ => t.ensureDirectory path

/-- Make a directory and those above it. -/
def makeDirectories (t : FileTree) (path : String) : Steps :=
  t.makeBelow path (above path)

/-- A path without its last component, and that component. -/
def splitLast (path : String) : String × String :=
  match (split path).reverse with
  | [] => ("", "")
  | name :: before =>
      (if before.isEmpty then "."
        else if before = [""] then "/"
        else "/".intercalate before.reverse, name)

/-- Write a file in a directory that is there. -/
def write (t : FileTree) (path text : String) : Except FileFault FileTree :=
  match t.canonical path with
  | .ok names =>
      match t.root.get? names with
      | some (.file _) => .ok { t with root := t.root.put names (.file text) }
      | _ => .error .isDirectory
  | .error .notFound =>
      match t.canonical (splitLast path).1 with
      | .ok names => .ok { t with root := t.root.put (names ++ [(splitLast path).2]) (.file text) }
      | .error fault => .error fault
  | .error fault => .error fault

/-- The tree whose directories lead to a current directory. -/
def empty (current : List String) : FileTree :=
  { root := (FileNode.directory []).put current (.directory []), current }

/-- Put a node below the current directory, with the directories that lead to
it. -/
def plant (t : FileTree) (path : String) (n : FileNode) : FileTree :=
  { t with root := t.root.put (t.current ++ Path.components path) n }

/-- Make a directory below the current directory, unless it is there. -/
def plantDirectory (t : FileTree) (path : String) : FileTree :=
  if t.contains path then t else t.plant path (.directory [])

/-- The files below a directory, by their paths. -/
def filesBelow (t : FileTree) (path : String) : List (String × String) :=
  match t.node path with
  | .ok (.directory es) =>
      (FileNode.filesOfEntries es).map fun f => (join path ("/".intercalate f.1), f.2)
  | _ => []

end XmlSchema.FileTree
