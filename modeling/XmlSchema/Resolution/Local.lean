import XmlSchema.Files.Tree
import XmlSchema.Resolution.Resolver

/-!
# Local documents

The resolver over a tree of files.  A location without a scheme is a path, a
`file` URL names a path, and documents on the web are never fetched.  A file
that is not there is no error; one that cannot be read is.
-/

namespace XmlSchema.Resolver

/-- Read the document at a path. -/
def readAt (t : FileTree) (locator path : String) : Except SchemaError (Option Located) :=
  match t.read path with
  | .ok text => (Located.parse locator text).map some
  | .error .notFound => .ok none
  | .error fault => .error (.io fault)

/-- What a locator leads to. -/
def locate (t : FileTree) (locator : String) : Except SchemaError (Option Located) :=
  if !Locator.hasScheme locator then readAt t locator locator
  else
    match Url.parse? locator with
    | none => .error (.resolution locator .malformedUrl)
    | some u =>
        if u.scheme = "file" then
          match u.filePath? with
          | none => .error (.resolution locator .notLocalFile)
          | some path => readAt t locator path
        else if u.scheme = "http" || u.scheme = "https" then .ok none
        else .error (.resolution locator (.unsupportedScheme u.scheme))

/-- A resolver over a tree of files.  A file has a locator for each way in which
links can lead to it, whence the size. -/
def ofFiles (t : FileTree) : Resolver where
  answer r := locate t (Locator.join r.location r.base)
  size := t.size * (FileTree.maxLinks + 1)

end XmlSchema.Resolver
