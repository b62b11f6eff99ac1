import XmlSchema.Component.Error
import XmlSchema.Files.Tree
import XmlSchema.Glob.Pattern
import XmlSchema.Locator.Path
import XmlSchema.Text.Case

/-!
# Finding schema documents

A file is taken by its extension and by patterns on its path: none of those to
leave out may match, and one of those to take in, if there are any.

The walk goes through a directory and those below it, breadth first.  Entries of
the directory itself are at depth 0.  Symbolic links are passed over or
followed; when they are followed, no directory is gone through twice.  What
cannot be read is passed over, the directory itself apart.
-/

namespace XmlSchema

/-- What tells schema documents from other files, and how far to look for
them. -/
structure Discovery where
  extensions : List String := ["xsd"]
  included : Option (List Glob.Shape) := none
  excluded : Option (List Glob.Shape) := none
  maxDepth : Option Nat := none
  followLinks : Bool := false
  deriving Inhabited

namespace Discovery

/-- Take extensions in any case, with or without their dots. -/
def withExtensions (d : Discovery) (extensions : List String) : Discovery :=
  { d with
    extensions := extensions.map fun e => Text.lower (String.ofList (e.toList.dropWhile (· = '.'))) }

/-- Read a pattern. -/
def readPattern (pattern : String) : Except SchemaError Glob.Shape :=
  match Glob.shape? pattern with
  | some s => .ok s
  | none => .error (.configuration ("Invalid glob pattern '" ++ pattern ++ "'"))

/-- Read patterns; no patterns are no condition. -/
def readPatterns : List String → Except SchemaError (Option (List Glob.Shape))
  | [] => .ok none
  | patterns => (patterns.mapM readPattern).map some

/-- Take in only what one of some patterns matches. -/
def including (d : Discovery) (patterns : List String) : Except SchemaError Discovery :=
  (readPatterns patterns).map fun included => { d with included }

/-- Leave out what one of some patterns matches. -/
def excluding (d : Discovery) (patterns : List String) : Except SchemaError Discovery :=
  (readPatterns patterns).map fun excluded => { d with excluded }

/-- Whether a path, relative to where the search starts, is that of a schema
document. -/
def accepts (d : Discovery) (path : String) : Bool :=
  match (Path.ofString path).extension? with
  | none => false
  | some extension =>
      d.extensions.contains (Text.lower extension) &&
        !(d.excluded.any fun shapes => Glob.anyMatches shapes path) &&
        (d.included.all fun shapes => Glob.anyMatches shapes path)

/-- A directory that the walk has still to go through. -/
structure Stop where
  path : String
  names : List String
  depth : Nat
  deriving Inhabited

/-- A document, by its path and the names that lead to it from the start. -/
structure Found where
  path : String
  names : List String
  deriving DecidableEq, Repr, Inhabited

/-- What a walk has come upon. -/
structure Tally where
  found : List Found := []
  directories : Nat := 0
  skippedLinks : Nat := 0
  errors : Nat := 0
  visited : List (List String) := []
  deriving Inhabited

/-- Take notice of one entry of a directory; the answer has the directory to go
through later. -/
def entry (d : Discovery) (t : FileTree) (stop : Stop) (tally : Tally)
    (name : String) (n : FileNode) : Tally × Option Stop :=
  let path := FileTree.join stop.path name
  let names := stop.names ++ [name]
  if n.isLink && !d.followLinks then
    ({ tally with skippedLinks := tally.skippedLinks + 1 }, none)
  else
    match t.node path with
    | .error _ => ({ tally with errors := tally.errors + 1 }, none)
    | .ok (.directory _) =>
        (tally, if d.maxDepth.all (stop.depth < ·) then some ⟨path, names, stop.depth + 1⟩ else none)
    | .ok _ =>
        if d.accepts ("/".intercalate names) then
          ({ tally with found := tally.found ++ [⟨path, names⟩] }, none)
        else (tally, none)

/-- Take notice of the entries of a directory. -/
def entries (d : Discovery) (t : FileTree) (stop : Stop) :
    Tally → List (String × FileNode) → Tally × List Stop
  | tally, [] => (tally, [])
  | tally, (name, n) :: rest =>
      let (tally, next) := d.entry t stop tally name n
      let (tally, more) := d.entries t stop tally rest
      (tally, next.toList ++ more)

/-- Go through the directories of a queue, one for each unit of fuel. -/
def through (d : Discovery) (t : FileTree) : Nat → List Stop → Tally → Tally
  | 0, _, tally => tally
  | _ + 1, [], tally => tally
  | fuel + 1, stop :: queue, tally =>
      match t.canonical stop.path with
      | .error _ => d.through t fuel queue { tally with errors := tally.errors + 1 }
      | .ok place =>
          if d.followLinks && tally.visited.contains place then d.through t fuel queue tally
          else
            let tally := { tally with visited := place :: tally.visited }
            match t.list stop.path with
            | .error _ => d.through t fuel queue { tally with errors := tally.errors + 1 }
            | .ok listing =>
                let (tally, more) :=
                  d.entries t stop { tally with directories := tally.directories + 1 } listing
                d.through t fuel (queue ++ more) tally

/-- The order of paths: name by name. -/
def namesLe : List String → List String → Bool
  | [], _ => true
  | _ :: _, [] => false
  | a :: as, b :: bs => if a = b then namesLe as bs else decide (a < b)

/-- Counts of a walk. -/
structure Stats where
  files : Nat
  directories : Nat := 0
  skippedLinks : Nat := 0
  errors : Nat := 0
  deriving DecidableEq, Repr, Inhabited

/-- The documents below a path in order, with the counts of the walk.  A path
to a file gives that file, whatever it is. -/
def walk (d : Discovery) (t : FileTree) (path : String) :
    Except SchemaError (List String × Stats) :=
  match t.node path with
  | .error fault => .error (.io fault)
  | .ok (.directory _) =>
      match t.list path with
      | .error fault => .error (.io fault)
      | .ok _ =>
          let tally := d.through t (t.size + 2) [⟨path, [], 0⟩] {}
          let found := tally.found.mergeSort fun a b => namesLe a.names b.names
          .ok (found.map Found.path,
            { files := found.length, directories := tally.directories
              skippedLinks := tally.skippedLinks, errors := tally.errors })
  | .ok _ => .ok ([path], { files := 1 })

end Discovery

end XmlSchema
