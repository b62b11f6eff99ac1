import XmlSchema.CommandLine.Program

/-!
# The command line

The program as a command.  A run depends only on the files that it knows of, so
it is repeated with more files until it asks for no new ones; only then is
anything shown or written.
-/

namespace XmlSchema.Main

/-- The path of names from the root. -/
def absolute (names : List String) : String := "/" ++ "/".intercalate names

/-- Put a node into a tree. -/
def put (t : FileTree) (names : List String) (n : FileNode) : FileTree :=
  { t with root := t.root.put names n }

/-- Make sure of a directory in a tree. -/
def ensure (t : FileTree) (names : List String) : FileTree :=
  match t.root.get? names with
  | some (.directory _) => t
  | _ => put t names (.directory [])

/-- The text of a file, if it has one. -/
def textOf (path : String) : IO (Option String) := do
  try
    return String.fromUTF8? (← IO.FS.readBinFile path)
  catch _ => return none

/-- Take over what a path leads to on the disk, and the way to it. -/
partial def follow (t : FileTree) (here : List String) : List String → IO FileTree
  | [] => return t
  | ".." :: rest => follow t here.dropLast rest
  | part :: rest => do
      let names := here ++ [part]
      let place := (← IO.currentDir) / absolute names
      match ← place.symlinkMetadata.toBaseIO with
      | .error _ => return t
      | .ok found =>
          match found.type with
          | .dir => follow (ensure t names) names rest
          | .symlink =>
              match ← (IO.FS.realPath place).toBaseIO with
              | .error _ => return put t names (.link "")
              | .ok real =>
                  follow (put t names (.link real.toString)) [] (Path.components real.toString ++ rest)
          | _ =>
              match ← textOf (absolute names) with
              | some text => return put t names (.file text)
              | none => return t

/-- Take over what a path leads to, seen from the current directory. -/
def consult (t : FileTree) (path : String) : IO FileTree :=
  follow t [] ((if Path.isAbsolute path then [] else t.current) ++ Path.components path)

/-- Take over the names of everything below a directory. -/
partial def survey (t : FileTree) (names : List String) : IO FileTree := do
  let place := (← IO.currentDir) / absolute names
  let mut t := ensure t names
  let .ok listing ← place.readDir.toBaseIO | return { t with closed := names :: t.closed }
  for entry in listing do
    let inner := names ++ [entry.fileName]
    match ← entry.path.symlinkMetadata.toBaseIO with
    | .error _ => pure ()
    | .ok found =>
        match found.type with
        | .dir => t ← survey t inner
        | .symlink => t ← consult t (absolute inner)
        | _ =>
            if (t.root.get? inner).isNone then
              t := put t inner (.file "")
  return t

/-- Repeat a run with the files that it asks for. -/
partial def settle (around : Surroundings) (a : Arguments) (seen : List String) :
    IO (Except RunError Finished) := do
  match Program.runWith around a with
  | .error e => return .error e
  | .ok r =>
      match (r.consulted.filter fun path => !seen.contains path).eraseDups with
      | [] => return .ok r
      | more =>
          let files ← more.foldlM consult around.files
          settle { around with files } a (more ++ seen)

/-- The directory that holds the settings of the user. -/
def userDirectory : IO (Option String) := do
  match ← IO.getEnv "XDG_CONFIG_HOME", ← IO.getEnv "HOME" with
  | some directory, home =>
      return if Path.isAbsolute directory then some directory else home.map (· ++ "/.config")
  | none, home => return home.map (· ++ "/.config")

/-- The variables that stand for settings. -/
def environment : IO Variables := do
  let found ← Settings.overrides.mapM fun v => do
    let name := Settings.variableStem ++ v.suffix
    return (← IO.getEnv name).map fun value => (name, value)
  return found.filterMap id

/-- The number of threads that the machine runs at once. -/
def machineThreads : IO Nat := do
  let text ← textOf "/proc/cpuinfo"
  let lines := Text.splitOnChar '\n' ((text.getD "").toList)
  return max 1 (lines.countP fun line => "processor".toList.isPrefixOf line)

/-- The files that a run with some arguments depends on from the start. -/
def firstFiles (user : Option String) (a : Arguments) : IO FileTree := do
  let current := Path.components (← IO.currentDir).toString
  let t ← follow { current } [] current
  let settings := match a.config with
    | some path => [path]
    | none => Settings.candidates user
  let t ← (settings ++ [a.path]).foldlM consult t
  match t.node a.path, t.canonical a.path with
  | .ok (.directory _), .ok names => survey t names
  | _, _ => return t

/-- Write the files of a run. -/
def writeFiles (r : Finished) : IO Unit := do
  for path in r.written do
    IO.FS.createDirAll (FileTree.splitLast path).1
    match r.files.read path with
    | .ok text => IO.FS.writeFile path text
    | .error _ => pure ()

/-- Run with the words of a command line; the answer is the exit code. -/
def run (words : List String) : IO UInt32 := do
  let start ← IO.monoNanosNow
  let refuse (e : RunError) : IO UInt32 := do
    IO.print e.answer
    IO.eprint e.text
    return UInt32.ofNat e.exitCode
  match Arguments.parse words with
  | .error e => refuse (.usage e)
  | .ok a => do
      let user ← userDirectory
      let files ← firstFiles user a
      let around : Surroundings :=
        { files, userDirectory := user, environment := ← environment, threads := ← machineThreads }
      match ← settle around a [] with
      | .error e => refuse e
      | .ok r => do
          writeFiles r
          let report := { r.report with totalDuration := ⟨(← IO.monoNanosNow) - start⟩ }
          IO.print ({ r with report }.shown (← (← IO.getStdout).isTty))
          return UInt32.ofNat r.exitCode

end XmlSchema.Main

/-- Build schema documents and report on them. -/
def main (words : List String) : IO UInt32 := XmlSchema.Main.run words
