import HandlerMigration.Command.Execute

/-!
# The command line

Looks at the files that a request is about, runs the program on them, and writes what has changed.
-/

namespace HandlerMigration.Machine

open Command

/-- The names of an absolute path. -/
def namesOf (path : String) : Route := (path.splitOn "/").filter fun name => name != ""

def pathOf (route : Route) : String := "/" ++ "/".intercalate route

/-- What lies at a route: a directory, a file with its bytes, or nothing. -/
def look (route : Route) : IO Tree := do
  try
    let place ← IO.FS.realPath (pathOf route)
    if ← place.isDir then return ⟨[], [route]⟩
    return ⟨[(route, ← IO.FS.readBinFile place)], []⟩
  catch _ => return ⟨[], []⟩

/-- What lies in a directory. -/
def lookInside (route : Route) : IO Tree := do
  try
    let place ← IO.FS.realPath (pathOf route)
    let found ← (← place.readDir).toList.mapM fun entry => look (route ++ [entry.fileName])
    return ⟨found.flatMap Tree.files, found.flatMap Tree.directories⟩
  catch _ => return ⟨[], []⟩

/-- The routes that a path passes, the last one being its own. -/
def passed (here : Route) (path : String) : List Route :=
  let start := if path.startsWith "/" then [] else here
  (path.splitOn "/").foldl (fun routes piece =>
    let route := routes.getLastD start
    let next := match piece with
      | "" | "." => route
      | ".." => route.dropLast
      | name => route ++ [name]
    routes ++ [next]) [start]

/-- The routes of the files with settings and ignore rules that a directory depends on. -/
def relevant (directory : Route) : List Route :=
  let rules (route : Route) : List Route :=
    [[".ignore"], [".gitignore"], [".git", "info", "exclude"], [".git"]].map (route ++ ·)
  (directory :: Ignore.above directory).flatMap rules ++ [directory.dropLast ++ [Settings.fileName]]

/-- The disk with what lies on the way to some paths. -/
def lookFurther (d : Disk) (paths : List String) : IO Disk := do
  let found ← (paths.flatMap (passed d.workingDirectory)).mapM look
  return { d with tree := ⟨d.tree.files ++ found.flatMap Tree.files,
    d.tree.directories ++ found.flatMap Tree.directories⟩ }

/-- The part of the machine's files that a request is about. -/
def survey (here : Route) (directory : String) (config : Option String) : IO Disk := do
  let route := (passed here directory).getLastD here
  let outside ← ((here :: passed here directory) ++ (config.map (passed here)).getD [] ++
    relevant route).mapM look
  let functions ← lookInside route
  let inside ← functions.directories.mapM lookInside
  let rules ← (functions.directories.map (· ++ [".git", "info", "exclude"])).mapM look
  let found := outside ++ [functions] ++ inside ++ rules
  let disk : Disk := ⟨⟨found.flatMap Tree.files, found.flatMap Tree.directories⟩, "", here⟩
  -- the exclusions of linked working trees lie elsewhere
  let linked := disk.tree.files.filterMap fun (route, bytes) =>
    if route.getLast? = some ".git" then Ignore.linked? bytes else none
  let disk ← lookFurther disk (linked.map fun path => Path.join path "commondir")
  lookFurther disk ((linked.filterMap (Ignore.shared? disk)).map fun path => Path.join path "info/exclude")

/-- Writes a file by way of a new one that takes its place. -/
def replaceFile (route : Route) (bytes : ByteArray) : IO Unit := do
  let draft := pathOf route ++ ".new"
  IO.FS.writeBinFile draft bytes
  IO.FS.rename draft (pathOf route)

/-- Writes the files that differ from what was found. -/
def writeChanges (before after : Tree) : IO Unit := do
  for (route, bytes) in after.files do
    if before.bytes? route != some bytes then replaceFile route bytes

end HandlerMigration.Machine

open HandlerMigration Command Machine in
def main (arguments : List String) : IO UInt32 := do
  let here := namesOf (← IO.currentDir).toString
  let disk ← match Request.ofArguments arguments with
    | .ok (.run directory config _) | .ok (.list directory config) => survey here directory config
    | _ => pure ⟨⟨[], []⟩, "", here⟩
  let execution := execute disk arguments
  writeChanges disk.tree execution.disk.tree
  (← IO.getStdout).putStr execution.out
  (← IO.getStderr).putStr execution.err
  match execution.ending with
  | .exit code => return code.toUInt32
  | .abort => return 101
