/-!
# File trees

A tree is a list of files and directories, each under the names that lead to it from the root. A
disk adds where the root lies and in which directory the work is done.
-/

namespace HandlerMigration

/-- The names that lead from the root to a file or a directory. -/
abbrev Route := List String

/-- Why a file cannot be read. -/
inductive ReadError where
  | notFound
  | notDirectory
  | isDirectory
  | notText
deriving DecidableEq, Repr

def ReadError.message : ReadError → String
  | notFound => "No such file or directory (os error 2)"
  | notDirectory => "Not a directory (os error 20)"
  | isDirectory => "Is a directory (os error 21)"
  | notText => "stream did not contain valid UTF-8"

structure Tree where
  files : List (Route × ByteArray)
  /-- Directories; those that hold something need not be listed. -/
  directories : List Route

namespace Tree

def bytes? (t : Tree) (route : Route) : Option ByteArray := t.files.lookup route

def isFile (t : Tree) (route : Route) : Bool := (t.bytes? route).isSome

/-- The root is a directory, and so is everything that leads to something else. -/
def isDirectory (t : Tree) (route : Route) : Bool :=
  route.isEmpty || t.directories.any (fun r => route.isPrefixOf r) ||
  t.files.any fun file => route.isPrefixOf file.1 && route != file.1

def contains (t : Tree) (route : Route) : Bool := t.isFile route || t.isDirectory route

/-- The names in a directory, each once. -/
def entries (t : Tree) (route : Route) : List String :=
  ((t.files.map (·.1) ++ t.directories).filterMap fun r =>
    (route.isPrefixOf? r).bind List.head?).eraseDups

/-- The tree with new bytes in one file. -/
def write (t : Tree) (route : Route) (bytes : ByteArray) : Tree :=
  { t with files := t.files.map fun file => if file.1 = route then (file.1, bytes) else file }

end Tree

structure Disk where
  tree : Tree
  /-- The path of the root. -/
  location : String
  workingDirectory : Route

namespace Disk

/-- The route that a path leads to from a directory, piece by piece between its slashes. Only a
directory leads on. -/
def follow (t : Tree) (route : Route) : List String → Except ReadError Route
  | [] => .ok route
  | piece :: pieces =>
    if !t.isDirectory route then .error .notDirectory
    else
      match piece with
      | "" | "." => follow t route pieces
      | ".." => follow t route.dropLast pieces
      | name =>
        if t.contains (route ++ [name]) then follow t (route ++ [name]) pieces else .error .notFound

/-- The route of a path. An absolute path has to start at the root's own. -/
def route (d : Disk) (path : String) : Except ReadError Route :=
  if path == "" then .error .notFound
  else if !path.startsWith "/" then follow d.tree d.workingDirectory (path.splitOn "/")
  else
    match (d.location.toList).isPrefixOf? path.toList with
    | some rest => follow d.tree [] ((String.ofList rest).splitOn "/")
    | none => .error .notFound

/-- The path of a route from the root on. -/
def absolute (d : Disk) (route : Route) : String := "/".intercalate (d.location :: route)

def isDirectory (d : Disk) (path : String) : Bool :=
  match d.route path with
  | .ok route => d.tree.isDirectory route
  | .error _ => false

/-- The text of a file. -/
def readRoute (d : Disk) (route : Route) : Except ReadError String :=
  match d.tree.bytes? route with
  | none => .error .isDirectory
  | some bytes =>
    match String.fromUTF8? bytes with
    | none => .error .notText
    | some text => .ok text

def read (d : Disk) (path : String) : Except ReadError String :=
  match d.route path with
  | .error cause => .error cause
  | .ok route => d.readRoute route

end Disk

end HandlerMigration
