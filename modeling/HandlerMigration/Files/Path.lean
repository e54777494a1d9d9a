/-!
# Paths

A path is a string of names separated by slashes. Repeated slashes, a dot between names and what
stands behind the last name (slashes and dots) have no meaning of their own; two dots name the
parent and are kept.
-/

namespace HandlerMigration.Path

inductive Component where
  | root
  /-- A dot at the start of a relative path. -/
  | here
  | parent
  | name (n : String)
deriving DecidableEq, Repr

/-- The component that a piece between slashes stands for. -/
def ofPiece : String → Option Component
  | "" | "." => none
  | ".." => some .parent
  | n => some (.name n)

/-- The components of a path. -/
def components (path : String) : List Component :=
  match path.splitOn "/" with
  | "" :: pieces => (if path == "" then [] else [.root]) ++ pieces.filterMap ofPiece
  | "." :: pieces => .here :: pieces.filterMap ofPiece
  | pieces => pieces.filterMap ofPiece

/-- The function that owns a handler: the name of the directory that holds it. -/
def functionName (handler : String) : Option String :=
  match (components handler).reverse with
  | .root :: _ => none
  | _ :: .name n :: _ => some n
  | _ => none

/-- The path of an entry of a directory. -/
def join (directory entry : String) : String :=
  if directory == "" || directory.endsWith "/" then directory ++ entry else directory ++ "/" ++ entry

end HandlerMigration.Path
