import HandlerMigration.Settings.Basic

/-!
# Where settings come from

Settings are read from the file that is named, else from the file of a fixed name next to the directory
of functions. Without either the built-in settings hold.
-/

namespace HandlerMigration

namespace Settings

/-- The name of the file with the settings. -/
def fileName : String := "edgefix.toml"

/-- The settings in a file. -/
def load (d : Disk) (path : String) : Except SettingsError Settings :=
  match d.read path with
  | .error cause => .error (.unreadable path cause)
  | .ok text => parse path text

/-- The file with settings that belongs to a directory of functions: it lies next to the directory. -/
def besideRoute (d : Disk) (directory : String) : Option Route :=
  match d.route (if directory == "" then "." else directory) with
  | .error _ => none
  | .ok [] => none
  | .ok route =>
    let beside := route.dropLast ++ [fileName]
    if d.tree.isFile beside then some beside else none

/-- The settings for a directory of functions: those of the file that is named, else those of the file
next to the directory, else the built-in ones. -/
def discover (d : Disk) (explicit : Option String) (directory : String) :
    Except SettingsError Settings :=
  match explicit with
  | some path => load d path
  | none =>
    match besideRoute d directory with
    | none => .ok standard
    | some route =>
      let path := d.absolute route
      match d.readRoute route with
      | .error cause => .error (.unreadable path cause)
      | .ok text => parse path text

/-- What `discover` reports while it works. -/
def discoverLog (d : Disk) (explicit : Option String) (directory : String) : List String :=
  match explicit with
  | some _ => []
  | none =>
    match besideRoute d directory with
    | none => [s!"No {fileName} found, using built-in defaults"]
    | some route =>
      let path := d.absolute route
      [s!"Using config {path}"]

end Settings

end HandlerMigration
