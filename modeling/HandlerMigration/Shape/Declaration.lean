import HandlerMigration.Shape.Basic

/-!
# Declarations at the head of a handler

Imports, the table of CORS headers that a handler defines for itself, and lines that give the shared
headers that table's name.
-/

namespace HandlerMigration.Shape

open Pattern Piece

/-- Names between braces imported from a path; the groups are the names and the path. -/
def namedImportPattern : Pattern :=
  text "import" ++ blanks ++ text "\x7b" ++ group 1 (manyOf (.except ['}'])) ++ text "\x7d" ++ blanks ++
  text "from" ++ blanks ++ quote ++ group 2 (manyOf (.except ['\'', '"'])) ++ quote ++ margin ++
  semicolon

/-- An import that takes one line. -/
def importLinePattern : Pattern :=
  look .lineStart ++ text "import" ++ one .blank ++ manyOf (.except ['\n']) ++ text "from" ++ blanks ++
  quote ++ someOf (.except ['\'', '"', '\n']) ++ quote ++ margin ++ semicolon ++ margin ++ look .lineEnd

/-- An import of names between braces. -/
structure NamedImport where
  span : Span
  /-- The text between the braces. -/
  names : Span
  path : Text
deriving DecidableEq, Repr

namespace NamedImport

/-- The imported names, without their local ones. -/
def imported (i : NamedImport) (t : Text) : List Text :=
  ((Text.splitOn ',' (t.slice i.names)).map Text.trim).filter (fun name => !name.isEmpty)
    |>.map Text.firstWord

def imports (i : NamedImport) (t name : Text) : Bool := (i.imported t).contains name

/-- Where another name can be added: behind the last character that is neither blank nor a comma. -/
def appendOffset (i : NamedImport) (t : Text) : Nat :=
  i.names.start + ((t.slice i.names).dropEndWhile fun c => isBlank c || c == ',').size

/-- Whether the path names a module, in whatever directory. -/
def isOf (i : NamedImport) (module : Text) : Bool :=
  i.path == module || i.path.endsWith ('/' :: module)

end NamedImport

def namedImports (t : Text) : List NamedImport :=
  (namedImportPattern.findAll t).filterMap fun m => do
    let names ← m.group? 1
    let path ← m.group? 2
    return ⟨m.span, names, t.slice path⟩

/-- The first import from a module. -/
def moduleImport? (t module : Text) : Option NamedImport :=
  (namedImports t).find? fun i => i.isOf module

/-- The last import that takes one line. -/
def lastImportLine? (t : Text) : Option Span :=
  ((importLinePattern.findAll t).getLast?).map (·.span)

/-- A table of headers, on lines of its own. -/
def headerTablePattern : Pattern :=
  lineStart ++ opt (text "export" ++ someBlanks) ++ text "const" ++ someBlanks ++
  text "corsHeaders" ++ blanks ++ opt (text ":" ++ someOf (.except ['=', '\n'])) ++ text "=" ++ blanks ++
  text "\x7b" ++ manyOf (.except ['{', '}']) ++ text "\x7d" ++ margin ++
  opt (text "as" ++ someBlanks ++ text "const" ++ margin) ++ semicolon ++ margin ++ lineEnd

/-- A line that gives the shared headers a local name. -/
def headerAliasPattern : Pattern :=
  lineStart ++ text "const" ++ someBlanks ++ text "corsHeaders" ++ blanks ++ text "=" ++ blanks ++
  text "getCorsHeaders(" ++ blanks ++ text "origin" ++ blanks ++ text ")" ++ statementEnd

def headerReferencePattern : Pattern := wordBoundary ++ text "corsHeaders" ++ wordBoundary

/-- The first table of headers. -/
def headerTable? (t : Text) : Option Span := (headerTablePattern.find? t).map (·.span)

def headerAliases (t : Text) : List Span := (headerAliasPattern.findAll t).map (·.span)

/-- How often a text names the headers. -/
def headerReferences (t : Text) : Nat := (headerReferencePattern.findAll t).length

end HandlerMigration.Shape
