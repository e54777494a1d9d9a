import HandlerMigration.Text.Basic

/-!
# Canonical forms

The texts that a migrated handler holds: imports of the shared helpers, the line that reads the
origin, the block that answers a preflight request, and the guard of a catch block.
-/

namespace HandlerMigration.Canonical

def corsModule : String := "cors-config.ts"

def authModule : String := "auth.ts"

/-- The directory of the shared modules, as a handler sees it. -/
def sharedDirectory : String := "../_shared"

def corsHeadersHelper : String := "getCorsHeaders"

def preflightHelper : String := "handleCorsPreflightRequest"

def originStatement : String := "const origin = req.headers.get('Origin');"

/-- The call that a preflight block delegates to. -/
def preflightCall : String := "handleCorsPreflightRequest(origin)"

/-- What every call of an authentication helper starts with. -/
def authMarker : String := "await validateAuth"

/-- The headers of a JSON response. -/
def jsonHeaders : String := "\x7b 'Content-Type': 'application/json', ...getCorsHeaders(origin) \x7d"

/-- The import of names from a shared module. -/
def importLine (names : List String) (module : String) : String :=
  "import \x7b " ++ ", ".intercalate names ++ " \x7d from '" ++ sharedDirectory ++ "/" ++ module ++ "';"

/-- The block that answers a preflight request, for a line that starts with `margin`. The margin of
the first line is not part of it. -/
def preflightBlock (margin : Text) : Text :=
  "if (req.method === 'OPTIONS') \x7b\n".toList ++ margin ++ "  return ".toList ++
  preflightCall.toList ++ ";\n".toList ++ margin ++ ['}']

/-- The statement that hands a caught response on to the caller. -/
def responseGuard (binding : Text) : Text :=
  "if (".toList ++ binding ++ " instanceof Response) return ".toList ++ binding ++ [';']

end HandlerMigration.Canonical
