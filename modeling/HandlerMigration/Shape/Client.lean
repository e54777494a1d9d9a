import HandlerMigration.Bracket
import HandlerMigration.Shape.Basic
import HandlerMigration.Text.Line

/-!
# Constructions of a client

Statements that bind the result of `createClient` to a constant, on lines of their own.
-/

namespace HandlerMigration.Shape

open Pattern Piece

/-- The start of a line that binds the first group to a new client. -/
def clientBinding : Pattern :=
  text "const" ++ someBlanks ++ group 1 identifier ++ blanks ++ text "=" ++ blanks ++
  text "createClient("

/-- The value of an environment variable. -/
def environment (name : String) : Pattern :=
  text "Deno.env.get(" ++ blanks ++ quoted name ++ blanks ++ text ")"

/-- A client of the service role with each argument on a line of its own. -/
def multilineClientPattern : Pattern :=
  lineStart ++ clientBinding ++ blanks ++ text "\n" ++ blanks ++ environment "SUPABASE_URL" ++
  manyOf (.except [',']) ++ text "," ++ blanks ++ text "\n" ++ blanks ++
  environment "SUPABASE_SERVICE_ROLE_KEY" ++ manyOf (.except [')']) ++ text ")" ++ statementEnd

/-- A constant with the key and a client made with it, on two lines. -/
def keyedClientPattern (key : String) (value : Pattern) : Pattern :=
  lineStart ++ text "const" ++ someBlanks ++ text key ++ blanks ++ text "=" ++ blanks ++ value ++
  margin ++ semicolon ++ margin ++ lineBreak ++ margin ++ clientBinding ++ blanks ++
  text "supabaseUrl" ++ blanks ++ text "," ++ blanks ++ text key ++ blanks ++ text ")" ++ statementEnd

def serviceKeyPattern : Pattern :=
  keyedClientPattern "supabaseServiceKey"
    (environment "SUPABASE_SERVICE_ROLE_KEY" ++ opt (text "!"))

def requireEnvPattern : Pattern :=
  keyedClientPattern "supabaseKey"
    (text "requireEnv(" ++ blanks ++ quoted "SUPABASE_SERVICE_ROLE_KEY" ++ blanks ++ text ")")

/-- The end of an object inside another one. -/
def objectEnd : Pattern := text "\x7d" ++ blanks ++ comma ++ blanks

/-- A client that acts for the caller, by the caller's own header. -/
def callerClientPattern : Pattern :=
  lineStart ++ clientBinding ++ blanks ++ environment "SUPABASE_URL" ++ manyOf (.except [',']) ++
  text "," ++ blanks ++ environment "SUPABASE_ANON_KEY" ++ manyOf (.except [',']) ++ text "," ++ blanks ++
  text "\x7b" ++ blanks ++ text "global" ++ blanks ++ text ":" ++ blanks ++ text "\x7b" ++ blanks ++
  text "headers" ++ blanks ++ text ":" ++ blanks ++ text "\x7b" ++ blanks ++ text "Authorization" ++
  blanks ++ text ":" ++ someOf (.except ['}']) ++ objectEnd ++ objectEnd ++ objectEnd ++ text ")" ++
  statementEnd

def clientStartPattern : Pattern := lineStart ++ clientBinding

/-- The rest of a statement behind its last bracket, up to the end of its line. -/
def statementTailPattern : Pattern :=
  look .textStart ++ margin ++ semicolon ++ margin ++ alt lineBreak (look .textEnd)

/-- The place of a construction and the name it binds. -/
def boundName (p : Pattern) (t : Text) : Option (Span × Text) := do
  let m ← p.find? t
  let name ← m.group? 1
  return (m.span, t.slice name)

def multilineClient : Text → Option (Span × Text) := boundName multilineClientPattern

def serviceKeyClient : Text → Option (Span × Text) := boundName serviceKeyPattern

def requireEnvClient : Text → Option (Span × Text) := boundName requireEnvPattern

def callerClient : Text → Option (Span × Text) := boundName callerClientPattern

/-- The first construction whose arguments are closed and which ends with its line. -/
def wholeLineClient (t : Text) : Option (Span × Text) :=
  (clientStartPattern.findAll t).findSome? fun m => do
    let name ← m.group? 1
    let close ← Bracket.closing t (m.span.stop - 1)
    let (_, rest) ← t.cut close
    let tail ← statementTailPattern.find? rest
    return (⟨m.span.start, close + tail.span.stop⟩, t.slice name)

/-- The constructions, the most special shape first. -/
def clients : List (Recognizer Text) :=
  [⟨"multi-line service role", multilineClient⟩, ⟨"service key variable", serviceKeyClient⟩,
    ⟨"requireEnv", requireEnvClient⟩, ⟨"caller-scoped", callerClient⟩, ⟨"generic", wholeLineClient⟩]

/-- The calls of `createClient` on a line. Imports and comments have none, and its type is no call. -/
def clientCallsOn (line : Text) : Nat :=
  let line := line.trimStart
  if line.startsWith "import ".toList || line.startsWith "//".toList then 0
  else (line.erase "ReturnType<typeof createClient>".toList).count "createClient(".toList

/-- The number of calls of `createClient`. -/
def clientCalls (t : Text) : Nat := (t.lines.map clientCallsOn).foldr (· + ·) 0

end HandlerMigration.Shape
