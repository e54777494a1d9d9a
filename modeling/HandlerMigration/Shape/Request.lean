import HandlerMigration.Bracket
import HandlerMigration.Handler.Canonical
import HandlerMigration.Shape.Basic

/-!
# What a handler does with a request

Lines that read the origin, blocks that answer a preflight request, and statements that take the
user from the body.
-/

namespace HandlerMigration.Shape

open Pattern Piece

/-! ### The origin -/

/-- The word `origin` in any case. -/
def originWord : Pattern :=
  one (.chars ['o', 'O']) ++ one (.chars ['r', 'R']) ++ one (.chars ['i', 'I']) ++
  one (.chars ['g', 'G']) ++ one (.chars ['i', 'I']) ++ one (.chars ['n', 'N'])

/-- A line that reads the origin; the group is its statement. -/
def originPattern : Pattern :=
  lineStart ++
  group 1 (text "const" ++ someBlanks ++ text "origin" ++ blanks ++ text "=" ++ blanks ++
    text "req.headers.get(" ++ blanks ++
    alt (text "'" ++ originWord ++ text "'") (text "\"" ++ originWord ++ text "\"") ++ blanks ++
    text ")" ++ margin ++ semicolon) ++
  margin ++ lineEnd

structure OriginLine where
  /-- The line with its line break. -/
  line : Span
  statement : Span
deriving DecidableEq, Repr

def OriginLine.isCanonical (o : OriginLine) (t : Text) : Bool :=
  t.slice o.statement == Canonical.originStatement.toList

def originLines (t : Text) : List OriginLine :=
  (originPattern.findAll t).filterMap fun m => (m.group? 1).map fun statement => ⟨m.span, statement⟩

/-! ### Preflight requests -/

/-- The test for a preflight request with the brace that opens its block. -/
def optionsPattern : Pattern :=
  text "if" ++ blanks ++ text "(" ++ blanks ++ opt (identifier ++ text ".") ++ text "method" ++ blanks ++
  text "==" ++ opt (text "=") ++ blanks ++ alt (text "'OPTIONS'") (text "\"OPTIONS\"") ++ blanks ++
  text ")" ++ blanks ++ text "\x7b"

/-- A block that does nothing but call the shared helper. -/
def delegationPattern : Pattern :=
  optionsPattern ++ blanks ++ text "return" ++ someBlanks ++ text "handleCorsPreflightRequest(" ++
  blanks ++ text "origin" ++ blanks ++ text ")" ++ blanks ++ semicolon ++ blanks ++ text "\x7d"

def newResponsePattern : Pattern :=
  text "return" ++ someBlanks ++ text "new" ++ someBlanks ++ text "Response" ++ blanks ++ text "("

def namesHeadersPattern : Pattern := wordBoundary ++ text "corsHeaders" ++ wordBoundary

def returnPattern : Pattern := wordBoundary ++ text "return" ++ wordBoundary

/-- A test for a preflight request. -/
structure OptionsGuard where
  start : Nat
  /-- The offset of the opening brace. -/
  brace : Nat
  /-- The offset behind the closing brace, if the block is closed. -/
  stop : Option Nat
deriving DecidableEq, Repr

namespace OptionsGuard

def block? (g : OptionsGuard) : Option Span := g.stop.map fun stop => ⟨g.start, stop⟩

/-- The text between the braces. -/
def body? (g : OptionsGuard) (t : Text) : Option Text :=
  g.stop.map fun stop => t.slice ⟨g.brace + 1, stop - 1⟩

end OptionsGuard

def optionsGuards (t : Text) : List OptionsGuard :=
  (optionsPattern.findAll t).map fun m =>
    ⟨m.span.start, m.span.stop - 1, Bracket.closing t (m.span.stop - 1)⟩

/-- The block of the first closed guard whose body satisfies a condition. -/
def guardWhere (condition : Text → Bool) (t : Text) : Option (Span × Unit) :=
  (optionsGuards t).findSome? fun g => do
    let body ← g.body? t
    let block ← g.block?
    if condition body then some (block, ()) else none

/-- A block that returns a response made from the local table of headers. -/
def rawResponseGuard : Text → Option (Span × Unit) :=
  guardWhere fun body => newResponsePattern.occursIn body && namesHeadersPattern.occursIn body

/-- A block that returns something. -/
def returningGuard : Text → Option (Span × Unit) := guardWhere returnPattern.occursIn

def anyGuard : Text → Option (Span × Unit) := guardWhere fun _ => true

def delegation : Text → Option (Span × Unit) := delegationPattern.place

/-- The blocks that answer a preflight request by themselves. -/
def inlineHandlers : List (Recognizer Unit) :=
  [⟨"corsHeaders response", rawResponseGuard⟩, ⟨"generic", returningGuard⟩]

/-- The blocks behind which the work on a request begins. -/
def preflightBlocks : List (Recognizer Unit) :=
  [⟨"preflight delegation", delegation⟩, ⟨"OPTIONS guard", anyGuard⟩]

/-! ### The user -/

/-- Names between braces, with `user_id` among them, on the left of an equals sign. -/
def userIdNames : Pattern :=
  text "const" ++ blanks ++ text "\x7b" ++ manyOf (.except ['}']) ++ wordBoundary ++ text "user_id" ++
  wordBoundary ++ manyOf (.except ['}']) ++ text "\x7d" ++ blanks ++ text "=" ++ blanks

def parsedBodyPattern : Pattern :=
  userIdNames ++ text "await" ++ someBlanks ++ text "req.json()" ++ manyOf (.except [';', '\n']) ++
  text ";"

def typedBodyPattern : Pattern :=
  userIdNames ++ text "body" ++ someBlanks ++ text "as" ++ one .blank ++ someOf (.except [';']) ++
  text ";"

/-- The statements that bring `user_id` into scope. -/
def userIdStatements : List (Recognizer Unit) :=
  [⟨"await req.json()", parsedBodyPattern.place⟩, ⟨"typed body", typedBodyPattern.place⟩]

end HandlerMigration.Shape
