import HandlerMigration.Shape.Basic

/-!
# What a handler answers

The headers of responses, and catch blocks with the guard that hands a thrown response on.
-/

namespace HandlerMigration.Shape

open Pattern Piece

/-! ### Headers of a response -/

/-- How a response gets its headers. -/
inductive HeaderShape where
  /-- The local table. -/
  | bare
  /-- A content type of JSON and nothing else. -/
  | jsonOnly
  /-- The local table in front of a content type of JSON. -/
  | spreadFirst
  /-- The local table behind a content type of JSON. -/
  | spreadLast
  /-- The local table as the last argument of a call. -/
  | trailingArgument
deriving DecidableEq, Repr

namespace HeaderShape

def all : List HeaderShape := [bare, jsonOnly, spreadFirst, spreadLast, trailingArgument]

/-- The content type of JSON. -/
def jsonType : Pattern :=
  quoted "Content-Type" ++ blanks ++ text ":" ++ blanks ++ quoted "application/json"

def pattern : HeaderShape → Pattern
  | bare => text "headers:" ++ blanks ++ text "corsHeaders" ++ wordBoundary
  | jsonOnly =>
    text "headers:" ++ blanks ++ text "\x7b" ++ blanks ++ jsonType ++ blanks ++ comma ++ blanks ++
    text "\x7d"
  | spreadFirst =>
    text "\x7b" ++ blanks ++ text "...corsHeaders" ++ blanks ++ text "," ++ blanks ++ jsonType ++
    blanks ++ comma ++ blanks ++ text "\x7d"
  | spreadLast =>
    text "\x7b" ++ blanks ++ jsonType ++ blanks ++ text "," ++ blanks ++ text "...corsHeaders" ++
    blanks ++ comma ++ blanks ++ text "\x7d"
  | trailingArgument => text "," ++ blanks ++ text "corsHeaders" ++ blanks ++ text ")"

end HeaderShape

/-- A place at which a response gets its headers. -/
structure HeaderSite where
  shape : HeaderShape
  span : Span
deriving DecidableEq, Repr

/-- Keeps of each group of sites that overlap the first. -/
def dropOverlaps (stop : Nat) : List HeaderSite → List HeaderSite
  | [] => []
  | site :: sites =>
    if stop ≤ site.span.start then site :: dropOverlaps site.span.stop sites
    else dropOverlaps stop sites

/-- The sites by position; of two that overlap the earlier one. -/
def headerSites (t : Text) : List HeaderSite :=
  let sites := HeaderShape.all.flatMap fun shape =>
    (shape.pattern.findAll t).map fun m => ⟨shape, m.span⟩
  dropOverlaps 0 (sites.mergeSort fun a b => a.span.start ≤ b.span.start)

/-! ### Catch blocks -/

/-- The head of a catch block that ends its line; the groups are the binding and the brace. -/
def catchPattern : Pattern :=
  text "\x7d" ++ blanks ++ text "catch" ++ blanks ++ text "(" ++ blanks ++ group 1 identifier ++ blanks ++
  opt (text ":" ++ manyOf (.except [')'])) ++ text ")" ++ blanks ++ group 2 (text "\x7b") ++ margin ++
  lineBreak

def guardPattern : Pattern :=
  text "instanceof" ++ someBlanks ++ text "Response" ++ blanks ++ text ")" ++ blanks ++
  text "return" ++ wordBoundary

structure CatchBlock where
  /-- The offset of the first line of the body. -/
  bodyStart : Nat
  /-- The offset of the opening brace. -/
  brace : Nat
  binding : Text
deriving DecidableEq, Repr

def catchBlocks (t : Text) : List CatchBlock :=
  (catchPattern.findAll t).filterMap fun m => do
    let binding ← m.group? 1
    let brace ← m.group? 2
    return ⟨m.span.stop, brace.start, t.slice binding⟩

/-- The first guard that returns a caught response. -/
def responseGuard? (t : Text) : Option Span := (guardPattern.find? t).map (·.span)

end HandlerMigration.Shape
