import AsyncLint.Source.Shape

/-!
# Reading tokens by rules

A rule of the grammar reads lexemes, the tokens other than blanks and comments, and builds shapes. It fails at the
first lexeme that does not fit: there is no recovery, since a source with an error has no tree.

Rules refer to each other in circles. A rule therefore takes the rules below it as an argument, and the circle is
closed at the end by a depth that no source of a given length can exceed.
-/

namespace AsyncLint.Source

/-- The sign at the start of a block. -/
abbrev openBrace : String := "\x7b"

/-- The sign at the end of a block. -/
abbrev closeBrace : String := "\x7d"

/-- A token that means something to the grammar. -/
structure Lexeme where
  kind : TokenKind
  text : String
  /-- Whether the next token follows directly. -/
  joint : Bool
  /-- Whether it has a carriage return between its quotes that should be escaped. -/
  bareReturn : Bool
deriving Repr

/-- The tokens of a source without blanks and comments. -/
def lexemesOf : List Token → List Lexeme
  | [] => []
  | t :: rest =>
    if t.kind.isTrivia then lexemesOf rest
    else
      { kind := t.kind, text := t.text, joint := rest.head?.any (!·.kind.isTrivia), bareReturn := t.bareReturn } ::
        lexemesOf rest

/-- What is still to be read. -/
abbrev Lexemes := List Lexeme

namespace Lexemes

/-- Whether the sign `cs` comes next: its characters as one token each, without gaps. -/
def startsSign : List Char → Lexemes → Bool
  | [c], t :: _ => t.kind == .punct && t.text == c.toString
  | c :: cs, t :: ts => t.kind == .punct && t.text == c.toString && t.joint && startsSign cs ts
  | [], _ | _, [] => false

/-- Whether the keyword or sign `text` comes next. A sign also counts as the start of a longer one. -/
def starts (ts : Lexemes) (text : String) : Bool :=
  match ts with
  | [] => false
  | t :: _ =>
    match t.kind with
    | .punct => startsSign text.toList ts
    | .keyword | .underscore => t.text == text
    | _ => false

/-- Whether the keyword or sign `text` comes after `n` lexemes. -/
def startsAt (ts : Lexemes) (n : Nat) (text : String) : Bool :=
  starts (ts.drop n) text

/-- Whether one of the keywords or signs comes next. -/
def startsAny (ts : Lexemes) (texts : List String) : Bool :=
  texts.any ts.starts

/-- The kind of the next lexeme. -/
def kind? (ts : Lexemes) : Option TokenKind :=
  (ts.head?).map (·.kind)

/-- Whether an identifier comes after `n` lexemes. -/
def identAt (ts : Lexemes) (n : Nat) : Bool :=
  kind? (ts.drop n) == some .ident

/-- Whether the identifier `text` comes after `n` lexemes: a word with a meaning in some places only. -/
def wordAt (ts : Lexemes) (n : Nat) (text : String) : Bool :=
  (ts.drop n).head?.any fun t => t.kind == .ident && t.text == text

def startsIdent (ts : Lexemes) : Bool := ts.identAt 0

def startsLifetime (ts : Lexemes) : Bool := ts.kind? == some .lifetime

/-- Whether a literal token comes next. -/
def startsLiteralToken (ts : Lexemes) : Bool :=
  ts.kind?.any (·.isLiteral)

/-- Whether a literal comes next. -/
def startsLiteral (ts : Lexemes) : Bool :=
  ts.startsLiteralToken || ts.startsAny ["true", "false"]

/-- Whether the name of a path segment comes next. -/
def startsSegmentName (ts : Lexemes) : Bool :=
  ts.startsIdent || ts.startsAny ["self", "super", "crate", "Self"]

/-- Whether a path without types can start here. -/
def startsPlainPath (ts : Lexemes) : Bool :=
  ts.startsIdent || ts.startsAny ["self", "super", "crate", "::"]

/-- Whether a path can start here. -/
def startsPath (ts : Lexemes) : Bool :=
  ts.startsPlainPath || ts.startsAny ["<", "Self"]

/-- Whether the first lexeme is one that a path can start with. -/
def inPathFirst (ts : Lexemes) : Bool :=
  ts.startsSegmentName || ts.startsAny [":", "<"]

/-- Whether the first lexeme is one that a type can start with. -/
def inTypeFirst (ts : Lexemes) : Bool :=
  ts.inPathFirst || ts.startsLifetime ||
    ts.startsAny ["(", "[", "!", "*", "&", "_", "fn", "unsafe", "extern", "for", "impl", "dyn"]

/-- Whether the first lexeme is one that a pattern can start with. -/
def inPatternFirst (ts : Lexemes) : Bool :=
  ts.startsLiteral || ts.inPathFirst || ts.startsAny ["box", "ref", "mut", "const", "(", "[", "&", "_", "-", "."]

/-- Whether the first lexeme is one that an expression can start with. -/
def inExprFirst (ts : Lexemes) : Bool :=
  ts.startsLiteral || ts.inPathFirst || ts.startsLifetime ||
    ts.startsAny ["(", openBrace, "[", "|", "async", "break", "const", "continue", "do", "for", "if", "let", "loop",
      "match", "move", "return", "static", "try", "unsafe", "while", "yield", "become", "&", "*", "!", ".", "-", "_"]

end Lexemes

/-- How far a rule has come. -/
structure Progress where
  rest : Lexemes
  /-- The shapes built for the node that is open, latest first. -/
  built : List Shape := []
  /-- The text of the last lexeme read. -/
  last : String := ""

/-- A rule of the grammar. -/
abbrev Parse := StateT Progress Option

namespace Parse

/-- The lexemes to come. -/
def look : Parse Lexemes :=
  return (← get).rest

/-- Adds a shape to the open node. -/
def emit (s : Shape) : Parse Unit :=
  modify fun p => { p with built := s :: p.built }

/-- Passes `n` lexemes. -/
def skip (n : Nat) : Parse Unit :=
  modify fun p => { p with rest := p.rest.drop n, last := ((p.rest.drop (n - 1)).head?.map (·.text)).getD p.last }

/-- Reads the next `n` lexemes as one token. -/
def bump (n : Nat) : Parse Unit := do
  if (← look).length < n then failure
  skip n
  emit (.tokens n)

/-- Number of lexemes in a keyword or sign. -/
def width (text : String) : Nat :=
  if text.toList.head?.any fun c => c.isAlpha || c == '_' then 1 else text.length

/-- Reads the keyword or sign `text` if it comes next, and says whether it does. -/
def eat (text : String) : Parse Bool := do
  if (← look).starts text then
    bump (width text)
    return true
  return false

/-- Reads the keyword or sign `text`, which may or may not be there. -/
def eat? (text : String) : Parse Unit := do
  let _ ← eat text

/-- Reads the keyword or sign `text`, which has to come next. -/
def expect (text : String) : Parse Unit := do
  unless ← eat text do failure

/-- Builds shapes apart from those of the open node, and adds them to it at the end. -/
def isolate {α : Type} (rule : Parse α) : Parse α := do
  let outer := (← get).built
  modify fun p => { p with built := [] }
  let a ← rule
  modify fun p => { p with built := p.built ++ outer }
  return a

/-- Puts all shapes of the open node into a node of their own. -/
def wrap (kind : NodeKind) : Parse Unit :=
  modify fun p => { p with built := [.node kind p.built.reverse] }

/-- Reads a node. -/
def node (kind : NodeKind) (rule : Parse Unit) : Parse Unit :=
  isolate do
    rule
    wrap kind

/-- Makes the shapes before the latest node of the open node the first children of that node. -/
def absorb : Parse Unit :=
  modify fun p =>
    match p.built with
    | .node kind children :: before => { p with built := [.node kind (before.reverse ++ children)] }
    | _ => p

/-- Repeats `step` at most `n` times, as long as it asks for more. -/
def repeatAtMost (n : Nat) (step : Parse Bool) : Parse Unit :=
  match n with
  | 0 => failure
  | n + 1 => do
    if ← step then repeatAtMost n step

/-- Repeats `step` as long as it asks for more, where each repetition reads something. -/
def loop (step : Parse Bool) : Parse Unit := do
  repeatAtMost ((← look).length + 1) step

/-- Reads elements between `opening` and `closing`, with commas between them and perhaps one at the end. -/
def delimited (opening closing : String) (element : Parse Unit) : Parse Unit := do
  expect opening
  loop do
    if (← look).starts closing then return false
    element
    eat ","
  expect closing

/-- Reads elements up to `closing`, with commas between them and perhaps one at the end. -/
def listUntil (closing : String) (element : Parse Unit) : Parse Unit := do
  loop do
    if (← look).starts closing then return false
    element
    unless (← look).starts closing do expect ","
    return true
  expect closing

/-- Reads an identifier as the name of what is declared. -/
def name : Parse Unit :=
  node .name do
    unless (← look).startsIdent do failure
    bump 1

/-- Reads the word `self` as a name. -/
def selfName : Parse Unit :=
  node .name (expect "self")

/-- Reads an identifier that refers to something. -/
def nameRef : Parse Unit :=
  node .nameRef do
    unless (← look).startsIdent do failure
    bump 1

/-- Reads an identifier, or one of the words that lead along modules, as a reference. -/
def segmentName : Parse Unit :=
  node .nameRef do
    unless (← look).startsSegmentName do failure
    bump 1

/-- Reads a field name: an identifier or an index. -/
def fieldName : Parse Unit :=
  node .nameRef do
    let ts ← look
    unless ts.startsIdent || ts.kind? == some .int do failure
    bump 1

/-- Reads a lifetime. -/
def lifetime : Parse Unit :=
  node .lifetime do
    unless (← look).startsLifetime do failure
    bump 1

/-- Reads a literal. -/
def literal : Parse Unit :=
  node .literal do
    let ts ← look
    unless ts.startsLiteral do failure
    if ts.head?.any (·.bareReturn) then failure
    bump 1

end Parse

/-- Where an expression stands. -/
structure ExprMode where
  /-- A brace after a path does not start a record. -/
  noStruct : Bool := false
  /-- An expression that ends with a block ends the statement. -/
  statement : Bool := false

/-- Where a path stands. It decides which arguments its segments can have. -/
inductive PathMode where
  /-- In an attribute or a visibility: none. -/
  | plain
  /-- In an import: none, and a last star or brace belongs to the import. -/
  | imported
  | type
  /-- In an expression: only after a double colon. -/
  | expr
deriving DecidableEq

/-- The rules that other rules refer to. -/
structure Rules where
  /-- An expression with operators that bind at least as strongly as given. Says whether it ends with a block that
  also ends a statement. -/
  expr : ExprMode → Nat → Parse Bool
  /-- A type, with or without bounds after a plus sign. -/
  type : Bool → Parse Unit
  /-- A pattern, with alternatives. -/
  pattern : Parse Unit
  /-- A pattern without alternatives. -/
  patternSingle : Parse Unit
  path : PathMode → Parse Unit
  /-- Generic arguments in angle brackets, if there are any. Tells whether a double colon has to come first. -/
  optArgs : Bool → Parse Unit
  /-- Bounds, with plus signs between them. -/
  bounds : Parse Unit
  /-- A block in braces. -/
  block : Parse Unit
  stmt : Parse Unit
  /-- A conditional expression. -/
  ifExpr : Parse Unit
  /-- Attributes of what follows. -/
  attrs : Parse Unit
  /-- The rest of an item after its attributes, if there is one. Tells whether items of foreign code are read. -/
  item : Bool → Parse Bool
  /-- One tree of an import. -/
  useTree : Parse Unit
  /-- Tokens in matching brackets. -/
  tokenTree : Parse Unit

namespace Rules

open Parse

/-- An expression of any kind. -/
def anyExpr (g : Rules) : Parse Unit := do
  let _ ← g.expr {} 1

/-- An expression before a block, which a brace after a path starts. -/
def headExpr (g : Rules) : Parse Unit := do
  let _ ← g.expr { noStruct := true } 1

/-- Bounds as a node. -/
def boundList (g : Rules) : Parse Unit :=
  node .typeBoundList g.bounds

/-- Bounds after a colon. -/
def colonBounds (g : Rules) : Parse Unit := do
  expect ":"
  g.boundList

/-- A type after a colon. -/
def ascription (g : Rules) : Parse Unit := do
  expect ":"
  g.type true

/-- The return type of a function, if there is one. Says whether there is. -/
def optRetType (g : Rules) : Parse Bool := do
  if (← look).starts "->" then
    node .retType do
      expect "->"
      g.type false
    return true
  return false

end Rules

end AsyncLint.Source
