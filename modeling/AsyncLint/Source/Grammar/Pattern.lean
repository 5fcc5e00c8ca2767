import AsyncLint.Source.Grammar.Type

/-!
# Patterns
-/

namespace AsyncLint.Source

open Parse

/-- A name that is bound, perhaps to what another pattern matches. -/
def identPat (g : Rules) (withAt : Bool) : Parse Unit :=
  node .identPat do
    eat? "ref"
    eat? "mut"
    name
    if withAt then
      if ← eat "@" then g.patternSingle

/-- A pattern in a box. -/
def boxPat (g : Rules) : Parse Unit :=
  node .boxPat do
    expect "box"
    g.patternSingle

/-- Patterns with commas between them, up to `closing`. -/
def patList (g : Rules) (closing : String) : Parse Unit := do
  loop do
    if (← look).starts closing then return false
    g.pattern
    eat ","
  expect closing

/-- One field of a record pattern. -/
def recordPatField (g : Rules) : Parse Unit := do
  let ts ← look
  if (ts.startsIdent || ts.kind? == some .int) && ts.startsAt 1 ":" then
    fieldName
    expect ":"
    g.pattern
  else if ts.starts "box" then boxPat g
  else identPat g false

/-- The fields of a record pattern. -/
def recordPatFieldList (g : Rules) : Parse Unit :=
  node .recordPatFieldList do
    expect openBrace
    listUntil closeBrace do
      isolate do
        g.attrs
        if (← look).starts ".." then
          expect ".."
          wrap .restPat
        else
          recordPatField g
          wrap .recordPatField

/-- A pattern that starts with a path. -/
def pathPat (g : Rules) : Parse Unit :=
  isolate do
    g.path .expr
    let ts ← look
    if ts.starts "(" then
      expect "("
      patList g ")"
      wrap .tupleStructPat
    else if ts.starts openBrace then
      recordPatFieldList g
      wrap .recordPat
    else if ts.starts "!" then
      let _ ← macroTail g
      wrap .macroCall
      wrap .macroPat
    else wrap .pathPat

/-- A pattern in parentheses or a tuple of patterns. -/
def parenOrTuplePat (g : Rules) : Parse Unit :=
  isolate do
    expect "("
    let rest := (← look).starts ".."
    listUntil ")" do
      let ts ← look
      unless ts.inPatternFirst || ts.starts "|" do failure
      g.pattern
    let single := (← get).built.length == 3
    wrap (if single && !rest then .parenPat else .tuplePat)

/-- A pattern that is no range and has no alternatives. -/
def atomPat (g : Rules) : Parse Unit := do
  let ts ← look
  let negative := ts.starts "-" && (Lexemes.kind? (ts.drop 1) == some .int || Lexemes.kind? (ts.drop 1) == some .float)
  if ts.starts "box" then boxPat g
  else if ts.startsAny ["ref", "mut"] then identPat g true
  else if ts.starts "const" then
    node .constBlockPat do
      expect "const"
      g.block
  else if ts.startsIdent then
    if ts.startsAt 1 "(" || ts.startsAt 1 openBrace || ts.startsAt 1 "!" || ts.startsAt 1 "::" then pathPat g
    else identPat g true
  else if ts.startsPath then pathPat g
  else if negative || ts.startsLiteral then
    node .literalPat do
      eat? "-"
      literal
  else if ts.starts "_" then node .wildcardPat (expect "_")
  else if ts.starts "&" then
    node .refPat do
      expect "&"
      eat? "mut"
      g.patternSingle
  else if ts.starts "(" then parenOrTuplePat g
  else if ts.starts "[" then
    node .slicePat do
      expect "["
      patList g "]"
  else failure

/-- A pattern without alternatives. -/
def patternSingleRule (g : Rules) : Parse Unit :=
  isolate do
    let ts ← look
    if ts.starts "..=" then
      expect "..="
      atomPat g
      wrap .rangePat
    else if ts.starts ".." then
      expect ".."
      let ts ← look
      if ts.startsLiteral || ts.inPathFirst || ts.startsAny ["-", "const"] then
        atomPat g
        wrap .rangePat
      else wrap .restPat
    else
      atomPat g
      let ts ← look
      if let some op := ["...", "..=", ".."].find? ts.starts then
        expect op
        let ts ← look
        unless ts.isEmpty || ts.startsAny ["=", ",", ":", ")", closeBrace, "]", "if"] do atomPat g
        wrap .rangePat

/-- A pattern, with alternatives. -/
def patternRule (g : Rules) : Parse Unit :=
  isolate do
    let leading ← eat "|"
    g.patternSingle
    if leading || (← look).starts "|" then
      loop do
        unless ← eat "|" do return false
        g.patternSingle
        return true
      wrap .orPat

end AsyncLint.Source
