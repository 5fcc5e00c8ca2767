import AsyncLint.Source.Grammar.Attribute

/-!
# Paths and generic arguments
-/

namespace AsyncLint.Source

open Parse

/-- The parameters of a function trait: types in parentheses. -/
def fnTraitParams (g : Rules) : Parse Unit :=
  node .paramList do
    expect "("
    loop do
      if (← look).starts ")" then return false
      node .param do
        g.attrs
        let ts ← look
        unless ts.inPatternFirst || ts.inTypeFirst do failure
        g.type true
      eat ","
    expect ")"

/-- Arguments of a path segment in a type: generic ones, or parameters and a return type. -/
def optTypeSegmentArgs (g : Rules) : Parse Unit := do
  let ts ← look
  let colons := ts.starts "::"
  let after : Lexemes := if colons then ts.drop 2 else ts
  if after.starts "<" && (colons || !ts.startsAt 1 "=") then g.optArgs false
  else if after.starts "(" then
    isolate do
      if colons then expect "::"
      if (← look).startsAt 1 ".." then
        expect "("
        expect ".."
        expect ")"
        wrap .returnTypeArg
      else
        fnTraitParams g
        let _ ← g.optRetType
        wrap .parenArgList

/-- Turns the type just read into the first of several bounds, if a plus sign follows. -/
def optMoreBounds (g : Rules) : Parse Unit := do
  if (← look).starts "+" then
    wrap .typeBound
    expect "+"
    g.bounds
    wrap .typeBoundList
    wrap .dynTraitType

/-- A path as a type. -/
def pathType (g : Rules) (withBounds : Bool) : Parse Unit :=
  isolate do
    g.path .type
    wrap .pathType
    if withBounds then optMoreBounds g

/-- One segment of a path. The first one can be a type in angle brackets. -/
def pathSegment (g : Rules) (mode : PathMode) (first : Bool) : Parse Unit :=
  node .pathSegment do
    if first && (← look).starts "<" then
      expect "<"
      g.type true
      if ← eat "as" then
        unless (← look).startsPlainPath do failure
        pathType g true
      expect ">"
      unless (← look).starts "::" do failure
    else
      if first then eat? "::"
      segmentName
      match mode with
      | .plain | .imported => pure ()
      | .type => optTypeSegmentArgs g
      | .expr => g.optArgs true

/-- Further segments of a path whose first part has just been read, each behind a double colon. -/
def morePath (g : Rules) (mode : PathMode) : Parse Unit :=
  loop do
    let ts ← look
    let ends := mode == .imported && (ts.startsAt 2 "*" || ts.startsAt 2 openBrace)
    unless ts.starts "::" && !ends do return false
    expect "::"
    pathSegment g mode false
    wrap .path
    return true

/-- A path. The parts before its last segment are a path of their own. -/
def pathRule (g : Rules) (mode : PathMode) : Parse Unit :=
  isolate do
    pathSegment g mode true
    wrap .path
    morePath g mode

/-- An expression that can be a generic argument or the default of a constant parameter. -/
def constArg (g : Rules) : Parse Unit :=
  node .constArg do
    let ts ← look
    if ts.starts openBrace then g.block
    else if ts.startsLiteral then literal
    else if ts.starts "-" then
      node .prefixExpr do
        expect "-"
        literal
    else node .pathExpr (g.path .imported)

/-- A generic argument that starts with a name: a value or bounds for an associated item, or a type. -/
def namedArg (g : Rules) : Parse Unit :=
  isolate do
    nameRef
    g.optArgs false
    let ts ← look
    if ts.starts "=" then
      expect "="
      if (← look).inTypeFirst then g.type true else constArg g
      wrap .assocTypeArg
    else if ts.starts ":" && !ts.starts "::" then
      g.colonBounds
      wrap .assocTypeArg
    else
      wrap .pathSegment
      wrap .path
      morePath g .type
      wrap .pathType
      optMoreBounds g
      wrap .typeArg

/-- One generic argument. -/
def genericArg (g : Rules) : Parse Unit := do
  let ts ← look
  if ts.startsLifetime && !ts.startsAt 1 "+" then node .lifetimeArg lifetime
  else if ts.startsLiteral || ts.startsAny [openBrace, "-"] then constArg g
  else if ts.startsIdent && ts.startsAt 1 "(" && ts.startsAt 2 ".." then
    node .assocTypeArg do
      nameRef
      node .returnTypeArg do
        expect "("
        expect ".."
        expect ")"
      g.colonBounds
  else if ts.startsIdent && (ts.startsAt 1 "<" || ts.startsAt 1 "=" || ts.startsAt 1 ":") && !ts.startsAt 1 "::" then
    namedArg g
  else if ts.inTypeFirst then node .typeArg (g.type true)
  else failure

/-- Generic arguments in angle brackets, if there are any. -/
def optArgsRule (g : Rules) (colonsRequired : Bool) : Parse Unit := do
  let ts ← look
  if ts.starts "::" && ts.startsAt 2 "<" then
    node .genericArgList do
      expect "::"
      delimited "<" ">" (genericArg g)
  else if !colonsRequired && ts.starts "<" && !ts.startsAt 1 "=" then
    node .genericArgList (delimited "<" ">" (genericArg g))

end AsyncLint.Source
