import AsyncLint.Source.Grammar.Path

/-!
# Generic parameters, bounds and conditions
-/

namespace AsyncLint.Source

open Parse

/-- The bounds of a lifetime. -/
def lifetimeBounds : Parse Unit :=
  node .typeBoundList do
    loop do
      unless (← look).startsLifetime do return false
      node .typeBound lifetime
      eat "+"

/-- One generic parameter. -/
def genericParam (g : Rules) : Parse Unit :=
  isolate do
    g.attrs
    let ts ← look
    if ts.startsLifetime then
      lifetime
      if ← eat ":" then lifetimeBounds
      wrap .lifetimeParam
    else if ts.startsIdent then
      name
      if (← look).starts ":" then g.colonBounds
      if ← eat "=" then
        unless (← look).inTypeFirst do failure
        g.type true
      wrap .typeParam
    else
      expect "const"
      name
      g.ascription
      if ← eat "=" then constArg g
      wrap .constParam

/-- Generic parameters in angle brackets. -/
def genericParamList (g : Rules) : Parse Unit :=
  node .genericParamList (delimited "<" ">" (genericParam g))

/-- Generic parameters, if there are any. -/
def optGenericParamList (g : Rules) : Parse Unit := do
  if (← look).starts "<" then genericParamList g

/-- A binder of lifetimes. -/
def forBinder (g : Rules) : Parse Unit := do
  expect "for"
  genericParamList g

/-- A type behind a binder of lifetimes. -/
def forType (g : Rules) (withBounds : Bool) : Parse Unit :=
  isolate do
    forBinder g
    let ts ← look
    unless ts.startsAny ["fn", "unsafe", "extern"] || ts.startsPlainPath do failure
    g.type false
    wrap .forType
    if withBounds then optMoreBounds g

/-- A bound that names a trait, with its modifiers. Says whether there is one; modifiers alone are none. -/
def traitBound (g : Rules) : Parse Bool := do
  if (← look).starts "~" then
    expect "~"
    expect "const"
  else eat? "const"
  eat? "async"
  eat? "?"
  if (← look).startsPath then
    pathType g false
    return true
  return false

/-- What an anonymous type captures, after the word `use`. -/
def captures : Parse Unit :=
  node .useBoundList do
    delimited "<" ">" do
      let ts ← look
      if ts.startsLifetime then lifetime
      else if ts.starts "Self" then segmentName
      else nameRef

/-- One bound. Says whether there is one. -/
def typeBound (g : Rules) : Parse Bool :=
  isolate do
    let parens ← eat "("
    let ts ← look
    let mut found := true
    if ts.startsLifetime then lifetime
    else if ts.starts "for" then forType g false
    else if ts.starts "use" && ts.startsAt 1 "<" then
      expect "use"
      captures
    else if ts.starts "?" && ts.startsAt 1 "for" then
      expect "?"
      forType g false
    else found := ← traitBound g
    if found then
      if parens then expect ")"
      wrap .typeBound
    return found

/-- Bounds, with plus signs between them. There may be none. -/
def boundsRule (g : Rules) : Parse Unit :=
  loop do
    if ← typeBound g then eat "+" else return false

/-- One condition on types or lifetimes. -/
def wherePred (g : Rules) : Parse Unit :=
  node .wherePred do
    let ts ← look
    if ts.startsLifetime then lifetime
    else
      if ts.starts "for" then forBinder g
      g.type true
    g.colonBounds

/-- Conditions on generic parameters, if there are any. -/
def optWhereClause (g : Rules) : Parse Unit := do
  if (← look).starts "where" then
    node .whereClause do
      expect "where"
      loop do
        let ts ← look
        unless ts.startsLifetime || (ts.inTypeFirst && !ts.starts "impl") do return false
        wherePred g
        let comma ← eat ","
        if (← look).startsAny [openBrace, ";", "="] then return false
        unless comma do failure
        return true

end AsyncLint.Source
