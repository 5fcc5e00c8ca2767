import AsyncLint.Source.Grammar.Generic

/-!
# Types
-/

namespace AsyncLint.Source

open Parse

/-- The calling convention of a function. -/
def abi : Parse Unit :=
  node .abi do
    expect "extern"
    if (← look).kind? == some .string then bump 1

/-- A type in parentheses or a tuple of types. -/
def parenOrTupleType (g : Rules) : Parse Unit :=
  isolate do
    expect "("
    loop do
      if (← look).starts ")" then return false
      g.type true
      eat ","
    let single := (← get).built.length == 2
    expect ")"
    wrap (if single then .parenType else .tupleType)

/-- An array or slice. -/
def arrayOrSliceType (g : Rules) : Parse Unit :=
  isolate do
    expect "["
    g.type true
    if ← eat ";" then
      node .constArg g.anyExpr
      expect "]"
      wrap .arrayType
    else
      expect "]"
      wrap .sliceType

/-- The parameters of a function pointer. Names are optional. -/
def fnPtrParams (g : Rules) : Parse Unit :=
  node .paramList do
    expect "("
    loop do
      if (← look).starts ")" then return false
      node .param do
        g.attrs
        let ts ← look
        unless ts.inPatternFirst || ts.inTypeFirst do failure
        if ts.starts "..." then expect "..."
        else if (ts.startsIdent || ts.starts "_") && ts.startsAt 1 ":" && !ts.startsAt 1 "::" then
          g.patternSingle
          if (← look).startsAt 1 "..." then
            expect ":"
            expect "..."
          else g.ascription
        else g.type true
      eat ","
    expect ")"

/-- A function pointer. -/
def fnPtrType (g : Rules) : Parse Unit :=
  node .fnPtrType do
    eat? "unsafe"
    if (← look).starts "extern" then abi
    expect "fn"
    fnPtrParams g
    let _ ← g.optRetType

/-- A path as a type, or a macro call in place of a type. -/
def pathOrMacroType (g : Rules) (withBounds : Bool) : Parse Unit :=
  isolate do
    g.path .type
    let ts ← look
    if ts.starts "!" && !ts.starts "!=" then
      let _ ← macroTail g
      wrap .macroCall
      wrap .macroType
    else wrap .pathType
    if withBounds then optMoreBounds g

/-- A type, with or without bounds after a plus sign. -/
def typeRule (g : Rules) (withBounds : Bool) : Parse Unit := do
  let ts ← look
  if ts.starts "(" then parenOrTupleType g
  else if ts.starts "!" then node .neverType (expect "!")
  else if ts.starts "*" then
    node .ptrType do
      expect "*"
      unless ← eat "mut" do expect "const"
      g.type false
  else if ts.starts "[" then arrayOrSliceType g
  else if ts.starts "&" then
    node .refType do
      expect "&"
      if (← look).startsLifetime then lifetime
      eat? "mut"
      g.type false
  else if ts.starts "_" then node .inferType (expect "_")
  else if ts.startsAny ["fn", "unsafe", "extern"] then fnPtrType g
  else if ts.starts "for" then forType g withBounds
  else if ts.starts "impl" then
    node .implTraitType do
      expect "impl"
      g.boundList
  else if ts.starts "dyn" then
    node .dynTraitType do
      expect "dyn"
      g.boundList
  else if ts.starts "<" then pathType g withBounds
  else if ts.startsPath then pathOrMacroType g withBounds
  else if ts.startsLifetime && ts.startsAt 1 "+" then node .dynTraitType g.boundList
  else failure

end AsyncLint.Source
