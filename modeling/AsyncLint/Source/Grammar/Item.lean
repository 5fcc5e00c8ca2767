import AsyncLint.Source.Grammar.Expr

/-!
# Items
-/

namespace AsyncLint.Source

open Parse

/-! ## Visibility -/

/-- How far an item can be seen, if it is said. In a tuple field, parentheses can also start a type. Says whether it is
said. -/
def optVisibility (g : Rules) (inTupleField : Bool) : Parse Bool := do
  unless (← look).starts "pub" do return false
  node .visibility do
    expect "pub"
    let ts ← look
    if ts.starts "(" then
      if ts.startsAt 1 "in" then
        expect "("
        expect "in"
        g.path .plain
        expect ")"
      else
        let word := ts.startsAt 1 "crate" || ts.startsAt 1 "self" || ts.startsAt 1 "super"
        let other := ts.identAt 1 || ts.startsAt 1 ")"
        if !ts.startsAt 2 ":" && (word || (other && !inTupleField)) then
          expect "("
          g.path .plain
          expect ")"
  return true

/-! ## Parameters -/

/-- Whether the receiver of a method comes next. -/
def startsSelfParam (ts : Lexemes) : Bool :=
  let lifetimeAt1 := Lexemes.startsLifetime (ts.drop 1)
  ts.starts "self" || (ts.starts "mut" && ts.startsAt 1 "self") ||
    (ts.starts "&" &&
      (ts.startsAt 1 "self" || ((ts.startsAt 1 "mut" || lifetimeAt1) && ts.startsAt 2 "self") ||
        (lifetimeAt1 && ts.startsAt 2 "mut" && ts.startsAt 3 "self")))

/-- The receiver of a method. -/
def selfParamTail (g : Rules) : Parse Unit := do
  if ← eat "&" then
    if (← look).startsLifetime then lifetime
    eat? "mut"
    selfName
  else
    eat? "mut"
    selfName
    if (← look).starts ":" then g.ascription
  wrap .selfParam

/-- A parameter of a function after its attributes. -/
def fnParamTail (g : Rules) : Parse Unit := do
  let ts ← look
  unless ts.inPatternFirst || ts.inTypeFirst do failure
  unless ← eat "..." do
    g.pattern
    let ts ← look
    if ts.starts ":" && ts.startsAt 1 "..." then
      expect ":"
      expect "..."
    else g.ascription
  wrap .param

/-- The parameters of a function. -/
def fnParams (g : Rules) : Parse Unit :=
  node .paramList do
    expect "("
    let start := (← look).length
    loop do
      let first := (← look).length == start
      if (← look).starts ")" && !first then return false
      isolate do
        g.attrs
        let ts ← look
        if first && startsSelfParam ts then selfParamTail g
        else unless first && ts.starts ")" do fnParamTail g
      eat ","
    expect ")"

/-! ## Functions, constants, aliases -/

/-- A function, from `fn` on. -/
def fnTail (g : Rules) : Parse Unit := do
  expect "fn"
  name
  optGenericParamList g
  fnParams g
  let _ ← g.optRetType
  optWhereClause g
  unless ← eat ";" do g.block
  wrap .fn

/-- A constant, from `const` on. -/
def constTail (g : Rules) : Parse Unit := do
  expect "const"
  eat? "mut"
  unless ← eat "_" do name
  optGenericParamList g
  g.ascription
  if ← eat "=" then g.anyExpr
  optWhereClause g
  expect ";"
  wrap .const

/-- A static variable, from `static` on. -/
def staticTail (g : Rules) : Parse Unit := do
  expect "static"
  eat? "mut"
  name
  g.ascription
  if ← eat "=" then g.anyExpr
  expect ";"
  wrap .static

/-- A type alias, from `type` on. -/
def typeAliasTail (g : Rules) : Parse Unit := do
  expect "type"
  name
  optGenericParamList g
  if (← look).starts ":" then g.colonBounds
  optWhereClause g
  if ← eat "=" then g.type true
  optWhereClause g
  expect ";"
  wrap .typeAlias

/-! ## Data types -/

/-- Named fields. -/
def recordFieldList (g : Rules) : Parse Unit :=
  node .recordFieldList do
    expect openBrace
    listUntil closeBrace do
      node .recordField do
        g.attrs
        let _ ← optVisibility g false
        eat? "unsafe"
        name
        g.ascription
        if ← eat "=" then g.anyExpr

/-- Fields without names. -/
def tupleFieldList (g : Rules) : Parse Unit :=
  node .tupleFieldList do
    delimited "(" ")" do
      node .tupleField do
        g.attrs
        let _ ← optVisibility g true
        unless (← look).inTypeFirst do failure
        g.type true

/-- A record type, from its name on. -/
def structTail (g : Rules) (isStruct : Bool) : Parse Unit := do
  name
  optGenericParamList g
  let ts ← look
  if ts.starts "where" then
    optWhereClause g
    unless ← eat ";" do recordFieldList g
  else if isStruct && ts.starts ";" then expect ";"
  else if isStruct && ts.starts "(" then
    tupleFieldList g
    optWhereClause g
    expect ";"
  else recordFieldList g
  wrap (if isStruct then .struct else .union)

/-- One variant of an enumeration. -/
def variant (g : Rules) : Parse Unit :=
  node .variant do
    g.attrs
    name
    let ts ← look
    if ts.starts openBrace then recordFieldList g
    else if ts.starts "(" then tupleFieldList g
    if ← eat "=" then g.anyExpr

/-- An enumeration, from `enum` on. -/
def enumTail (g : Rules) : Parse Unit := do
  expect "enum"
  name
  optGenericParamList g
  optWhereClause g
  node .variantList do
    expect openBrace
    listUntil closeBrace (variant g)
  wrap .enum

/-! ## Imports -/

/-- Another name for what is imported, if there is one. -/
def optRename : Parse Unit := do
  if (← look).starts "as" then
    node .rename do
      expect "as"
      unless ← eat "_" do name

/-- Several trees of an import. -/
def useTreeList (g : Rules) : Parse Unit :=
  node .useTreeList do
    expect openBrace
    listUntil closeBrace g.useTree

/-- One tree of an import. -/
def useTreeRule (g : Rules) : Parse Unit :=
  node .useTree do
    let ts ← look
    if ts.starts "*" then expect "*"
    else if ts.starts openBrace then useTreeList g
    else if ts.starts "::" && (ts.startsAt 2 "*" || ts.startsAt 2 openBrace) then
      expect "::"
      unless ← eat "*" do useTreeList g
    else
      unless ts.startsPlainPath do failure
      g.path .imported
      let ts ← look
      if ts.starts "as" then optRename
      else if ts.starts "::" then
        expect "::"
        unless ← eat "*" do useTreeList g

/-! ## Blocks of items -/

/-- An item, or a macro call in place of items. A semicolon does not end an item a second time. -/
def itemOrMacro (g : Rules) (inExtern : Bool) : Parse Unit :=
  isolate do
    g.attrs
    if ← g.item inExtern then
      if (← look).starts ";" then failure
    else
      unless (← look).startsPlainPath do failure
      g.path .imported
      let braces ← macroTail g
      unless braces do expect ";"
      wrap .macroCall

/-- Inner attributes, then items up to the end or up to a closing brace. -/
def modContents (g : Rules) : Parse Unit := do
  innerAttrs g
  loop do
    let ts ← look
    if ts.isEmpty || ts.starts closeBrace then return false
    itemOrMacro g true
    return true

/-- Items of a module or of foreign code. -/
def itemList (g : Rules) (kind : NodeKind) : Parse Unit :=
  node kind do
    expect openBrace
    modContents g
    expect closeBrace

/-- Items of a trait or of an implementation. -/
def assocItemList (g : Rules) : Parse Unit :=
  node .assocItemList do
    expect openBrace
    innerAttrs g
    loop do
      if (← look).starts closeBrace then return false
      itemOrMacro g false
      return true
    expect closeBrace

/-- A module, from `mod` on. -/
def modTail (g : Rules) : Parse Unit := do
  expect "mod"
  name
  if (← look).starts openBrace then itemList g .itemList else expect ";"
  wrap .module

/-- A trait or an alias of traits, from `trait` on. -/
def traitTail (g : Rules) : Parse Unit := do
  expect "trait"
  name
  optGenericParamList g
  if ← eat "=" then
    g.boundList
    optWhereClause g
    expect ";"
    wrap .traitAlias
  else
    if (← look).starts ":" then g.colonBounds
    optWhereClause g
    assocItemList g
    wrap .trait

/-- Whether an angle bracket after `impl` starts parameters. It could also start a type in angle brackets. -/
def startsImplParams (ts : Lexemes) : Bool :=
  let named := Lexemes.startsLifetime (ts.drop 1) || ts.identAt 1
  let follows := ts.startsAt 2 ">" || ts.startsAt 2 "," || ts.startsAt 2 ":" || ts.startsAt 2 "="
  ts.starts "<" && (ts.startsAt 1 "#" || ts.startsAt 1 ">" || ts.startsAt 1 "const" || (named && follows))

/-- What is implemented, or what it is implemented for. -/
def implType (g : Rules) : Parse Unit := do
  if (← look).starts "impl" then failure
  g.type true

/-- An implementation, from `impl` on. -/
def implTail (g : Rules) : Parse Unit := do
  expect "impl"
  if startsImplParams (← look) then optGenericParamList g
  eat? "const"
  eat? "!"
  implType g
  if ← eat "for" then implType g
  optWhereClause g
  assocItemList g
  wrap .impl

/-! ## Macros -/

/-- A set of macro rules, from its first word on. -/
def macroRulesTail (g : Rules) : Parse Unit := do
  bump 1
  expect "!"
  name
  let braces := (← look).starts openBrace
  g.tokenTree
  unless braces do expect ";"
  wrap .macroRules

/-- A macro definition, from its keyword on. -/
def macroDefTail (g : Rules) : Parse Unit := do
  expect "macro"
  name
  if (← look).starts openBrace then g.tokenTree
  else
    node .tokenTree do
      unless (← look).starts "(" do failure
      g.tokenTree
      g.tokenTree
  wrap .macroDef

/-! ## Items of any kind -/

/-- An item that has no modifiers, if there is one. -/
def plainItem (g : Rules) : Parse Bool := do
  let ts ← look
  let named := ts.identAt 1 || ts.startsAt 1 "_" || ts.startsAt 1 "mut"
  if ts.starts "extern" && ts.startsAt 1 "crate" then
    expect "extern"
    expect "crate"
    if (← look).starts "self" then segmentName else nameRef
    optRename
    expect ";"
    wrap .externCrate
    return true
  else if ts.starts "use" then
    expect "use"
    g.useTree
    expect ";"
    wrap .use
    return true
  else if ts.starts "mod" then
    modTail g
    return true
  else if ts.starts "type" then
    typeAliasTail g
    return true
  else if ts.starts "struct" then
    expect "struct"
    structTail g true
    return true
  else if ts.starts "enum" then
    enumTail g
    return true
  else if ts.wordAt 0 "union" && ts.identAt 1 then
    bump 1
    structTail g false
    return true
  else if ts.starts "macro" then
    macroDefTail g
    return true
  else if ts.wordAt 0 "macro_rules" && ts.startsAt 1 "!" && ts.identAt 2 then
    macroRulesTail g
    return true
  else if ts.starts "const" && named then
    constTail g
    return true
  else if ts.starts "static" && named then
    staticTail g
    return true
  else return false

/-- The modifier `default` with those that can stand right after it, if it is one here. -/
def optDefault : Parse Unit := do
  let ts ← look
  if ts.wordAt 0 "default" then
    if ts.startsAt 1 "fn" || ts.startsAt 1 "type" || ts.startsAt 1 "const" || ts.startsAt 1 "impl" then bump 1
    else if ts.startsAt 1 "unsafe" && (ts.startsAt 2 "impl" || ts.startsAt 2 "fn") then
      bump 1
      expect "unsafe"
    else if ts.startsAt 1 "async" && (ts.startsAt 2 "fn" || (ts.startsAt 2 "unsafe" && ts.startsAt 3 "fn")) then
      bump 1
      expect "async"
      eat? "unsafe"

/-- The modifiers of an item, in their order. Says whether a calling convention is among them. -/
def modifiers (inExtern : Bool) : Parse Bool := do
  let ts ← look
  if ts.starts "const" && !ts.startsAt 1 openBrace then expect "const"
  let ts ← look
  if ts.starts "async" && !(ts.startsAt 1 openBrace || ts.startsAt 1 "move" || ts.startsAt 1 "|") then expect "async"
  let ts ← look
  if ts.starts "unsafe" && !ts.startsAt 1 openBrace then expect "unsafe"
  if inExtern && (← look).wordAt 0 "safe" then bump 1
  let foreign := (← look).starts "extern"
  if foreign then abi
  let ts ← look
  if ts.wordAt 0 "auto" && ts.startsAt 1 "trait" then bump 1
  optDefault
  return foreign

/-- The rest of an item after its attributes, which are in the open node. Says whether there is one. Visibility and
modifiers have to lead to an item. -/
def itemRule (g : Rules) (inExtern : Bool) : Parse Bool := do
  let start := (← look).length
  let _ ← optVisibility g false
  if ← plainItem g then return true
  let foreign ← modifiers inExtern
  let ts ← look
  if ts.starts "fn" then
    fnTail g
    return true
  else if ts.starts "const" && !ts.startsAt 1 openBrace then
    constTail g
    return true
  else if ts.starts "static" && (ts.identAt 1 || ts.startsAt 1 "_" || ts.startsAt 1 "mut") then
    staticTail g
    return true
  else if ts.starts "trait" then
    traitTail g
    return true
  else if ts.starts "impl" then
    implTail g
    return true
  else if ts.starts "type" then
    typeAliasTail g
    return true
  else if foreign && ts.starts openBrace then
    itemList g .externItemList
    wrap .externBlock
    return true
  else if ts.length < start then failure
  else return false

/-- A whole source. -/
def fileRule (g : Rules) : Parse Unit := do
  if (← look).kind? == some .shebang then bump 1
  modContents g
  unless (← look).isEmpty do failure

end AsyncLint.Source
