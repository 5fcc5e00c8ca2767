import AsyncLint.Source.Grammar.Basic

/-!
# Attributes and token trees
-/

namespace AsyncLint.Source

open Parse

/-- Tokens in matching brackets, from the opening one on. -/
def tokenTreeRule (g : Rules) : Parse Unit :=
  node .tokenTree do
    let ts ← look
    let some closing :=
      if ts.starts openBrace then some closeBrace
      else if ts.starts "(" then some ")"
      else if ts.starts "[" then some "]"
      else none
      | failure
    bump 1
    loop do
      let ts ← look
      if ts.starts closing then return false
      if ts.startsAny [closeBrace, ")", "]"] then failure
      if ts.startsAny [openBrace, "(", "["] then g.tokenTree else bump 1
      return true
    expect closing

/-- The rest of a macro call from the exclamation mark on. Says whether its brackets are braces. -/
def macroTail (g : Rules) : Parse Bool := do
  expect "!"
  let braces := (← look).starts openBrace
  g.tokenTree
  return braces

/-- What an attribute says: a path, perhaps with a value or with tokens in brackets. -/
def metaRule (g : Rules) : Parse Unit :=
  node .attrMeta do
    let marked ← eat "unsafe"
    if marked then expect "("
    g.path .plain
    let ts ← look
    if ts.starts "=" then
      expect "="
      g.anyExpr
    else if ts.startsAny ["(", "[", openBrace] then g.tokenTree
    if marked then expect ")"

/-- Attributes of what follows. -/
def outerAttrsRule (g : Rules) : Parse Unit :=
  loop do
    unless (← look).starts "#" do return false
    node .attr do
      expect "#"
      expect "["
      metaRule g
      expect "]"
    return true

/-- Attributes of what they stand in. -/
def innerAttrs (g : Rules) : Parse Unit :=
  loop do
    let ts ← look
    unless ts.starts "#" && ts.startsAt 1 "!" do return false
    node .attr do
      expect "#"
      expect "!"
      expect "["
      metaRule g
      expect "]"
    return true

end AsyncLint.Source
