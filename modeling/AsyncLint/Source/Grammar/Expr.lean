import AsyncLint.Source.Grammar.Pattern

/-!
# Expressions and statements

Built-in expressions, which start with `builtin #`, are not read: a source with one of them has no tree.
-/

namespace AsyncLint.Source

open Parse

/-! ## Parts of expressions -/

/-- The arguments of a call. -/
def argList (g : Rules) : Parse Unit :=
  node .argList (delimited "(" ")" g.anyExpr)

/-- Statements in braces. -/
def stmtList (g : Rules) : Parse Unit :=
  node .stmtList do
    expect openBrace
    innerAttrs g
    loop do
      if (← look).starts closeBrace then return false
      g.stmt
      return true
    expect closeBrace

/-- One field of a record expression. A field name alone stands for the variable of that name. -/
def recordExprField (g : Rules) : Parse Unit :=
  isolate do
    g.attrs
    let ts ← look
    if ts.startsIdent || ts.kind? == some .int then
      if ts.startsAt 1 "::" || ts.startsAt 1 ".." then failure
      if ts.startsAt 1 ":" then
        fieldName
        expect ":"
      g.anyExpr
      wrap .recordExprField
    else
      expect ".."
      unless (← look).starts closeBrace do
        g.anyExpr
        if (← look).starts "," then failure

/-- The fields of a record expression. -/
def recordExprFieldList (g : Rules) : Parse Unit :=
  node .recordExprFieldList do
    expect openBrace
    listUntil closeBrace (recordExprField g)

/-- A path, a record or a macro call. Says whether it is a macro call in braces. -/
def pathExpr (g : Rules) (mode : ExprMode) : Parse Bool :=
  isolate do
    g.path .expr
    let ts ← look
    if ts.starts openBrace && !mode.noStruct then
      recordExprFieldList g
      wrap .recordExpr
      return false
    else if ts.starts "!" && !ts.starts "!=" then
      let braces ← macroTail g
      wrap .macroCall
      wrap .macroExpr
      return braces
    else
      wrap .pathExpr
      return false

/-- An expression in parentheses or a tuple. -/
def parenOrTupleExpr (g : Rules) : Parse Unit :=
  isolate do
    expect "("
    listUntil ")" g.anyExpr
    let single := (← get).built.length == 3
    wrap (if single then .parenExpr else .tupleExpr)

/-- An array of elements, or of one element repeated. -/
def arrayExpr (g : Rules) : Parse Unit :=
  node .arrayExpr do
    expect "["
    unless (← look).starts "]" do
      g.anyExpr
      if ← eat ";" then
        unless (← look).starts "]" do g.anyExpr
      else
        loop do
          if (← look).starts "]" then return false
          expect ","
          if (← look).starts "]" then return false
          g.anyExpr
          return true
    expect "]"

/-- The parameters of a closure. -/
def closureParams (g : Rules) : Parse Unit :=
  node .paramList do
    expect "|"
    loop do
      if (← look).starts "|" then return false
      node .param do
        g.attrs
        let ts ← look
        unless ts.inPatternFirst || ts.inTypeFirst do failure
        g.patternSingle
        let ts ← look
        if ts.starts ":" && !ts.starts "::" then g.ascription
      eat ","
    expect "|"

/-- A closure. With a return type its body is a block. -/
def closureExpr (g : Rules) : Parse Unit :=
  node .closureExpr do
    if (← look).starts "for" then node .closureBinder (forBinder g)
    eat? "const"
    eat? "static"
    eat? "async"
    eat? "move"
    closureParams g
    if ← g.optRetType then g.block
    else
      unless (← look).inExprFirst do failure
      g.anyExpr

/-- A conditional expression. -/
def ifExprRule (g : Rules) : Parse Unit :=
  node .ifExpr do
    expect "if"
    g.headExpr
    g.block
    if ← eat "else" then
      if (← look).starts "if" then g.ifExpr else g.block

/-- One arm of a match. A comma can be left out after a block. -/
def matchArm (g : Rules) : Parse Unit :=
  node .matchArm do
    g.attrs
    g.pattern
    if (← look).starts "if" then
      node .matchGuard do
        expect "if"
        g.anyExpr
    expect "=>"
    let block ← g.expr { statement := true } 1
    unless ← eat "," do
      unless block || (← look).starts closeBrace do failure

/-- A match. -/
def matchExpr (g : Rules) : Parse Unit :=
  node .matchExpr do
    expect "match"
    g.headExpr
    node .matchArmList do
      expect openBrace
      innerAttrs g
      loop do
        if (← look).starts closeBrace then return false
        matchArm g
        return true
      expect closeBrace

/-- A word that may have an expression after it. -/
def jumpExpr (g : Rules) (kind : NodeKind) (word : String) : Parse Unit :=
  node kind do
    expect word
    if (← look).inExprFirst then g.anyExpr

/-- A jump out of a loop or block, perhaps with a value. -/
def breakExpr (g : Rules) (mode : ExprMode) : Parse Unit :=
  node .breakExpr do
    expect "break"
    if (← look).startsLifetime then lifetime
    let ts ← look
    if ts.inExprFirst && !(mode.noStruct && ts.starts openBrace) then g.anyExpr

/-- The rest of a loop after its label. The label is in the open node. -/
def loopTail (g : Rules) : Parse Unit := do
  let ts ← look
  if ts.starts "loop" then
    expect "loop"
    g.block
    wrap .loopExpr
  else if ts.starts "while" then
    expect "while"
    g.headExpr
    g.block
    wrap .whileExpr
  else
    expect "for"
    g.pattern
    expect "in"
    g.headExpr
    g.block
    wrap .forExpr

/-! ## Expressions without operators around them -/

/-- An expression without operators. Says whether it ends with a block that also ends a statement. -/
def atomExpr (g : Rules) (mode : ExprMode) : Parse Bool := do
  let ts ← look
  let brace := ts.startsAt 1 openBrace
  let blockAfter (words : Parse Unit) : Parse Bool := do
    node .blockExpr do
      words
      stmtList g
    return true
  if ts.startsLiteral then
    literal
    return false
  else if ts.startsPath then pathExpr g mode
  else if ts.starts "(" then
    parenOrTupleExpr g
    return false
  else if ts.starts "[" then
    arrayExpr g
    return false
  else if ts.starts "if" then
    g.ifExpr
    return true
  else if ts.starts "let" then
    node .letExpr do
      expect "let"
      g.pattern
      expect "="
      let _ ← g.expr { noStruct := true } 5
    return false
  else if ts.starts "_" then
    node .underscoreExpr (expect "_")
    return false
  else if ts.startsAny ["loop", "while"] || (ts.starts "for" && !ts.startsAt 1 "<") then
    isolate (loopTail g)
    return true
  else if ts.starts "try" then blockAfter (expect "try")
  else if ts.starts "match" then
    matchExpr g
    return true
  else if ts.starts "return" then
    jumpExpr g .returnExpr "return"
    return false
  else if ts.starts "become" then
    node .becomeExpr do
      expect "become"
      g.anyExpr
    return false
  else if ts.starts "yield" then
    jumpExpr g .yieldExpr "yield"
    return false
  else if ts.starts "do" && ts.wordAt 1 "yeet" then
    node .yeetExpr do
      expect "do"
      bump 1
      if (← look).inExprFirst then g.anyExpr
    return false
  else if ts.starts "continue" then
    node .continueExpr do
      expect "continue"
      if (← look).startsLifetime then lifetime
    return false
  else if ts.starts "break" then
    breakExpr g mode
    return false
  else if ts.startsLifetime && ts.startsAt 1 ":" then
    isolate do
      node .label do
        lifetime
        expect ":"
      if (← look).starts openBrace then
        stmtList g
        wrap .blockExpr
      else loopTail g
    return true
  else if ts.startsAny ["const", "unsafe", "async"] && brace then blockAfter (bump 1)
  else if ts.starts "async" && ts.startsAt 1 "move" && ts.startsAt 2 openBrace then
    blockAfter do
      expect "async"
      expect "move"
  else if ts.starts openBrace then blockAfter (pure ())
  else if ts.startsAny ["const", "static", "async", "move", "|", "for"] then
    closureExpr g
    return false
  else failure

/-- A block in braces. -/
def blockRule (g : Rules) : Parse Unit :=
  node .blockExpr (stmtList g)

/-! ## Operators after an expression -/

/-- What follows the dot after an expression, which is in the open node. -/
def afterDot (g : Rules) : Parse Unit := do
  let ts ← look
  if ts.startsSegmentName && (ts.startsAt 1 "(" || ts.startsAt 1 "::") then
    segmentName
    g.optArgs true
    unless (← look).starts "(" do failure
    argList g
    wrap .methodCallExpr
  else if ts.starts "await" then
    expect "await"
    wrap .awaitExpr
  else if ts.startsSegmentName || ts.kind? == some .int then
    node .nameRef (bump 1)
    wrap .fieldExpr
  else failure

/-- A number with a point after a dot stands for two fields, or for one field and another dot. -/
def splitFloat (g : Rules) (text : String) : Parse Unit := do
  let cs := text.toList
  let left := (cs.takeWhile (· != '.')).length
  if left == cs.length then failure
  skip 1
  node .nameRef (emit (.part .int left))
  wrap .fieldExpr
  emit (.part .punct 1)
  if left + 1 == cs.length then afterDot g
  else
    node .nameRef (emit (.part .int (cs.length - left - 1)))
    wrap .fieldExpr

/-- Calls, indices, fields, methods, awaits and question marks after an expression, which is in the open node. Says
whether there are any. -/
def postfixOps (g : Rules) (callsAllowed : Bool) : Parse Bool := do
  let start := (← look).length
  loop do
    let ts ← look
    let calls := callsAllowed || ts.length < start
    if calls && ts.starts "(" then
      argList g
      wrap .callExpr
      return true
    else if calls && ts.starts "[" then
      expect "["
      g.anyExpr
      expect "]"
      wrap .indexExpr
      return true
    else if ts.starts "?" then
      expect "?"
      wrap .tryExpr
      return true
    else if ts.starts "." && !ts.starts ".." then
      expect "."
      match (← look) with
      | t :: _ => if t.kind == .float then splitFloat g t.text else afterDot g
      | [] => failure
      return true
    else return false
  return (← look).length < start

/-- An expression with what stands directly before and after it. Says whether it ends with a block that also ends a
statement. -/
def unaryExpr (g : Rules) (mode : ExprMode) : Parse Bool :=
  isolate do
    let ts ← look
    if ts.starts "&" then
      expect "&"
      let ts ← look
      if ts.wordAt 0 "raw" then
        if ts.startsAt 1 "mut" || ts.startsAt 1 "const" then
          bump 1
          bump 1
        else if ts.identAt 1 then bump 1
      else eat? "mut"
      let _ ← g.expr mode 255
      wrap .refExpr
      return false
    else if ts.startsAny ["*", "!", "-"] then
      bump 1
      let _ ← g.expr mode 255
      wrap .prefixExpr
      return false
    else if let some op := ["..=", ".."].find? ts.starts then
      expect op
      let ts ← look
      let access := ts.starts "." && ts.identAt 1
      if ts.inExprFirst && !access && !(mode.noStruct && ts.starts openBrace) then
        let _ ← g.expr mode 2
      wrap .rangeExpr
      let _ ← postfixOps g true
      return false
    else
      let block ← atomExpr g mode
      let more ← postfixOps g !(mode.statement && block)
      return block && !more

/-! ## Operators between expressions -/

/-- An operator between two expressions. -/
structure BinaryOp where
  sign : String
  /-- How strongly it binds. -/
  power : Nat
  /-- Whether a chain of it groups from the right. -/
  right : Bool := false

/-- All operators between expressions. Of two that start alike the longer one comes first. -/
def binaryOps : List BinaryOp :=
  [⟨"||", 3, false⟩, ⟨"|=", 1, true⟩, ⟨"|", 6, false⟩, ⟨">>=", 1, true⟩, ⟨">>", 9, false⟩, ⟨">=", 5, false⟩,
   ⟨">", 5, false⟩, ⟨"==", 5, false⟩, ⟨"=", 1, true⟩, ⟨"<=", 5, false⟩, ⟨"<<=", 1, true⟩, ⟨"<<", 9, false⟩,
   ⟨"<", 5, false⟩, ⟨"+=", 1, true⟩, ⟨"+", 10, false⟩, ⟨"^=", 1, true⟩, ⟨"^", 7, false⟩, ⟨"%=", 1, true⟩,
   ⟨"%", 11, false⟩, ⟨"&=", 1, true⟩, ⟨"&&", 4, false⟩, ⟨"&", 8, false⟩, ⟨"/=", 1, true⟩, ⟨"/", 11, false⟩,
   ⟨"*=", 1, true⟩, ⟨"*", 11, false⟩, ⟨"..=", 2, false⟩, ⟨"..", 2, false⟩, ⟨"!=", 5, false⟩, ⟨"-=", 1, true⟩,
   ⟨"-", 10, false⟩, ⟨"as", 12, false⟩]

/-- The operator that comes next. An arrow is none. -/
def nextOp? (ts : Lexemes) : Option BinaryOp :=
  if ts.starts "=>" then none else binaryOps.find? fun op => ts.starts op.sign

/-- Operators that bind at least as strongly as `power`, and what they apply to, after an expression, which is in the
open node. -/
def binaryTail (g : Rules) (mode : ExprMode) (power : Nat) : Parse Unit :=
  loop do
    let some op := nextOp? (← look) | return false
    if op.power < power then return false
    expect op.sign
    if op.sign == "as" then
      g.type false
      wrap .castExpr
      return true
    let range := op.sign == ".." || op.sign == "..="
    let ts ← look
    if range && !(ts.inExprFirst && !(mode.noStruct && ts.starts openBrace)) then
      wrap .rangeExpr
      return false
    let _ ← g.expr { mode with statement := false } (if op.right then op.power else op.power + 1)
    wrap (if range then .rangeExpr else .binExpr)
    return true

/-- The rest of an expression after its attributes, which are in the open node. -/
def exprTail (g : Rules) (mode : ExprMode) (power : Nat) : Parse Bool := do
  unless (← look).inExprFirst do failure
  let block ← unaryExpr g mode
  absorb
  if mode.statement && block then return true
  binaryTail g mode power
  return false

/-- An expression with its attributes. -/
def exprRule (g : Rules) (mode : ExprMode) (power : Nat) : Parse Bool :=
  isolate do
    g.attrs
    exprTail g mode power

/-! ## Statements -/

/-- The rest of a local variable's declaration, from `let` on. -/
def letTail (g : Rules) : Parse Unit := do
  eat? "super"
  expect "let"
  g.pattern
  if (← look).starts ":" then g.ascription
  let valued ← eat "="
  if valued then g.anyExpr
  if (← look).starts "else" then
    if valued && (← get).last == closeBrace then failure
    node .letElse do
      expect "else"
      g.block
  expect ";"
  wrap .letStmt

/-- One statement. -/
def stmtRule (g : Rules) : Parse Unit := do
  unless ← eat ";" do
    isolate do
      g.attrs
      let ts ← look
      if ts.starts "let" || (ts.starts "super" && ts.startsAt 1 "let") then letTail g
      else
        unless ← g.item false do
          let block ← exprTail g { statement := true } 1
          unless (← look).starts closeBrace do
            if block then eat? ";" else expect ";"
            wrap .exprStmt

end AsyncLint.Source
