import AsyncLint.Source.Grammar.Item

/-!
# The grammar as a whole
-/

namespace AsyncLint.Source

namespace Rules

/-- No rules: nothing can be read. -/
def none : Rules where
  expr _ _ := failure
  type _ := failure
  pattern := failure
  patternSingle := failure
  path _ := failure
  optArgs _ := failure
  bounds := failure
  block := failure
  stmt := failure
  ifExpr := failure
  attrs := failure
  item _ := failure
  useTree := failure
  tokenTree := failure

/-- The rules for what refers to each other at most `depth` times. -/
def upTo : Nat → Rules
  | 0 => none
  | depth + 1 =>
    { expr := fun mode power s => exprRule (upTo depth) mode power s
      type := fun withBounds s => typeRule (upTo depth) withBounds s
      pattern := fun s => patternRule (upTo depth) s
      patternSingle := fun s => patternSingleRule (upTo depth) s
      path := fun mode s => pathRule (upTo depth) mode s
      optArgs := fun colonsRequired s => optArgsRule (upTo depth) colonsRequired s
      bounds := fun s => boundsRule (upTo depth) s
      block := fun s => blockRule (upTo depth) s
      stmt := fun s => stmtRule (upTo depth) s
      ifExpr := fun s => ifExprRule (upTo depth) s
      attrs := fun s => outerAttrsRule (upTo depth) s
      item := fun inExtern s => itemRule (upTo depth) inExtern s
      useTree := fun s => useTreeRule (upTo depth) s
      tokenTree := fun s => tokenTreeRule (upTo depth) s }

end Rules

/-- How often rules can refer to each other while reading `n` lexemes. At most three of them refer to each other before
a lexeme is read, so deeper rules read nothing else (`shapesOf?_eq_of_le`). -/
def ruleDepth (n : Nat) : Nat :=
  8 * (n + 4)

/-- The shapes of a source, if it follows the grammar. -/
def shapesOf? (lexemes : Lexemes) : Option (List Shape) :=
  ((fileRule (Rules.upTo (ruleDepth lexemes.length))).run { rest := lexemes }).map fun (_, p) => p.built.reverse

end AsyncLint.Source
