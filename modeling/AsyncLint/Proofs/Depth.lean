import AsyncLint.Proofs.Agreement
import AsyncLint.Proofs.Names

/-!
# The depth of the grammar

Rules refer to each other in circles, but every circle reads something. Some rules read a lexeme before they refer to
any other. Some others refer at their start to such rules only, and all the rest at their start to rules of these two
kinds. So three levels are enough for each lexeme, and rules that are deep enough for a source read it like deeper ones.
-/

namespace AsyncLint.Source

open Parse

set_option synthInstance.maxSize 200000

variable {n : Nat} {g g' : Rules}

/-! ## The rules below -/

/-- The rules agree on fewer than `n` lexemes. -/
class Rules.Alike (n : Nat) (g g' : Rules) : Prop where
  expr (mode : ExprMode) (power : Nat) : AgreeBelow n (g.expr mode power) (g'.expr mode power)
  type (withBounds : Bool) : AgreeBelow n (g.type withBounds) (g'.type withBounds)
  pattern : AgreeBelow n g.pattern g'.pattern
  patternSingle : AgreeBelow n g.patternSingle g'.patternSingle
  path (mode : PathMode) : AgreeBelow n (g.path mode) (g'.path mode)
  optArgs (colonsRequired : Bool) : AgreeBelow n (g.optArgs colonsRequired) (g'.optArgs colonsRequired)
  bounds : AgreeBelow n g.bounds g'.bounds
  block : AgreeBelow n g.block g'.block
  stmt : AgreeBelow n g.stmt g'.stmt
  ifExpr : AgreeBelow n g.ifExpr g'.ifExpr
  attrs : AgreeBelow n g.attrs g'.attrs
  item (inExtern : Bool) : AgreeBelow n (g.item inExtern) (g'.item inExtern)
  useTree : AgreeBelow n g.useTree g'.useTree
  tokenTree : AgreeBelow n g.tokenTree g'.tokenTree

/-- In addition, those that read something before they refer to others agree on `n` lexemes. -/
class Rules.AlikeFirst (n : Nat) (g g' : Rules) : Prop extends Rules.Alike n g g' where
  first_attrs : Agree n g.attrs g'.attrs
  first_tokenTree : Agree n g.tokenTree g'.tokenTree
  first_optArgs (colonsRequired : Bool) : Agree n (g.optArgs colonsRequired) (g'.optArgs colonsRequired)
  first_block : Agree n g.block g'.block
  first_ifExpr : Agree n g.ifExpr g'.ifExpr
  first_path (mode : PathMode) : Agree n (g.path mode) (g'.path mode)
  first_item (inExtern : Bool) : Agree n (g.item inExtern) (g'.item inExtern)

/-- In addition, so do those that refer at their start to such rules only. -/
class Rules.AlikeSecond (n : Nat) (g g' : Rules) : Prop extends Rules.AlikeFirst n g g' where
  second_bounds : Agree n g.bounds g'.bounds
  second_useTree : Agree n g.useTree g'.useTree
  second_patternSingle : Agree n g.patternSingle g'.patternSingle
  second_expr (mode : ExprMode) (power : Nat) : Agree n (g.expr mode power) (g'.expr mode power)
  second_stmt : Agree n g.stmt g'.stmt

attribute [instance] Rules.Alike.expr Rules.Alike.type Rules.Alike.pattern Rules.Alike.patternSingle Rules.Alike.path
  Rules.Alike.optArgs Rules.Alike.bounds Rules.Alike.block Rules.Alike.stmt Rules.Alike.ifExpr Rules.Alike.attrs
  Rules.Alike.item Rules.Alike.useTree Rules.Alike.tokenTree Rules.AlikeFirst.first_attrs
  Rules.AlikeFirst.first_tokenTree Rules.AlikeFirst.first_optArgs Rules.AlikeFirst.first_block
  Rules.AlikeFirst.first_ifExpr Rules.AlikeFirst.first_path Rules.AlikeFirst.first_item Rules.AlikeSecond.second_bounds
  Rules.AlikeSecond.second_useTree Rules.AlikeSecond.second_patternSingle Rules.AlikeSecond.second_expr
  Rules.AlikeSecond.second_stmt

/-! ## Short rules -/

instance anyExpr_agreeBelow [Rules.Alike n g g'] : AgreeBelow n g.anyExpr g'.anyExpr := by
  dsimp only [Rules.anyExpr]
  infer_instance

instance headExpr_agreeBelow [Rules.Alike n g g'] : AgreeBelow n g.headExpr g'.headExpr := by
  dsimp only [Rules.headExpr]
  infer_instance

instance boundList_agreeBelow [Rules.Alike n g g'] : AgreeBelow n g.boundList g'.boundList := by
  dsimp only [Rules.boundList]
  infer_instance

instance colonBounds_agreeBelow [Rules.Alike n g g'] : AgreeBelow n g.colonBounds g'.colonBounds := by
  dsimp only [Rules.colonBounds]
  infer_instance

instance ascription_agreeBelow [Rules.Alike n g g'] : AgreeBelow n g.ascription g'.ascription := by
  dsimp only [Rules.ascription]
  infer_instance

instance optRetType_agreeBelow [Rules.Alike n g g'] : AgreeBelow n g.optRetType g'.optRetType := by
  dsimp only [Rules.optRetType]
  infer_instance

/-! ## Attributes and token trees -/

instance tokenTreeRule_agree [Rules.Alike n g g'] : Agree n (tokenTreeRule g) (tokenTreeRule g') := by
  dsimp only [tokenTreeRule]
  refine .node (.of_look fun ts => ?_)
  split <;> infer_instance

instance macroTail_agree [Rules.Alike n g g'] : Agree n (macroTail g) (macroTail g') := by
  dsimp only [macroTail]
  infer_instance

instance metaRule_agreeBelow [Rules.Alike n g g'] : AgreeBelow n (metaRule g) (metaRule g') := by
  dsimp only [metaRule]
  infer_instance

instance outerAttrsRule_agree [Rules.Alike n g g'] : Agree n (outerAttrsRule g) (outerAttrsRule g') := by
  dsimp only [outerAttrsRule]
  infer_instance

instance innerAttrs_agreeBelow [Rules.Alike n g g'] : AgreeBelow n (innerAttrs g) (innerAttrs g') := by
  dsimp only [innerAttrs]
  infer_instance

/-! ## Paths and generic arguments -/

instance fnTraitParams_agreeBelow [Rules.Alike n g g'] : AgreeBelow n (fnTraitParams g) (fnTraitParams g') := by
  dsimp only [fnTraitParams]
  infer_instance

instance optTypeSegmentArgs_agreeBelow [Rules.Alike n g g'] :
    AgreeBelow n (optTypeSegmentArgs g) (optTypeSegmentArgs g') := by
  dsimp only [optTypeSegmentArgs]
  infer_instance

instance optMoreBounds_agree [Rules.Alike n g g'] : Agree n (optMoreBounds g) (optMoreBounds g') := by
  dsimp only [optMoreBounds]
  infer_instance

instance pathType_agreeBelow [Rules.Alike n g g'] {withBounds : Bool} :
    AgreeBelow n (pathType g withBounds) (pathType g' withBounds) := by
  dsimp only [pathType]
  infer_instance

instance pathSegment_agree [Rules.Alike n g g'] {mode : PathMode} {first : Bool} :
    Agree n (pathSegment g mode first) (pathSegment g' mode first) := by
  cases mode
  all_goals
    dsimp only [pathSegment]
    infer_instance

instance morePath_agree [Rules.Alike n g g'] {mode : PathMode} : Agree n (morePath g mode) (morePath g' mode) := by
  dsimp only [morePath]
  infer_instance

instance pathRule_agree [Rules.Alike n g g'] {mode : PathMode} : Agree n (pathRule g mode) (pathRule g' mode) := by
  dsimp only [pathRule]
  infer_instance

instance constArg_agreeBelow [Rules.Alike n g g'] : AgreeBelow n (constArg g) (constArg g') := by
  dsimp only [constArg]
  infer_instance

instance namedArg_agreeBelow [Rules.Alike n g g'] : AgreeBelow n (namedArg g) (namedArg g') := by
  dsimp only [namedArg]
  infer_instance

instance genericArg_agreeBelow [Rules.Alike n g g'] : AgreeBelow n (genericArg g) (genericArg g') := by
  dsimp only [genericArg]
  infer_instance

instance optArgsRule_agree [Rules.Alike n g g'] {colonsRequired : Bool} :
    Agree n (optArgsRule g colonsRequired) (optArgsRule g' colonsRequired) := by
  dsimp only [optArgsRule]
  infer_instance

/-! ## Generic parameters, bounds and conditions -/

instance lifetimeBounds_agree : Agree n lifetimeBounds lifetimeBounds := by
  dsimp only [lifetimeBounds]
  infer_instance

instance genericParam_agreeBelow [Rules.Alike n g g'] : AgreeBelow n (genericParam g) (genericParam g') := by
  dsimp only [genericParam]
  infer_instance

instance genericParamList_agreeBelow [Rules.Alike n g g'] :
    AgreeBelow n (genericParamList g) (genericParamList g') := by
  dsimp only [genericParamList]
  infer_instance

instance optGenericParamList_agreeBelow [Rules.Alike n g g'] :
    AgreeBelow n (optGenericParamList g) (optGenericParamList g') := by
  dsimp only [optGenericParamList]
  infer_instance

instance forBinder_eats [Rules.Alike n g g'] : Eats n (forBinder g) (forBinder g') := by
  dsimp only [forBinder]
  infer_instance

instance forType_agree [Rules.Alike n g g'] {withBounds : Bool} :
    Agree n (forType g withBounds) (forType g' withBounds) := by
  dsimp only [forType]
  infer_instance

instance pathType_agree [Rules.AlikeFirst n g g'] {withBounds : Bool} :
    Agree n (pathType g withBounds) (pathType g' withBounds) := by
  dsimp only [pathType]
  infer_instance

instance traitBound_agree [Rules.AlikeFirst n g g'] : Agree n (traitBound g) (traitBound g') := by
  dsimp only [traitBound]
  infer_instance

instance captures_agree : Agree n captures captures := by
  dsimp only [captures]
  infer_instance

instance typeBound_agree [Rules.AlikeFirst n g g'] : Agree n (typeBound g) (typeBound g') := by
  dsimp only [typeBound]
  infer_instance

instance boundsRule_agree [Rules.AlikeFirst n g g'] : Agree n (boundsRule g) (boundsRule g') := by
  dsimp only [boundsRule]
  infer_instance

instance wherePred_agreeBelow [Rules.Alike n g g'] : AgreeBelow n (wherePred g) (wherePred g') := by
  dsimp only [wherePred]
  infer_instance

instance optWhereClause_agreeBelow [Rules.Alike n g g'] : AgreeBelow n (optWhereClause g) (optWhereClause g') := by
  dsimp only [optWhereClause]
  infer_instance

/-! ## Types -/

instance abi_agree : Agree n abi abi := by
  dsimp only [abi]
  infer_instance

instance parenOrTupleType_agree [Rules.Alike n g g'] : Agree n (parenOrTupleType g) (parenOrTupleType g') := by
  dsimp only [parenOrTupleType]
  infer_instance

instance arrayOrSliceType_agree [Rules.Alike n g g'] : Agree n (arrayOrSliceType g) (arrayOrSliceType g') := by
  dsimp only [arrayOrSliceType]
  infer_instance

instance fnPtrParams_agreeBelow [Rules.Alike n g g'] : AgreeBelow n (fnPtrParams g) (fnPtrParams g') := by
  dsimp only [fnPtrParams]
  infer_instance

instance fnPtrType_agree [Rules.Alike n g g'] : Agree n (fnPtrType g) (fnPtrType g') := by
  dsimp only [fnPtrType]
  infer_instance

instance pathOrMacroType_agree [Rules.AlikeFirst n g g'] {withBounds : Bool} :
    Agree n (pathOrMacroType g withBounds) (pathOrMacroType g' withBounds) := by
  dsimp only [pathOrMacroType]
  infer_instance

instance boundList_agree [Rules.AlikeSecond n g g'] : Agree n g.boundList g'.boundList := by
  dsimp only [Rules.boundList]
  infer_instance

instance typeRule_agree [Rules.AlikeSecond n g g'] {withBounds : Bool} :
    Agree n (typeRule g withBounds) (typeRule g' withBounds) := by
  dsimp only [typeRule]
  infer_instance

/-! ## Patterns -/

instance identPat_agree [Rules.Alike n g g'] {withAt : Bool} :
    Agree n (identPat g withAt) (identPat g' withAt) := by
  dsimp only [identPat]
  infer_instance

instance boxPat_agree [Rules.Alike n g g'] : Agree n (boxPat g) (boxPat g') := by
  dsimp only [boxPat]
  infer_instance

instance patList_agreeBelow [Rules.Alike n g g'] {closing : String} :
    AgreeBelow n (patList g closing) (patList g' closing) := by
  dsimp only [patList]
  infer_instance

instance recordPatField_agreeBelow [Rules.Alike n g g'] : AgreeBelow n (recordPatField g) (recordPatField g') := by
  dsimp only [recordPatField]
  infer_instance

instance recordPatFieldList_agree [Rules.Alike n g g'] :
    Agree n (recordPatFieldList g) (recordPatFieldList g') := by
  dsimp only [recordPatFieldList]
  infer_instance

instance pathPat_agree [Rules.AlikeFirst n g g'] : Agree n (pathPat g) (pathPat g') := by
  dsimp only [pathPat]
  infer_instance

instance parenOrTuplePat_agree [Rules.Alike n g g'] : Agree n (parenOrTuplePat g) (parenOrTuplePat g') := by
  dsimp only [parenOrTuplePat]
  infer_instance

instance atomPat_agree [Rules.AlikeFirst n g g'] : Agree n (atomPat g) (atomPat g') := by
  dsimp only [atomPat]
  infer_instance

instance patternSingleRule_agree [Rules.AlikeFirst n g g'] : Agree n (patternSingleRule g) (patternSingleRule g') := by
  dsimp only [patternSingleRule]
  refine .isolate (.of_look fun ts => .ite inferInstance (.ite inferInstance (.bind inferInstance fun _ =>
    .of_look fun ts => ?_)))
  split <;> infer_instance

instance patternRule_agree [Rules.AlikeSecond n g g'] : Agree n (patternRule g) (patternRule g') := by
  dsimp only [patternRule]
  infer_instance

/-! ## Parts of expressions -/

instance argList_agree [Rules.Alike n g g'] : Agree n (argList g) (argList g') := by
  dsimp only [argList]
  infer_instance

instance stmtList_agree [Rules.Alike n g g'] : Agree n (stmtList g) (stmtList g') := by
  dsimp only [stmtList]
  infer_instance

instance recordExprField_agreeBelow [Rules.Alike n g g'] :
    AgreeBelow n (recordExprField g) (recordExprField g') := by
  dsimp only [recordExprField]
  infer_instance

instance recordExprFieldList_agree [Rules.Alike n g g'] :
    Agree n (recordExprFieldList g) (recordExprFieldList g') := by
  dsimp only [recordExprFieldList]
  infer_instance

instance pathExpr_agree [Rules.AlikeFirst n g g'] {mode : ExprMode} : Agree n (pathExpr g mode) (pathExpr g' mode) := by
  dsimp only [pathExpr]
  infer_instance

instance parenOrTupleExpr_agree [Rules.Alike n g g'] : Agree n (parenOrTupleExpr g) (parenOrTupleExpr g') := by
  dsimp only [parenOrTupleExpr]
  infer_instance

instance arrayExpr_agree [Rules.Alike n g g'] : Agree n (arrayExpr g) (arrayExpr g') := by
  dsimp only [arrayExpr]
  infer_instance

instance closureParams_eats [Rules.Alike n g g'] : Eats n (closureParams g) (closureParams g') := by
  dsimp only [closureParams]
  infer_instance

instance closureExpr_agree [Rules.Alike n g g'] : Agree n (closureExpr g) (closureExpr g') := by
  dsimp only [closureExpr]
  infer_instance

instance ifExprRule_agree [Rules.Alike n g g'] : Agree n (ifExprRule g) (ifExprRule g') := by
  dsimp only [ifExprRule]
  infer_instance

instance matchArm_agreeBelow [Rules.Alike n g g'] : AgreeBelow n (matchArm g) (matchArm g') := by
  dsimp only [matchArm]
  infer_instance

instance matchExpr_agree [Rules.Alike n g g'] : Agree n (matchExpr g) (matchExpr g') := by
  dsimp only [matchExpr]
  infer_instance

instance jumpExpr_agree [Rules.Alike n g g'] {kind : NodeKind} {word : String} :
    Agree n (jumpExpr g kind word) (jumpExpr g' kind word) := by
  dsimp only [jumpExpr]
  infer_instance

instance breakExpr_agree [Rules.Alike n g g'] {mode : ExprMode} :
    Agree n (breakExpr g mode) (breakExpr g' mode) := by
  dsimp only [breakExpr]
  infer_instance

instance loopTail_agree [Rules.Alike n g g'] : Agree n (loopTail g) (loopTail g') := by
  dsimp only [loopTail]
  infer_instance

/-! ## Expressions and statements -/

instance atomExpr_agree [Rules.AlikeFirst n g g'] {mode : ExprMode} : Agree n (atomExpr g mode) (atomExpr g' mode) := by
  dsimp only [atomExpr]
  infer_instance

instance blockRule_agree [Rules.Alike n g g'] : Agree n (blockRule g) (blockRule g') := by
  dsimp only [blockRule]
  infer_instance

instance afterDot_agreeBelow [Rules.Alike n g g'] : AgreeBelow n (afterDot g) (afterDot g') := by
  dsimp only [afterDot]
  infer_instance

instance splitFloat_agreeBelow [Rules.Alike n g g'] {text : String} :
    AgreeBelow n (splitFloat g text) (splitFloat g' text) := by
  dsimp only [splitFloat]
  infer_instance

instance postfixOps_agree [Rules.Alike n g g'] {callsAllowed : Bool} :
    Agree n (postfixOps g callsAllowed) (postfixOps g' callsAllowed) := by
  dsimp only [postfixOps]
  refine .of_look fun ts => .bind (.loop (.of_look fun ts' => .ite inferInstance (.ite inferInstance (.ite inferInstance
    (.ite (expect_eats.bind fun _ => .of_look fun ts'' => ?_) inferInstance))))) fun _ => inferInstance
  split <;> infer_instance

instance unaryExpr_agree [Rules.AlikeFirst n g g'] {mode : ExprMode} :
    Agree n (unaryExpr g mode) (unaryExpr g' mode) := by
  dsimp only [unaryExpr]
  refine .isolate (.of_look fun ts => .ite inferInstance (.ite inferInstance ?_))
  split <;> infer_instance

instance binaryTail_agree [Rules.Alike n g g'] {mode : ExprMode} {power : Nat} :
    Agree n (binaryTail g mode power) (binaryTail g' mode power) := by
  dsimp only [binaryTail]
  refine .loop (.of_look fun ts => ?_)
  split <;> infer_instance

instance exprTail_agree [Rules.AlikeFirst n g g'] {mode : ExprMode} {power : Nat} :
    Agree n (exprTail g mode power) (exprTail g' mode power) := by
  dsimp only [exprTail]
  infer_instance

instance exprRule_agree [Rules.AlikeFirst n g g'] {mode : ExprMode} {power : Nat} :
    Agree n (exprRule g mode power) (exprRule g' mode power) := by
  dsimp only [exprRule]
  infer_instance

instance letTail_agree [Rules.Alike n g g'] : Agree n (letTail g) (letTail g') := by
  dsimp only [letTail]
  infer_instance

instance stmtRule_agree [Rules.AlikeFirst n g g'] : Agree n (stmtRule g) (stmtRule g') := by
  dsimp only [stmtRule]
  infer_instance

/-! ## Items -/

instance optVisibility_agree [Rules.Alike n g g'] {inTupleField : Bool} :
    Agree n (optVisibility g inTupleField) (optVisibility g' inTupleField) := by
  dsimp only [optVisibility]
  infer_instance

instance selfParamTail_agreeBelow [Rules.Alike n g g'] : AgreeBelow n (selfParamTail g) (selfParamTail g') := by
  dsimp only [selfParamTail]
  infer_instance

instance fnParamTail_agreeBelow [Rules.Alike n g g'] : AgreeBelow n (fnParamTail g) (fnParamTail g') := by
  dsimp only [fnParamTail]
  infer_instance

instance fnParams_agreeBelow [Rules.Alike n g g'] : AgreeBelow n (fnParams g) (fnParams g') := by
  dsimp only [fnParams]
  infer_instance

instance fnTail_agree [Rules.Alike n g g'] : Agree n (fnTail g) (fnTail g') := by
  dsimp only [fnTail]
  infer_instance

instance constTail_agree [Rules.Alike n g g'] : Agree n (constTail g) (constTail g') := by
  dsimp only [constTail]
  infer_instance

instance staticTail_agree [Rules.Alike n g g'] : Agree n (staticTail g) (staticTail g') := by
  dsimp only [staticTail]
  infer_instance

instance typeAliasTail_agree [Rules.Alike n g g'] : Agree n (typeAliasTail g) (typeAliasTail g') := by
  dsimp only [typeAliasTail]
  infer_instance

instance recordFieldList_agreeBelow [Rules.Alike n g g'] :
    AgreeBelow n (recordFieldList g) (recordFieldList g') := by
  dsimp only [recordFieldList]
  infer_instance

instance tupleFieldList_agreeBelow [Rules.Alike n g g'] : AgreeBelow n (tupleFieldList g) (tupleFieldList g') := by
  dsimp only [tupleFieldList]
  infer_instance

instance structTail_agreeBelow [Rules.Alike n g g'] {isStruct : Bool} :
    AgreeBelow n (structTail g isStruct) (structTail g' isStruct) := by
  dsimp only [structTail]
  infer_instance

instance variant_agreeBelow [Rules.Alike n g g'] : AgreeBelow n (variant g) (variant g') := by
  dsimp only [variant]
  infer_instance

instance enumTail_agree [Rules.Alike n g g'] : Agree n (enumTail g) (enumTail g') := by
  dsimp only [enumTail]
  infer_instance

instance optRename_agree : Agree n optRename optRename := by
  dsimp only [optRename]
  infer_instance

instance useTreeList_agree [Rules.Alike n g g'] : Agree n (useTreeList g) (useTreeList g') := by
  dsimp only [useTreeList]
  infer_instance

instance useTreeRule_agree [Rules.AlikeFirst n g g'] : Agree n (useTreeRule g) (useTreeRule g') := by
  dsimp only [useTreeRule]
  infer_instance

instance itemOrMacro_agreeBelow [Rules.Alike n g g'] {inExtern : Bool} :
    AgreeBelow n (itemOrMacro g inExtern) (itemOrMacro g' inExtern) := by
  dsimp only [itemOrMacro]
  infer_instance

instance modContents_agreeBelow [Rules.Alike n g g'] : AgreeBelow n (modContents g) (modContents g') := by
  dsimp only [modContents]
  infer_instance

instance itemList_agree [Rules.Alike n g g'] {kind : NodeKind} : Agree n (itemList g kind) (itemList g' kind) := by
  dsimp only [itemList]
  infer_instance

instance assocItemList_agreeBelow [Rules.Alike n g g'] : AgreeBelow n (assocItemList g) (assocItemList g') := by
  dsimp only [assocItemList]
  infer_instance

instance modTail_agree [Rules.Alike n g g'] : Agree n (modTail g) (modTail g') := by
  dsimp only [modTail]
  infer_instance

instance traitTail_agree [Rules.Alike n g g'] : Agree n (traitTail g) (traitTail g') := by
  dsimp only [traitTail]
  infer_instance

instance implType_agreeBelow [Rules.Alike n g g'] : AgreeBelow n (implType g) (implType g') := by
  dsimp only [implType]
  infer_instance

instance implTail_agree [Rules.Alike n g g'] : Agree n (implTail g) (implTail g') := by
  dsimp only [implTail]
  infer_instance

instance macroRulesTail_agree [Rules.Alike n g g'] : Agree n (macroRulesTail g) (macroRulesTail g') := by
  dsimp only [macroRulesTail]
  infer_instance

instance macroDefTail_agree [Rules.Alike n g g'] : Agree n (macroDefTail g) (macroDefTail g') := by
  dsimp only [macroDefTail]
  infer_instance

instance plainItem_agree [Rules.Alike n g g'] : Agree n (plainItem g) (plainItem g') := by
  dsimp only [plainItem]
  infer_instance

instance optDefault_agree : Agree n optDefault optDefault := by
  dsimp only [optDefault]
  infer_instance

instance modifiers_agree {inExtern : Bool} : Agree n (modifiers inExtern) (modifiers inExtern) := by
  dsimp only [modifiers]
  infer_instance

instance itemRule_agree [Rules.Alike n g g'] {inExtern : Bool} :
    Agree n (itemRule g inExtern) (itemRule g' inExtern) := by
  dsimp only [itemRule]
  infer_instance

instance fileRule_agreeBelow [Rules.Alike n g g'] : AgreeBelow n (fileRule g) (fileRule g') := by
  dsimp only [fileRule]
  infer_instance

/-! ## Rules of different depths -/

section

variable {d d' : Nat}

theorem Rules.Alike.first (h : Rules.Alike n (upTo (d + 1)) (upTo (d' + 1))) [Rules.Alike n (upTo d) (upTo d')] :
    Rules.AlikeFirst n (upTo (d + 1)) (upTo (d' + 1)) where
  toAlike := h
  first_attrs := outerAttrsRule_agree
  first_tokenTree := tokenTreeRule_agree
  first_optArgs _ := optArgsRule_agree
  first_block := blockRule_agree
  first_ifExpr := ifExprRule_agree
  first_path _ := pathRule_agree
  first_item _ := itemRule_agree

theorem Rules.Alike.second (h : Rules.Alike n (upTo (d + 1)) (upTo (d' + 1))) [Rules.AlikeFirst n (upTo d) (upTo d')] :
    Rules.AlikeSecond n (upTo (d + 1)) (upTo (d' + 1)) where
  toAlikeFirst := h.first
  second_bounds := boundsRule_agree
  second_useTree := useTreeRule_agree
  second_patternSingle := patternSingleRule_agree
  second_expr _ _ := exprRule_agree
  second_stmt := stmtRule_agree

theorem Rules.AlikeSecond.alike (h : Rules.AlikeSecond n (upTo (d + 1)) (upTo (d' + 1)))
    [Rules.AlikeSecond n (upTo d) (upTo d')] : Rules.Alike (n + 1) (upTo (d + 1)) (upTo (d' + 1)) where
  expr mode power := (h.second_expr mode power).below
  type _ := typeRule_agree.below
  pattern := patternRule_agree.below
  patternSingle := h.second_patternSingle.below
  path mode := (h.first_path mode).below
  optArgs colonsRequired := (h.first_optArgs colonsRequired).below
  bounds := h.second_bounds.below
  block := h.first_block.below
  stmt := h.second_stmt.below
  ifExpr := h.first_ifExpr.below
  attrs := h.first_attrs.below
  item inExtern := (h.first_item inExtern).below
  useTree := h.second_useTree.below
  tokenTree := h.first_tokenTree.below

end

/-- Rules read fewer than `n` lexemes in the same way at all depths from `3 * n` on. -/
theorem Rules.alike_upTo {d d' : Nat} (hd : 3 * n ≤ d) (hd' : 3 * n ≤ d') : Rules.Alike n (upTo d) (upTo d') := by
  induction n generalizing d d' with
  | zero => constructor <;> intros <;> exact agreeBelow_zero _ _
  | succ n ih =>
      obtain ⟨e, rfl⟩ : ∃ e, d = e + 3 := ⟨d - 3, by omega⟩
      obtain ⟨e', rfl⟩ : ∃ e', d' = e' + 3 := ⟨d' - 3, by omega⟩
      have hbelow : ∀ k, Rules.Alike n (upTo (e + k)) (upTo (e' + k)) := fun k => ih (by omega) (by omega)
      -- each of the three levels above those for `n` gives one more kind of rules
      have := hbelow 0
      have : Rules.AlikeFirst n (upTo (e + 1)) (upTo (e' + 1)) := (hbelow 1).first
      have := hbelow 1
      have : Rules.AlikeFirst n (upTo (e + 2)) (upTo (e' + 2)) := (hbelow 2).first
      have : Rules.AlikeSecond n (upTo (e + 2)) (upTo (e' + 2)) := (hbelow 2).second
      have : Rules.AlikeSecond n (upTo (e + 3)) (upTo (e' + 3)) := (hbelow 3).second
      exact this.alike

/-- Deeper rules read nothing else. -/
theorem run_fileRule_eq_of_le {lexemes : Lexemes} (hproper : ∀ l ∈ lexemes, l.Proper) {depth : Nat}
    (h : ruleDepth lexemes.length ≤ depth) : (fileRule (Rules.upTo depth)).run { rest := lexemes } =
      (fileRule (Rules.upTo (ruleDepth lexemes.length))).run { rest := lexemes } := by
  have hdepth : 3 * (lexemes.length + 1) ≤ ruleDepth lexemes.length := by
    unfold ruleDepth
    omega
  have := Rules.alike_upTo (Nat.le_trans hdepth h) hdepth
  exact (fileRule_agreeBelow.agree (Nat.lt_succ_self _)).run_eq (Nat.le_refl _) hproper

/-- The depth of the grammar is enough for every source: one that rules of this depth do not read is not read by deeper
rules, and one that they read has no other shapes. -/
theorem shapesOf?_eq_of_le (source : String) {depth : Nat}
    (h : ruleDepth (lexemesOf (tokenize source)).length ≤ depth) :
    ((fileRule (Rules.upTo depth)).run { rest := lexemesOf (tokenize source) }).map (·.2.built.reverse) =
      shapesOf? (lexemesOf (tokenize source)) := by
  rw [run_fileRule_eq_of_le (fun l => proper_of_mem_lexemes) h]
  rfl

end AsyncLint.Source
