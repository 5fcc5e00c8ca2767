import AsyncLint.Proofs.Effect

/-!
# Regularity of the grammar

The rules of the grammar build regular shapes only. So the tree of every source that parses is regular. There is one
statement for each rule; its proof lets instances find the effect of the rule from its steps and compares it with the
one that is stated. Rules that repeat something need an invariant in addition.
-/

namespace AsyncLint.Source

open Parse

set_option synthInstance.maxSize 200000

/-! ## The rules below -/

/-- What the rules below are relied on for. -/
class Rules.Sound (g : Rules) : Prop where
  expr (mode : ExprMode) (power : Nat) : (g.expr mode power).HasEffect (.adds NodeKind.isExpr)
  type (withBounds : Bool) : (g.type withBounds).HasEffect .any
  pattern : g.pattern.HasEffect (.adds NodeKind.isPattern)
  patternSingle : g.patternSingle.HasEffect (.adds NodeKind.isPattern)
  path (mode : PathMode) : (g.path mode).HasEffect (.node .path)
  optArgs (colonsRequired : Bool) : (g.optArgs colonsRequired).HasEffect (.node? .genericArgList)
  bounds : g.bounds.HasEffect .any
  block : g.block.HasEffect (.node .blockExpr)
  stmt : g.stmt.HasEffect .any
  ifExpr : g.ifExpr.HasEffect (.node .ifExpr)
  attrs : g.attrs.HasEffect fun Q w => ∀ v, Word.Attrs v → Q () (w ++ v)
  item (inExtern : Bool) : (g.item inExtern).HasEffect .anyIf
  useTree : g.useTree.HasEffect (.node .useTree)
  tokenTree : g.tokenTree.HasEffect (.node .tokenTree)

attribute [instance] Rules.Sound.expr Rules.Sound.type Rules.Sound.pattern Rules.Sound.patternSingle Rules.Sound.path
  Rules.Sound.optArgs Rules.Sound.bounds Rules.Sound.block Rules.Sound.stmt Rules.Sound.ifExpr Rules.Sound.attrs
  Rules.Sound.item Rules.Sound.useTree Rules.Sound.tokenTree

variable {g : Rules} [g.Sound]

/-! ## Names -/

/-- A lexeme that is a word can be read as a name. -/
theorem leads_of_name {p q : Progress} {w : Word} {Q : Word → Prop} (hp : p.Has w) (hQ : Q (w ++ [some .name]))
    (hrest : q.rest = p.rest.drop 1) (hbuilt : q.built = .node .name [.tokens 1] :: p.built)
    (hword : (∀ l ∈ p.rest, l.Proper) → ∃ l ∈ p.rest.head?, IsWord l.text) : p.Leads q Q := by
  refine ⟨hrest ▸ List.drop_suffix _ _, fun hproper start hs => ?_, _, hp.push (.node (.free rfl) ?_) hbuilt, hQ⟩
  · rw [hbuilt, hrest, List.reverse_cons]
    exact hs.append (.node (fun _ => ⟨rfl, hword hproper⟩) (.tokens (by simp) .nil) .nil)
  · simpa using Shape.Regular.tokens 1

instance name_effect : name.HasEffect (.node .name) := by
  refine ⟨fun {Q w p q a} hQ hp hrun => ?_⟩
  obtain ⟨_, r, hbody, rfl⟩ := run_node hrun
  obtain ⟨_, _, hlook, hbody⟩ := run_bind hbody
  cases hlook
  split at hbody
  · rename_i hident
    obtain ⟨_, hrest, hbuilt⟩ := run_bump hbody
    refine leads_of_name hp hQ hrest (by simp [hbuilt]) fun hproper => ?_
    cases hp : p.rest with
    | nil => simp [hp, Lexemes.startsIdent, Lexemes.identAt, Lexemes.kind?] at hident
    | cons l ls =>
        simp [hp, Lexemes.startsIdent, Lexemes.identAt, Lexemes.kind?] at hident
        exact ⟨l, rfl, (hproper l (by simp [hp])).ident hident⟩
  · cases hbody

instance selfName_effect : selfName.HasEffect (.node .name) := by
  refine ⟨fun {Q w p q a} hQ hp hrun => ?_⟩
  obtain ⟨_, r, hbody, rfl⟩ := run_node hrun
  obtain ⟨hstarts, hbump⟩ := run_expect hbody
  obtain ⟨_, hrest, hbuilt⟩ := run_bump hbump
  refine leads_of_name hp hQ hrest (by simp [hbuilt]; decide) fun _ => ?_
  cases hp : p.rest with
  | nil => simp [hp, Lexemes.starts] at hstarts
  | cons l ls =>
      refine ⟨l, rfl, ?_⟩
      simp only [hp, Lexemes.starts] at hstarts
      split at hstarts
      · change Lexemes.startsSign ['s', 'e', 'l', 'f'] (l :: ls) = true at hstarts
        simp only [Lexemes.startsSign, Bool.and_eq_true, beq_iff_eq] at hstarts
        rw [hstarts.1.1.2]
        exact .of_all (by decide) (by decide +kernel)
      · rw [beq_iff_eq.mp hstarts]
        exact .of_all (by decide) (by decide +kernel)
      · rw [beq_iff_eq.mp hstarts]
        exact .of_all (by decide) (by decide +kernel)
      · cases hstarts

instance nameRef_effect : nameRef.HasEffect (.node .nameRef) := by
  dsimp only [nameRef]
  exact .weaken fun Q w h => by simp +decide +contextual [h]

instance segmentName_effect : segmentName.HasEffect (.node .nameRef) := by
  dsimp only [segmentName]
  exact .weaken fun Q w h => by simp +decide +contextual [h]

instance fieldName_effect : fieldName.HasEffect (.node .nameRef) := by
  dsimp only [fieldName]
  exact .weaken fun Q w h => by simp +decide +contextual [h]

instance lifetime_effect : lifetime.HasEffect (.node .lifetime) := by
  dsimp only [lifetime]
  exact .weaken fun Q w h => by simp +decide +contextual [h]

instance literal_effect : literal.HasEffect (.node .literal) := by
  dsimp only [literal]
  exact .weaken fun Q w h => by simp +decide +contextual [h]

/-! ## Short rules -/

instance anyExpr_effect : g.anyExpr.HasEffect (.adds NodeKind.isExpr) := by
  dsimp only [Rules.anyExpr]
  exact .weaken fun Q w h => by simp +decide +contextual [h]

instance headExpr_effect : g.headExpr.HasEffect (.adds NodeKind.isExpr) := by
  dsimp only [Rules.headExpr]
  exact .weaken fun Q w h => by simp +decide +contextual [h]

instance boundList_effect : g.boundList.HasEffect (.node .typeBoundList) := by
  dsimp only [Rules.boundList]
  exact .weaken fun Q w h => by simp +decide +contextual [h]

instance colonBounds_effect : g.colonBounds.HasEffect .any := by
  dsimp only [Rules.colonBounds]
  exact .weaken fun Q w h => by simp +decide +contextual [h]

instance ascription_effect : g.ascription.HasEffect .any := by
  dsimp only [Rules.ascription]
  exact .weaken fun Q w h => by simp +decide +contextual [h]

instance optRetType_effect : g.optRetType.HasEffect fun Q w => Q true (w ++ [some .retType]) ∧ Q false w := by
  dsimp only [Rules.optRetType]
  exact .weaken fun Q w h => by simp +decide +contextual [h]

/-! ## Attributes and token trees -/

instance tokenTreeRule_effect : (tokenTreeRule g).HasEffect (.node .tokenTree) := by
  dsimp only [tokenTreeRule]
  refine node_effect_of_any rfl (by decide) (.of_look fun ts => ?_)
  split <;> exact .weaken fun Q w h => by simp +decide [h]

instance macroTail_effect : (macroTail g).HasEffect .any := by
  dsimp only [macroTail]
  exact .weaken fun Q w h => by simp +decide +contextual [h]

instance metaRule_effect : (metaRule g).HasEffect (.node .attrMeta) := by
  dsimp only [metaRule]
  exact .weaken fun Q w h => by simp +decide +contextual [h]

instance outerAttrsRule_effect : (outerAttrsRule g).HasEffect fun Q w => ∀ v, Word.Attrs v → Q () (w ++ v) := by
  dsimp only [outerAttrsRule]
  refine .mono (.loop inferInstance) fun Q w h => ⟨fun v => ∃ u, Word.Attrs u ∧ v = w ++ u, ⟨[], by simp⟩, ?_, ?_⟩
  · rintro _ ⟨u, hu, rfl⟩
    simp +decide [hu, hu.push]
  · rintro _ ⟨u, hu, rfl⟩
    exact h u hu

instance innerAttrs_effect : (innerAttrs g).HasEffect .any := by
  dsimp only [innerAttrs]
  exact .weaken fun Q w h => by simp +decide +contextual [h]

/-! ## Paths and generic arguments -/

instance fnTraitParams_effect : (fnTraitParams g).HasEffect (.node .paramList) := by
  dsimp only [fnTraitParams]
  exact .weaken fun Q w h => by simp +decide +contextual [h]

instance optTypeSegmentArgs_effect : (optTypeSegmentArgs g).HasEffect .any := by
  dsimp only [optTypeSegmentArgs]
  exact .weaken fun Q w h => by simp +decide +contextual [h]

instance optMoreBounds_effect : (optMoreBounds g).HasEffect .any := by
  dsimp only [optMoreBounds]
  exact .weaken fun Q w h => by simp +decide +contextual [h]

instance pathType_effect {withBounds : Bool} : (pathType g withBounds).HasEffect .any := by
  dsimp only [pathType]
  exact .weaken fun Q w h => by simp +decide +contextual [h]

instance pathSegment_effect {mode : PathMode} {first : Bool} :
    (pathSegment g mode first).HasEffect (.node .pathSegment) := by
  cases mode
  all_goals
    dsimp only [pathSegment]
    exact .weaken fun Q w h => by simp +decide +contextual [h]

instance morePath_effect {mode : PathMode} :
    (morePath g mode).HasEffect fun Q w => w = [some .path] ∧ Q () [some .path] := by
  dsimp only [morePath]
  refine .mono (.loop inferInstance) fun Q w h => ⟨fun v => v = [some .path], h.1, ?_, fun v hv => hv ▸ h.2⟩
  rintro _ rfl
  simp +decide

instance pathRule_effect {mode : PathMode} : (pathRule g mode).HasEffect (.node .path) := by
  dsimp only [pathRule]
  exact .weaken fun Q w h => by simp +decide +contextual [h]

instance constArg_effect : (constArg g).HasEffect (.node .constArg) := by
  dsimp only [constArg]
  exact .weaken fun Q w h => by simp +decide +contextual [h]

instance namedArg_effect : (namedArg g).HasEffect .any := by
  dsimp only [namedArg]
  exact .weaken fun Q w h => by simp +decide +contextual [h]

instance genericArg_effect : (genericArg g).HasEffect .any := by
  dsimp only [genericArg]
  exact .weaken fun Q w h => by simp +decide +contextual [h]

instance optArgsRule_effect {colonsRequired : Bool} :
    (optArgsRule g colonsRequired).HasEffect (.node? .genericArgList) := by
  dsimp only [optArgsRule]
  exact .weaken fun Q w h => by simp +decide +contextual [h]

/-! ## Generic parameters, bounds and conditions -/

instance lifetimeBounds_effect : lifetimeBounds.HasEffect (.node .typeBoundList) := by
  dsimp only [lifetimeBounds]
  exact .weaken fun Q w h => by simp +decide +contextual [h]

instance genericParam_effect : (genericParam g).HasEffect .any := by
  dsimp only [genericParam]
  exact .weaken fun Q w h => by simp +decide +contextual [h]

instance genericParamList_effect : (genericParamList g).HasEffect (.node .genericParamList) := by
  dsimp only [genericParamList]
  exact .weaken fun Q w h => by simp +decide +contextual [h]

instance optGenericParamList_effect : (optGenericParamList g).HasEffect .any := by
  dsimp only [optGenericParamList]
  exact .weaken fun Q w h => by simp +decide +contextual [h]

instance forBinder_effect : (forBinder g).HasEffect .any := by
  dsimp only [forBinder]
  exact .weaken fun Q w h => by simp +decide +contextual [h]

instance forType_effect {withBounds : Bool} : (forType g withBounds).HasEffect .any := by
  dsimp only [forType]
  exact .weaken fun Q w h => by simp +decide +contextual [h]

instance traitBound_effect : (traitBound g).HasEffect .any := by
  dsimp only [traitBound]
  exact .weaken fun Q w h => by simp +decide +contextual [h]

instance captures_effect : captures.HasEffect (.node .useBoundList) := by
  dsimp only [captures]
  exact .weaken fun Q w h => by simp +decide +contextual [h]

instance typeBound_effect : (typeBound g).HasEffect .any := by
  dsimp only [typeBound]
  exact .weaken fun Q w h => by simp +decide +contextual [h]

instance boundsRule_effect : (boundsRule g).HasEffect .any := by
  dsimp only [boundsRule]
  exact .weaken fun Q w h => by simp +decide +contextual [h]

instance wherePred_effect : (wherePred g).HasEffect (.node .wherePred) := by
  dsimp only [wherePred]
  exact .weaken fun Q w h => by simp +decide +contextual [h]

instance optWhereClause_effect : (optWhereClause g).HasEffect .any := by
  dsimp only [optWhereClause]
  exact .weaken fun Q w h => by simp +decide +contextual [h]

/-! ## Types -/

instance abi_effect : abi.HasEffect (.node .abi) := by
  dsimp only [abi]
  exact .weaken fun Q w h => by simp +decide +contextual [h]

instance parenOrTupleType_effect : (parenOrTupleType g).HasEffect .any := by
  dsimp only [parenOrTupleType]
  exact .weaken fun Q w h => by simp +decide +contextual [h]

instance arrayOrSliceType_effect : (arrayOrSliceType g).HasEffect .any := by
  dsimp only [arrayOrSliceType]
  exact .weaken fun Q w h => by simp +decide +contextual [h]

instance fnPtrParams_effect : (fnPtrParams g).HasEffect (.node .paramList) := by
  dsimp only [fnPtrParams]
  exact .weaken fun Q w h => by simp +decide +contextual [h]

instance fnPtrType_effect : (fnPtrType g).HasEffect (.node .fnPtrType) := by
  dsimp only [fnPtrType]
  exact .weaken fun Q w h => by simp +decide +contextual [h]

instance pathOrMacroType_effect {withBounds : Bool} : (pathOrMacroType g withBounds).HasEffect .any := by
  dsimp only [pathOrMacroType]
  exact .weaken fun Q w h => by simp +decide +contextual [h]

instance typeRule_effect {withBounds : Bool} : (typeRule g withBounds).HasEffect .any := by
  dsimp only [typeRule]
  exact .weaken fun Q w h => by simp +decide +contextual [h]

/-! ## Patterns -/

instance identPat_effect {withAt : Bool} : (identPat g withAt).HasEffect (.node .identPat) := by
  dsimp only [identPat]
  exact .weaken fun Q w h => by simp +decide +contextual [h]

instance boxPat_effect : (boxPat g).HasEffect (.node .boxPat) := by
  dsimp only [boxPat]
  exact .weaken fun Q w h => by simp +decide +contextual [h]

instance patList_effect {closing : String} : (patList g closing).HasEffect .any := by
  dsimp only [patList]
  exact .weaken fun Q w h => by simp +decide +contextual [h]

instance recordPatField_effect : (recordPatField g).HasEffect .any := by
  dsimp only [recordPatField]
  exact .weaken fun Q w h => by simp +decide +contextual [h]

instance recordPatFieldList_effect : (recordPatFieldList g).HasEffect (.node .recordPatFieldList) := by
  dsimp only [recordPatFieldList]
  exact .weaken fun Q w h => by simp +decide +contextual [h]

instance pathPat_effect : (pathPat g).HasEffect (.adds NodeKind.isPattern) := by
  dsimp only [pathPat]
  exact .weaken fun Q w h => by simp +decide +contextual [h]

instance parenOrTuplePat_effect : (parenOrTuplePat g).HasEffect (.adds NodeKind.isPattern) := by
  dsimp only [parenOrTuplePat]
  exact .weaken fun Q w h => by simp +decide +contextual [h]

instance atomPat_effect : (atomPat g).HasEffect (.adds NodeKind.isPattern) := by
  dsimp only [atomPat]
  exact .weaken fun Q w h => by simp +decide +contextual [h]

instance patternSingleRule_effect : (patternSingleRule g).HasEffect (.adds NodeKind.isPattern) := by
  dsimp only [patternSingleRule]
  refine .mono (.isolate (.bind inferInstance fun ts => .ite inferInstance (.ite inferInstance (.bind inferInstance
    fun _ => .of_look (F := fun Q w => Q () w ∧ Q () [some .rangePat]) fun ts => ?_)))) ?_
  · split <;> exact .weaken fun Q w h => by simp +decide +contextual [h]
  · exact fun Q w h => by simp +decide +contextual [h]

instance patternRule_effect : (patternRule g).HasEffect (.adds NodeKind.isPattern) := by
  dsimp only [patternRule]
  exact .weaken fun Q w h => by simp +decide +contextual [h]

/-! ## Parts of expressions -/

instance argList_effect : (argList g).HasEffect (.node .argList) := by
  have := @delimited_invariant
  dsimp only [argList]
  refine .weaken fun Q w h => ⟨fun v => ∀ k ∈ v.reduceOption, k.isExpr = true, by simp, ?_, ?_⟩
  · intro v hv b k hk
    simpa [List.reduceOption_append, or_imp, forall_and, hk] using hv
  · intro v hv
    simpa [List.reduceOption_append, h] using NodeKind.Admits.argList hv

instance stmtList_effect : (stmtList g).HasEffect (.node .stmtList) := by
  dsimp only [stmtList]
  exact .weaken fun Q w h => by simp +decide +contextual [h]

instance recordExprField_effect : (recordExprField g).HasEffect .any := by
  dsimp only [recordExprField]
  exact .weaken fun Q w h => by simp +decide +contextual [h]

instance recordExprFieldList_effect : (recordExprFieldList g).HasEffect (.node .recordExprFieldList) := by
  dsimp only [recordExprFieldList]
  exact .weaken fun Q w h => by simp +decide +contextual [h]

instance pathExpr_effect {mode : ExprMode} : (pathExpr g mode).HasEffect (.adds NodeKind.isExpr) := by
  dsimp only [pathExpr]
  exact .weaken fun Q w h => by simp +decide +contextual [h]

instance parenOrTupleExpr_effect : (parenOrTupleExpr g).HasEffect (.adds NodeKind.isExpr) := by
  dsimp only [parenOrTupleExpr]
  exact .weaken fun Q w h => by simp +decide +contextual [h]

instance arrayExpr_effect : (arrayExpr g).HasEffect (.node .arrayExpr) := by
  dsimp only [arrayExpr]
  exact .weaken fun Q w h => by simp +decide +contextual [h]

instance closureParams_effect : (closureParams g).HasEffect (.node .paramList) := by
  dsimp only [closureParams]
  exact .weaken fun Q w h => by simp +decide +contextual [h]

instance closureExpr_effect : (closureExpr g).HasEffect (.node .closureExpr) := by
  dsimp only [closureExpr]
  exact .weaken fun Q w h => by simp +decide +contextual [h]

instance ifExprRule_effect : (ifExprRule g).HasEffect (.node .ifExpr) := by
  dsimp only [ifExprRule]
  exact .weaken fun Q w h => by simp +decide +contextual [h]

instance matchArm_effect : (matchArm g).HasEffect (.node .matchArm) := by
  dsimp only [matchArm]
  exact .weaken fun Q w h => by simp +decide +contextual [h]

instance matchExpr_effect : (matchExpr g).HasEffect (.node .matchExpr) := by
  dsimp only [matchExpr]
  exact .weaken fun Q w h => by simp +decide +contextual [h]

instance jumpExpr_effect {kind : NodeKind} {word : String} :
    (jumpExpr g kind word).HasEffect fun Q w => kind ≠ .name ∧ kind.isFree = true ∧ Q () (w ++ [some kind]) := by
  dsimp only [jumpExpr]
  exact .weaken fun Q w h => by simp +decide +contextual [h]

instance breakExpr_effect {mode : ExprMode} : (breakExpr g mode).HasEffect (.node .breakExpr) := by
  dsimp only [breakExpr]
  exact .weaken fun Q w h => by simp +decide +contextual [h]

instance loopTail_effect : (loopTail g).HasEffect (.turns fun w => w = [] ∨ w = [some .label]) := by
  dsimp only [loopTail]
  refine .weaken fun Q w h => ?_
  obtain ⟨rfl | rfl, h⟩ := h <;> simp +decide +contextual [h]

/-! ## Expressions -/

instance atomExpr_effect {mode : ExprMode} : (atomExpr g mode).HasEffect (.adds NodeKind.isExpr) := by
  dsimp only [atomExpr]
  exact .weaken fun Q w h => by simp +decide +contextual [h]

instance blockRule_effect : (blockRule g).HasEffect (.node .blockExpr) := by
  dsimp only [blockRule]
  exact .weaken fun Q w h => by simp +decide +contextual [h]

instance afterDot_effect : (afterDot g).HasEffect (.turns fun w => ∃ k, k.isExpr = true ∧ w = [some k, none]) := by
  dsimp only [afterDot]
  refine .weaken fun Q w h => ?_
  obtain ⟨⟨k, hk, rfl⟩, h⟩ := h
  simp +decide +contextual [h, hk]

theorem regular_field {ss : List Shape} {kind : TokenKind} {length : Nat} (h : ∀ s ∈ ss, s.Regular) :
    (Shape.node .fieldExpr (ss ++ [.node .nameRef [.part kind length]])).Regular := by
  refine .node (.free rfl) fun s hs => ?_
  rcases List.mem_append.mp hs with hs | hs
  · exact h s hs
  · rw [List.mem_singleton.mp hs]
    exact .node .nameRef (by simpa using Shape.Regular.part kind length)

/-- The parts of a number with a point are read off it, one after the other. -/
theorem splitFloat_effect {t : Lexeme} {ts : Lexemes} : HasEffectAt (t :: ts) (splitFloat g t.text)
    (.turns fun w => ∃ k, k.isExpr = true ∧ w = [some k, none]) := by
  refine ⟨fun {Q w p q a} hrest ⟨_, hQ⟩ hp hrun => ?_⟩
  dsimp only [splitFloat] at hrun
  split at hrun
  · cases hrun
  · rename_i hne
    have hle := (t.text.toList.takeWhile_prefix (· != '.')).length_le
    generalize (t.text.toList.takeWhile (· != '.')).length = left at hrun hne hle
    have hlt : left < t.text.toList.length := by simp at hne; omega
    obtain ⟨_, _, hskip, hrun⟩ := run_bind hrun
    cases hskip
    obtain ⟨_, _, hname, hrun⟩ := run_bind hrun
    obtain ⟨_, _, hemit, rfl⟩ := run_node hname
    cases hemit
    obtain ⟨_, _, hwrap, hrun⟩ := run_bind hrun
    cases hwrap
    obtain ⟨_, _, hemit, hrun⟩ := run_bind hrun
    cases hemit
    simp only [hrest, List.drop_succ_cons, List.drop_zero, List.reverse_cons] at hrun
    -- the first field and the point, before it is known what is left of the number
    have hreads : ∀ start, Reads p.built.reverse start p.rest →
        Reads ([.node .fieldExpr (p.built.reverse ++ [.node .nameRef [.part .int left]])] ++ [.part .punct 1]) start
          (Lexeme.cut { t with text := String.ofList (t.text.toList.drop left) } 1 ts) := by
      intro start hs
      have hfield := (hrest ▸ hs).field .int left
      rw [Lexeme.cut_of_lt hlt] at hfield
      exact hfield.append (.part .nil)
    have hregular : (Shape.node .fieldExpr (p.built.reverse ++ [.node .nameRef [.part .int left]])).Regular :=
      regular_field fun s hs => hp.regular s (List.mem_reverse.mp hs)
    split at hrun
    · rename_i hend
      have hend : left + 1 = t.text.toList.length := by simpa using hend
      refine Progress.Leads.trans (Q := (· = [some .fieldExpr, none])) ⟨?_, fun _ start hs => ?_, _, ⟨?_, rfl⟩, rfl⟩
        fun v hv hw => afterDot_effect.leads ⟨⟨.fieldExpr, rfl, hw⟩, hQ⟩ hv hrun
      · exact hrest ▸ List.suffix_cons t ts
      · have hpoint := hreads start hs
        rwa [Lexeme.cut_of_le (by simp; omega)] at hpoint
      · simp [hregular, Shape.Regular.part]
    · rename_i hend
      have hend : left + 1 < t.text.toList.length := by simp at hend; omega
      obtain ⟨_, _, hname, hrun⟩ := run_bind hrun
      obtain ⟨_, _, hemit, rfl⟩ := run_node hname
      cases hemit
      cases hrun
      refine ⟨hrest ▸ List.suffix_cons t ts, fun _ start hs => ?_, _, ⟨?_, rfl⟩, hQ _ _ rfl⟩
      · have hpoint := hreads start hs
        rw [Lexeme.cut_of_lt (by simp; omega)] at hpoint
        have hsecond := hpoint.field .int (t.text.toList.length - left - 1)
        rwa [Lexeme.cut_of_le (by simp; omega)] at hsecond
      · intro s hs
        obtain rfl := List.mem_singleton.mp hs
        change (Shape.node .fieldExpr ([_, _] ++ [_])).Regular
        exact regular_field (by simp [hregular, Shape.Regular.part])

instance postfixOps_effect {callsAllowed : Bool} :
    (postfixOps g callsAllowed).HasEffect (.turns fun w => ∃ k, k.isExpr = true ∧ w = [some k]) := by
  dsimp only [postfixOps]
  refine .mono (.bind inferInstance fun start => .bind (.loop (.bind inferInstance fun ts => .ite inferInstance
    (.ite inferInstance (.ite inferInstance (.ite (.bind inferInstance fun _ => .of_look_at (F := fun Q w =>
      (∃ k, k.isExpr = true ∧ w = [some k, none]) ∧ ∀ k, k.isExpr = true → Q true [some k]) fun ts => ?_)
        inferInstance))))) fun _ => inferInstance) ?_
  · split
    · split
      · exact (splitFloat_effect.bind fun _ => inferInstance).mono fun Q w h => by simp +decide +contextual [h]
      · exact HasEffect.at (.weaken fun Q w h => by simp +decide +contextual [h])
    · exact HasEffect.at (.weaken fun Q w h => by simp +decide +contextual)
  · intro Q w h start
    refine ⟨fun v => ∃ k, k.isExpr = true ∧ v = [some k], h.1, ?_, ?_⟩
    · rintro _ ⟨k, hk, rfl⟩
      simp +decide +contextual [hk]
    · rintro _ ⟨k, hk, rfl⟩
      simp +decide +contextual [h, hk]

instance unaryExpr_effect {mode : ExprMode} : (unaryExpr g mode).HasEffect (.adds NodeKind.isExpr) := by
  dsimp only [unaryExpr]
  refine .mono (.isolate (.bind inferInstance fun ts => .ite inferInstance
    (.ite (G := .turns (· = [])) inferInstance ?_))) ?_
  · split <;> exact .weaken fun Q w h => by simp +decide +contextual [h]
  · exact fun Q w h => by simp +decide +contextual [h]

instance binaryTail_effect {mode : ExprMode} {power : Nat} :
    (binaryTail g mode power).HasEffect (.turns fun w => ∃ k, k.isExpr = true ∧ w = [some k]) := by
  dsimp only [binaryTail]
  refine .mono (.loop (.of_look (F := .turns fun w => ∃ k, k.isExpr = true ∧ w = [some k]) fun ts => ?_))
    fun Q w h => ?_
  · split
    · refine .weaken fun Q w h => ?_
      obtain ⟨⟨k, hk, rfl⟩, h⟩ := h
      simp +decide +contextual [h, hk]
    · refine .weaken fun Q w h => ?_
      obtain ⟨⟨k, hk, rfl⟩, h⟩ := h
      exact h false k hk
  · refine ⟨fun v => ∃ k, k.isExpr = true ∧ v = [some k], h.1, fun v hv => ⟨hv, fun _ k hk => ⟨k, hk, rfl⟩⟩, ?_⟩
    rintro _ ⟨k, hk, rfl⟩
    exact h.2 () k hk

instance exprTail_effect {mode : ExprMode} {power : Nat} :
    (exprTail g mode power).HasEffect (.turns Word.Attrs) := by
  dsimp only [exprTail]
  exact .weaken fun Q w h => by simp +decide +contextual [h]

instance exprRule_effect {mode : ExprMode} {power : Nat} :
    (exprRule g mode power).HasEffect (.adds NodeKind.isExpr) := by
  dsimp only [exprRule]
  exact .weaken fun Q w h => by simp +decide +contextual [h]

instance letTail_effect : (letTail g).HasEffect .any := by
  dsimp only [letTail]
  exact .weaken fun Q w h => by simp +decide +contextual [h]

instance stmtRule_effect : (stmtRule g).HasEffect .any := by
  dsimp only [stmtRule]
  exact .weaken fun Q w h => by simp +decide +contextual [h]

/-! ## Items -/

instance optVisibility_effect {inTupleField : Bool} : (optVisibility g inTupleField).HasEffect .any := by
  dsimp only [optVisibility]
  exact .weaken fun Q w h => by simp +decide +contextual [h]

instance selfParamTail_effect : (selfParamTail g).HasEffect .any := by
  dsimp only [selfParamTail]
  exact .weaken fun Q w h => by simp +decide +contextual [h]

instance fnParamTail_effect : (fnParamTail g).HasEffect .any := by
  dsimp only [fnParamTail]
  exact .weaken fun Q w h => by simp +decide +contextual [h]

instance fnParams_effect : (fnParams g).HasEffect (.node .paramList) := by
  dsimp only [fnParams]
  exact .weaken fun Q w h => by simp +decide +contextual [h]

instance fnTail_effect : (fnTail g).HasEffect .any := by
  dsimp only [fnTail]
  exact .weaken fun Q w h => by simp +decide +contextual [h]

instance constTail_effect : (constTail g).HasEffect .any := by
  dsimp only [constTail]
  exact .weaken fun Q w h => by simp +decide +contextual [h]

instance staticTail_effect : (staticTail g).HasEffect .any := by
  dsimp only [staticTail]
  exact .weaken fun Q w h => by simp +decide +contextual [h]

instance typeAliasTail_effect : (typeAliasTail g).HasEffect .any := by
  dsimp only [typeAliasTail]
  exact .weaken fun Q w h => by simp +decide +contextual [h]

instance recordFieldList_effect : (recordFieldList g).HasEffect (.node .recordFieldList) := by
  dsimp only [recordFieldList]
  exact .weaken fun Q w h => by simp +decide +contextual [h]

instance tupleFieldList_effect : (tupleFieldList g).HasEffect (.node .tupleFieldList) := by
  dsimp only [tupleFieldList]
  exact .weaken fun Q w h => by simp +decide +contextual [h]

instance structTail_effect {isStruct : Bool} : (structTail g isStruct).HasEffect .any := by
  dsimp only [structTail]
  exact .weaken fun Q w h => by simp +decide +contextual [h]

instance variant_effect : (variant g).HasEffect (.node .variant) := by
  dsimp only [variant]
  exact .weaken fun Q w h => by simp +decide +contextual [h]

instance enumTail_effect : (enumTail g).HasEffect .any := by
  dsimp only [enumTail]
  exact .weaken fun Q w h => by simp +decide +contextual [h]

instance optRename_effect : optRename.HasEffect .any := by
  dsimp only [optRename]
  exact .weaken fun Q w h => by simp +decide +contextual [h]

instance useTreeList_effect : (useTreeList g).HasEffect (.node .useTreeList) := by
  dsimp only [useTreeList]
  exact .weaken fun Q w h => by simp +decide +contextual [h]

instance useTreeRule_effect : (useTreeRule g).HasEffect (.node .useTree) := by
  dsimp only [useTreeRule]
  exact .weaken fun Q w h => by simp +decide +contextual [h]

instance itemOrMacro_effect {inExtern : Bool} : (itemOrMacro g inExtern).HasEffect .any := by
  dsimp only [itemOrMacro]
  exact .weaken fun Q w h => by simp +decide +contextual [h]

instance modContents_effect : (modContents g).HasEffect .any := by
  dsimp only [modContents]
  exact .weaken fun Q w h => by simp +decide +contextual [h]

instance itemList_effect {kind : NodeKind} :
    (itemList g kind).HasEffect fun Q w => kind ≠ .name ∧ kind.isFree = true ∧ Q () (w ++ [some kind]) := by
  dsimp only [itemList]
  exact .weaken fun Q w h => by simp +decide +contextual [h]

instance assocItemList_effect : (assocItemList g).HasEffect (.node .assocItemList) := by
  dsimp only [assocItemList]
  exact .weaken fun Q w h => by simp +decide +contextual [h]

instance modTail_effect : (modTail g).HasEffect .any := by
  dsimp only [modTail]
  exact .weaken fun Q w h => by simp +decide +contextual [h]

instance traitTail_effect : (traitTail g).HasEffect .any := by
  dsimp only [traitTail]
  exact .weaken fun Q w h => by simp +decide +contextual [h]

instance implType_effect : (implType g).HasEffect .any := by
  dsimp only [implType]
  exact .weaken fun Q w h => by simp +decide +contextual [h]

instance implTail_effect : (implTail g).HasEffect .any := by
  dsimp only [implTail]
  exact .weaken fun Q w h => by simp +decide +contextual [h]

instance macroRulesTail_effect : (macroRulesTail g).HasEffect .any := by
  dsimp only [macroRulesTail]
  exact .weaken fun Q w h => by simp +decide +contextual [h]

instance macroDefTail_effect : (macroDefTail g).HasEffect .any := by
  dsimp only [macroDefTail]
  exact .weaken fun Q w h => by simp +decide +contextual [h]

instance plainItem_effect : (plainItem g).HasEffect .anyIf := by
  dsimp only [plainItem]
  exact .weaken fun Q w h => by simp +decide +contextual [h]

instance optDefault_effect : optDefault.HasEffect .any := by
  dsimp only [optDefault]
  exact .weaken fun Q w h => by simp +decide +contextual [h]

instance modifiers_effect {inExtern : Bool} : (modifiers inExtern).HasEffect .any := by
  dsimp only [modifiers]
  exact .weaken fun Q w h => by simp +decide +contextual [h]

/-! ## Modifiers without an item -/

instance abi_advances : abi.Advances := by
  dsimp only [abi]
  exact node_advances (by simp)

instance optVisibility_advances {inTupleField : Bool} : (optVisibility g inTupleField).Advances := by
  dsimp only [optVisibility]
  exact @bind_advances _ _ _ _ _ fun _ =>
    @ite_advances _ _ _ _ _ (@bind_advances _ _ _ _ (node_advances (by simp)) _) _

instance optDefault_advances : optDefault.Advances := by
  dsimp only [optDefault]
  infer_instance

instance modifiers_advances {inExtern : Bool} : (modifiers inExtern).Advances := by
  dsimp only [modifiers]
  infer_instance

theorem itemRule_any {inExtern : Bool} : (itemRule g inExtern).HasEffect .any := by
  dsimp only [itemRule]
  exact .weaken fun Q w h => by simp +decide +contextual [h]

/-- Where no item is found, visibility and modifiers have not been found either. -/
theorem has_of_itemRule_false {inExtern : Bool} {w : Word} {p q : Progress} (hp : p.Has w)
    (hrun : (itemRule g inExtern).run p = some (false, q)) : q.Has w := by
  dsimp only [itemRule] at hrun
  obtain ⟨_, _, hlook, hrun⟩ := run_bind hrun
  cases hlook
  obtain ⟨_, p₁, hvis, hrun⟩ := run_bind hrun
  obtain ⟨isPlain, p₂, hplain, hrun⟩ := run_bind hrun
  cases isPlain with
  | true => cases hrun
  | false =>
      obtain ⟨foreign, p₃, hmods, hrun⟩ := run_bind hrun
      obtain ⟨_, _, v₁, hv₁, -⟩ := optVisibility_effect.leads (Q := fun _ _ => True) (by simp) hp hvis
      obtain ⟨hle, _, v₂, hv₂, hv⟩ := plainItem_effect.leads (Q := fun b v => b = false → v = v₁) (by simp) hv₁ hplain
      obtain rfl := hv rfl
      have hle := hle.length_le
      obtain ⟨_, _, v₃, hv₃, -⟩ := modifiers_effect.leads (Q := fun _ _ => True) (by simp) hv₂ hmods
      obtain ⟨_, _, hlook, hrun⟩ := run_bind hrun
      cases hlook
      obtain ⟨-, -, v, hv, h⟩ := HasEffect.leads
        (Q := fun b v => b = false → ¬ p₃.rest.length < p.rest.length ∧ v = v₃) (by simp +decide +contextual) hv₃ hrun
      obtain ⟨hread, rfl⟩ := h rfl
      rcases modifiers_advances.moves hmods with hlt | rfl
      · rcases optVisibility_advances.moves hvis with hlt' | rfl <;> omega
      · rcases optVisibility_advances.moves hvis with hlt | rfl
        · omega
        · obtain rfl := hp.word.symm.trans hv₁.word
          obtain rfl := hv₂.word.symm.trans hv₃.word
          exact hv

instance itemRule_effect {inExtern : Bool} : (itemRule g inExtern).HasEffect .anyIf := by
  refine ⟨fun {Q w p q a} hQ hp hrun => ?_⟩
  obtain ⟨hrest, hkeeps, v, hv, -⟩ := itemRule_any.leads (Q := fun _ _ => True) (fun _ _ => trivial) hp hrun
  cases a with
  | true => exact ⟨hrest, hkeeps, v, hv, hQ.1 v⟩
  | false => exact ⟨hrest, hkeeps, w, has_of_itemRule_false hp hrun, hQ.2⟩

instance fileRule_effect : (fileRule g).HasEffect .any := by
  dsimp only [fileRule]
  exact .weaken fun Q w h => by simp +decide +contextual [h]

/-! ## Sources -/

instance Rules.none_sound : Rules.none.Sound where
  expr _ _ := failure_effect.mono fun _ _ _ => trivial
  type _ := failure_effect.mono fun _ _ _ => trivial
  pattern := failure_effect.mono fun _ _ _ => trivial
  patternSingle := failure_effect.mono fun _ _ _ => trivial
  path _ := failure_effect.mono fun _ _ _ => trivial
  optArgs _ := failure_effect.mono fun _ _ _ => trivial
  bounds := failure_effect.mono fun _ _ _ => trivial
  block := failure_effect.mono fun _ _ _ => trivial
  stmt := failure_effect.mono fun _ _ _ => trivial
  ifExpr := failure_effect.mono fun _ _ _ => trivial
  attrs := failure_effect.mono fun _ _ _ => trivial
  item _ := failure_effect.mono fun _ _ _ => trivial
  useTree := failure_effect.mono fun _ _ _ => trivial
  tokenTree := failure_effect.mono fun _ _ _ => trivial

instance Rules.upTo_sound (depth : Nat) : (Rules.upTo depth).Sound := by
  induction depth with
  | zero => exact Rules.none_sound
  | succ depth ih =>
      exact
        { expr := fun _ _ => exprRule_effect
          type := fun _ => typeRule_effect
          pattern := patternRule_effect
          patternSingle := patternSingleRule_effect
          path := fun _ => pathRule_effect
          optArgs := fun _ => optArgsRule_effect
          bounds := boundsRule_effect
          block := blockRule_effect
          stmt := stmtRule_effect
          ifExpr := ifExprRule_effect
          attrs := outerAttrsRule_effect
          item := fun _ => itemRule_effect
          useTree := useTreeRule_effect
          tokenTree := tokenTreeRule_effect }

theorem shapesOf?_regular {lexemes : Lexemes} {shapes : List Shape} (h : shapesOf? lexemes = some shapes) :
    ∀ s ∈ shapes, s.Regular := by
  obtain ⟨⟨_, p⟩, hrun, rfl⟩ := Option.map_eq_some_iff.mp h
  obtain ⟨_, _, _, hp, _⟩ := fileRule_effect.leads (Q := fun _ _ => True) (fun _ _ => trivial) (.nil rfl) hrun
  exact fun s hs => hp.regular s (List.mem_reverse.mp hs)

theorem shapesOf?_reads {lexemes : Lexemes} {shapes : List Shape} (h : shapesOf? lexemes = some shapes)
    (hproper : ∀ l ∈ lexemes, l.Proper) : ∃ out, Reads shapes lexemes out := by
  obtain ⟨⟨_, p⟩, hrun, rfl⟩ := Option.map_eq_some_iff.mp h
  have hleads := fileRule_effect.leads (Q := fun _ _ => True) (fun _ _ => trivial) (.nil rfl) hrun
  exact ⟨p.rest, hleads.keeps hproper lexemes .nil⟩

theorem exists_shapes_of_parse? {source : String} {tree : SyntaxTree} (h : parse? source = some tree) :
    ∃ shapes, shapesOf? (lexemesOf (tokenize source)) = some shapes ∧ fillFile shapes (tokenize source) = tree := by
  obtain ⟨_, _, h⟩ := Option.bind_eq_some_iff.mp h
  obtain ⟨shapes, hshapes, h⟩ := Option.bind_eq_some_iff.mp h
  obtain ⟨_, _, htree⟩ := Option.bind_eq_some_iff.mp h
  cases htree
  exact ⟨shapes, hshapes, rfl⟩

/-- The tree of every source is regular. -/
theorem parse?_regular {source : String} {tree : SyntaxTree} (h : parse? source = some tree) : tree.Regular := by
  obtain ⟨shapes, hshapes, rfl⟩ := exists_shapes_of_parse? h
  exact fillFile_regular (shapesOf?_regular hshapes) _

end AsyncLint.Source
