import AsyncLint.Proofs.Lookup
import AsyncLint.Proofs.Trimming

/-!
# Foreign paths

A path is foreign to a module if its first segment is neither a keyword nor a type nor a module in it. What stands
behind such a path is not resolved, whatever the source declares under the same names, as long as the path does not go
back up to where it started. Two colons before a path make no difference. All other paths lead along modules of the
source, and stand for the only function there that fits.
-/

namespace AsyncLint

open Source Text

/-! ## Segments -/

namespace Text

/-- Whether a name in a path can be followed by `c`. -/
def endsSegment (c : Char) : Bool :=
  isBlank c || c == ':' || c == '<'

/-- The code points of these characters. -/
def segmentEnds : List Nat :=
  List.range' 0x9 5 ++ List.range' 0x2000 11 ++
    [0x20, 0x85, 0xa0, 0x1680, 0x2028, 0x2029, 0x202f, 0x205f, 0x3000, 0x3a, 0x3c]

theorem mem_segmentEnds {c : Char} (h : endsSegment c = true) : c.toNat ∈ segmentEnds := by
  simp only [endsSegment, isBlank, Bool.or_eq_true, Bool.and_eq_true, decide_eq_true_eq, beq_iff_eq] at h
  rcases h with (h | rfl) | rfl
  · simp only [segmentEnds, List.mem_append, List.mem_range'_1, List.mem_cons, List.not_mem_nil, or_false]
    omega
  · decide
  · decide

/-- What is dropped consists of characters of the part. -/
theorem dropCopies_append (part cs : List Char) :
    ∃ copies, cs = copies ++ dropCopies part cs ∧ ∀ c ∈ copies, c ∈ part := by
  fun_induction dropCopies part cs with
  | case1 cs h ih =>
      obtain ⟨copies, hcs, hmem⟩ := ih
      obtain ⟨rest, rfl⟩ := List.isPrefixOf_iff_prefix.mp h.2
      rw [List.drop_left] at hcs
      refine ⟨part ++ copies, by rw [List.append_assoc, List.drop_left, ← hcs], ?_⟩
      simpa [or_imp, forall_and] using hmem
  | case2 => exact ⟨[], rfl, by simp⟩

theorem dropTrailingCopies_append (part cs : List Char) :
    ∃ copies, cs = dropTrailingCopies part cs ++ copies ∧ ∀ c ∈ copies, c ∈ part := by
  obtain ⟨copies, hcs, hmem⟩ := dropCopies_append part.reverse cs.reverse
  refine ⟨copies.reverse, ?_, by simpa using hmem⟩
  rw [dropTrailingCopies, ← List.reverse_append, ← hcs, List.reverse_reverse]

theorem endsSegment_head?_append {cs rest : List Char} (h : ∀ c ∈ cs, endsSegment c = true)
    (hrest : ∀ c ∈ rest.head?, endsSegment c = true) : ∀ c ∈ (cs ++ rest).head?, endsSegment c = true := by
  cases cs with
  | nil => exact hrest
  | cons c cs => simpa using h c List.mem_cons_self

end Text

theorem not_isWordChar_of_endsSegment {c : Char} (h : endsSegment c = true) : isWordChar c = false := by
  have hall : ∀ n ∈ segmentEnds, isWordChar (Char.ofNat n) = false := by decide +kernel
  simpa using hall _ (mem_segmentEnds h)

namespace Source.SyntaxTree

/-- The text of a segment from its name on. -/
def nameText (segment : SyntaxTree) : List Char :=
  trimStart (dropCopies [':', ':'] segment.text.toList)

/-- The word that a segment starts with. -/
def word (segment : SyntaxTree) : String :=
  String.ofList (segment.nameText.takeWhile isWordChar)

/-- Whether a segment names a type. -/
def startsUpper (segment : SyntaxTree) : Bool :=
  segment.nameText.head?.any isUpper

variable {segment : SyntaxTree} {n : String}

theorem nameText_of_segmentText? (h : segmentText? segment.text = some n) :
    n.toList ≠ [] ∧ ∃ rest, segment.nameText = n.toList ++ rest ∧ ∀ c ∈ rest.head?, endsSegment c = true := by
  obtain ⟨hne, hn⟩ := Option.ite_none_left_eq_some.mp h
  obtain rfl := Option.some.inj hn
  rw [String.toList_ofList]
  refine ⟨hne, ?_⟩
  generalize hbody : dropCopies [':', ':'] segment.text.toList = body at hne ⊢
  -- the name is followed by blanks, then colons, then an opening bracket with what is left
  obtain ⟨colons, hcolons, hcolon⟩ := dropTrailingCopies_append [':', ':'] (body.takeWhile (· != '<'))
  generalize dropTrailingCopies [':', ':'] (body.takeWhile (· != '<')) = kept at hne hcolons ⊢
  obtain ⟨blanks, hblanks, hblank⟩ := trimEnd_append (trimStart kept)
  have hstart : trimStart kept ≠ [] := by
    rw [hblanks]
    exact List.append_ne_nil_of_left_ne_nil hne _
  refine ⟨blanks ++ (colons ++ body.dropWhile (· != '<')), ?_, ?_⟩
  · calc segment.nameText
        = trimStart (body.takeWhile (· != '<') ++ body.dropWhile (· != '<')) := by
          rw [List.takeWhile_append_dropWhile, nameText, hbody]
      _ = trimStart kept ++ (colons ++ body.dropWhile (· != '<')) := by
          rw [hcolons, List.append_assoc, trimStart_append hstart]
      _ = trim kept ++ (blanks ++ (colons ++ body.dropWhile (· != '<'))) := by
          rw [trim, ← List.append_assoc (trimEnd _), ← hblanks]
  · refine endsSegment_head?_append (fun c hc => by simp [endsSegment, hblank c hc])
      (endsSegment_head?_append (fun c hc => ?_) fun c hc => ?_)
    · have hc : c = ':' := by simpa using hcolon c hc
      simp [endsSegment, hc]
    · have hstop := List.head?_dropWhile_not (· != '<') body
      rw [Option.mem_def.mp hc] at hstop
      have hc : c = '<' := by simpa using hstop
      simp [endsSegment, hc]

theorem startsUpper_of_segmentText? (h : segmentText? segment.text = some n) :
    segment.startsUpper = n.toList.head?.any isUpper := by
  obtain ⟨hne, rest, htext, _⟩ := nameText_of_segmentText? h
  rw [startsUpper, htext, List.head?_append_of_ne_nil _ hne]

theorem word_of_segmentText? (h : segmentText? segment.text = some n) (hn : IsWord n) : segment.word = n := by
  obtain ⟨_, rest, htext, hrest⟩ := nameText_of_segmentText? h
  have hstop : ∀ c ∈ rest.head?, isWordChar c = false := fun c hc => not_isWordChar_of_endsSegment (hrest c hc)
  rw [word, htext, takeWhile_append_eq hn.chars hstop, String.ofList_toList]

end Source.SyntaxTree

/-! ## Paths -/

mutual

/-- The segments of a path, the first one first. -/
def Source.SyntaxTree.pathSegments : SyntaxTree → List SyntaxTree
  | .token _ _ => []
  | .node _ children => pathSegmentsBefore children ++ (children.find? (·.isNode .pathSegment)).toList

/-- The segments of the path among some children. -/
def Source.SyntaxTree.pathSegmentsBefore : List SyntaxTree → List SyntaxTree
  | [] => []
  | t :: ts => if t.isNode .path then t.pathSegments else pathSegmentsBefore ts

end

/-- Segments and their names. -/
def Spells (segments : List SyntaxTree) (names : List String) : Prop :=
  List.Forall₂ (fun s n => segmentText? s.text = some n) segments names

mutual

theorem spells_of_segments? {names : List String} : (t : SyntaxTree) → segments? t = some names →
    Spells t.pathSegments names
  | .token _ _, h => by simp [segments?] at h
  | .node _ children, h => by
      simp only [segments?, Option.bind_eq_bind, Option.bind_eq_some_iff, Option.pure_def, Option.some.injEq] at h
      obtain ⟨before, hbefore, segment, hsegment, n, hn, rfl⟩ := h
      rw [SyntaxTree.pathSegments, hsegment]
      exact List.rel_append (spells_of_leadingSegments? children hbefore) (.cons hn .nil)

theorem spells_of_leadingSegments? {names : List String} : (ts : List SyntaxTree) → leadingSegments? ts = some names →
    Spells (SyntaxTree.pathSegmentsBefore ts) names
  | [], h => by
      obtain rfl := Option.some.inj h
      exact .nil
  | t :: ts, h => by
      rw [leadingSegments?] at h
      rw [SyntaxTree.pathSegmentsBefore]
      split at h
      · rw [if_pos (by assumption)]
        exact spells_of_segments? t h
      · rw [if_neg (by assumption)]
        exact spells_of_leadingSegments? ts h

end

/-- Going up at `super` and down at all other segments never leads above the start, which is `depth` steps up. -/
def staysBelow : Nat → List SyntaxTree → Bool
  | _, [] => true
  | depth, s :: ss => if s.word = "super" then depth != 0 && staysBelow (depth - 1) ss else staysBelow (depth + 1) ss

/-- The segments before the last one of a path expression. -/
def Source.SyntaxTree.qualifierSegments (t : SyntaxTree) : List SyntaxTree :=
  ((t.child? .path).bind (·.child? .path)).elim [] pathSegments

/-- A path that starts with these segments leads out of the source from `module`: not along the modules that are
declared in `module`, and not back to where it started. -/
structure IsForeign (tree : SyntaxTree) (module : List String) (first : SyntaxTree) (later : List SyntaxTree) :
    Prop where
  keyword : first.word ∉ ["self", "super", "crate"]
  /-- Types start with an upper-case letter, and so does `Self`. -/
  type : first.startsUpper = false
  undeclared : ¬ tree.DeclaresModule (module ++ [first.word])
  below : staysBelow 0 later = true

instance (tree : SyntaxTree) (module : List String) (first : SyntaxTree) (later : List SyntaxTree) :
    Decidable (IsForeign tree module first later) :=
  decidable_of_iff (first.word ∉ ["self", "super", "crate"] ∧ first.startsUpper = false ∧
    ¬ tree.DeclaresModule (module ++ [first.word]) ∧ staysBelow 0 later = true)
    ⟨fun ⟨hk, ht, hm, hb⟩ => ⟨hk, ht, hm, hb⟩, fun ⟨hk, ht, hm, hb⟩ => ⟨hk, ht, hm, hb⟩⟩

theorem staysBelow_of_append {depth : Nat} {ss ss' : List SyntaxTree} (h : staysBelow depth (ss ++ ss') = true) :
    staysBelow depth ss = true := by
  induction ss generalizing depth with
  | nil => rfl
  | cons s ss ih =>
      rw [List.cons_append, staysBelow] at h
      by_cases hs : s.word = "super"
      · rw [if_pos hs, Bool.and_eq_true] at h
        rw [staysBelow, if_pos hs, Bool.and_eq_true]
        exact ⟨h.1, ih h.2⟩
      · rw [if_neg hs] at h
        rw [staysBelow, if_neg hs]
        exact ih h

theorem staysBelow_take {depth : Nat} {ss : List SyntaxTree} (k : Nat) (h : staysBelow depth ss = true) :
    staysBelow depth (ss.take k) = true := by
  rw [← List.take_append_drop k ss] at h
  exact staysBelow_of_append h

theorem word_of_keyword {s : SyntaxTree} {n : String} (h : segmentText? s.text = some n)
    (hn : n ∈ ["self", "super", "crate"]) : s.word = n := by
  refine SyntaxTree.word_of_segmentText? h ?_
  have hall : ∀ n ∈ ["self", "super", "crate"], n ≠ "" ∧ n.toList.all isWordChar = true := by decide +kernel
  exact .of_all (hall n hn).1 (hall n hn).2

namespace Context

variable {ctx : Context} {module names : List String} {s : SyntaxTree} {ss : List SyntaxTree} {n : String}

/-- A path that stays below its start leads to a place below it. -/
theorem isPrefix_of_follow? {base stack : List String} {depth : Nat} (h : follow? (base ++ stack) names = some module)
    (hs : Spells ss names) (hd : depth ≤ stack.length) (hstay : staysBelow depth ss = true) : base <+: module := by
  induction hs generalizing stack depth with
  | nil =>
      obtain rfl := Option.some.inj h
      exact List.prefix_append _ _
  | @cons s n ss names hn _ ih =>
      rw [follow?] at h
      rw [staysBelow] at hstay
      by_cases hsuper : n = "super"
      · have hword : s.word = "super" := hsuper ▸ word_of_keyword hn (by simp [hsuper])
        rw [if_pos hword, Bool.and_eq_true, bne_iff_ne] at hstay
        -- there is a step down to take back
        have hstack : stack ≠ [] := List.ne_nil_of_length_pos (by omega)
        rw [if_pos hsuper, if_neg (by simp [hstack]), List.dropLast_append_of_ne_nil hstack] at h
        exact ih h (by rw [List.length_dropLast]; omega) hstay.2
      · rw [if_neg hsuper] at h
        by_cases hkeyword : n = "self" ∨ n = "crate"
        · rw [if_pos hkeyword] at h
          cases h
        · rw [if_neg hkeyword, List.append_assoc] at h
          by_cases hword : s.word = "super"
          · rw [if_pos hword, Bool.and_eq_true] at hstay
            exact ih h (by simp; omega) hstay.2
          · rw [if_neg hword] at hstay
            exact ih h (by simpa using hd) hstay

/-- A path that does not start with a keyword and stays below its first segment leads to a module with that name. -/
theorem isPrefix_of_modulePath? (h : ctx.modulePath? (n :: names) = some module) (hn : segmentText? s.text = some n)
    (hs : Spells ss names) (hkeyword : s.word ∉ ["self", "super", "crate"]) (hstay : staysBelow 0 ss = true) :
    ctx.module ++ [n] <+: module ∧ ctx.registry.hasModule module = true := by
  have hn' : n ∉ ["self", "super", "crate"] := fun hmem => hkeyword (word_of_keyword hn hmem ▸ hmem)
  simp only [List.mem_cons, List.not_mem_nil, or_false, not_or] at hn'
  obtain ⟨hself, hsuper, hcrate⟩ := hn'
  have hhead : ∀ first ∈ (n :: names).head?, first ∉ ["self", "crate"] := by simp [hself, hcrate]
  rw [modulePath?_of_head hhead] at h
  obtain ⟨hfollow, hhas⟩ := Option.filter_eq_some_iff.mp h
  rw [follow?, if_neg hsuper, if_neg (by simp [hself, hcrate]), ← List.append_nil (ctx.module ++ [n])] at hfollow
  exact ⟨isPrefix_of_follow? hfollow hs (Nat.zero_le _) hstay, hhas⟩

/-- No module of the source lies along a path into a module that is not declared. -/
theorem modulePath?_eq_none {source : String} {tree : SyntaxTree} {config : LoweringConfig}
    (htree : parse? source = some tree) (hctx : ctx.registry = Registry.of source tree config)
    (hn : segmentText? s.text = some n) (hs : Spells ss names) (hkeyword : s.word ∉ ["self", "super", "crate"])
    (hmodule : ¬ tree.DeclaresModule (ctx.module ++ [s.word])) (hstay : staysBelow 0 ss = true) :
    ctx.modulePath? (n :: names) = none := by
  refine Option.eq_none_iff_forall_ne_some.mpr fun module h => hmodule ?_
  obtain ⟨⟨rest, rfl⟩, hhas⟩ := isPrefix_of_modulePath? h hn hs hkeyword hstay
  rw [hctx, Registry.hasModule_iff] at hhas
  have houter := (hhas.resolve_left (by simp)).outer (by simp)
  have hword : IsWord n := houter.isWord (parse?_named htree) n (by simp)
  rwa [SyntaxTree.word_of_segmentText? hn hword]

theorem resolveBehind?_eq_none {source : String} {tree : SyntaxTree} {config : LoweringConfig}
    (htree : parse? source = some tree) (hctx : ctx.registry = Registry.of source tree config)
    (hs : Spells (s :: ss) names) (hforeign : IsForeign tree ctx.module s ss) (name : String) :
    ctx.resolveBehind? names name = none := by
  obtain ⟨hkeyword, htype, hmodule, hstay⟩ := hforeign
  obtain ⟨n, names, hn, hrest, rfl⟩ := List.forall₂_cons_left_iff.mp hs
  rw [SyntaxTree.startsUpper_of_segmentText? hn] at htype
  have hnone : ∀ k, ctx.modulePath? (n :: names.take k) = none := fun k =>
    modulePath?_eq_none htree hctx hn (List.forall₂_take k hrest) hkeyword hmodule (staysBelow_take k hstay)
  have hall : ctx.modulePath? (n :: names) = none := by simpa using hnone names.length
  cases names with
  | nil =>
      -- the only segment is the first one, so it is no type
      have hself : n ≠ "Self" := by
        rintro rfl
        exact absurd htype (by decide +kernel)
      simp [resolveBehind?, hself, htype, hall]
  | cons n' names =>
      have hinit : ctx.modulePath? (n :: (n' :: names).dropLast) = none := by
        rw [List.dropLast_eq_take]
        exact hnone _
      rw [resolveBehind?, List.getLast?_eq_some_getLast (by simp)]
      simp [hinit, hall]

theorem resolve?_eq_none {source : String} {tree t : SyntaxTree} {config : LoweringConfig}
    (htree : parse? source = some tree) (hctx : ctx.registry = Registry.of source tree config)
    (hsegments : t.qualifierSegments = s :: ss) (hforeign : IsForeign tree ctx.module s ss) :
    ctx.resolve? t = none := by
  obtain ⟨path, hpath⟩ : ∃ path, t.child? .path = some path := by
    refine Option.ne_none_iff_exists'.mp fun hp => ?_
    simp [SyntaxTree.qualifierSegments, hp] at hsegments
  obtain ⟨qualifier, hq⟩ : ∃ qualifier, path.child? .path = some qualifier := by
    refine Option.ne_none_iff_exists'.mp fun hq => ?_
    simp [SyntaxTree.qualifierSegments, hpath, hq] at hsegments
  have hqualifier : qualifier.pathSegments = s :: ss := by
    simpa [SyntaxTree.qualifierSegments, hpath, hq] using hsegments
  simp only [resolve?, hpath, hq, Option.bind_eq_bind, Option.bind_some, Option.bind_eq_none_iff]
  intro segment _ nameRef _ names hnames
  have hspells := spells_of_segments? qualifier hnames
  rw [hqualifier] at hspells
  exact resolveBehind?_eq_none htree hctx hspells hforeign _

end Context

/-! ## Where the other paths lead -/

namespace Context

/-- Names lead from one module to another: `super` up, and every name that is no keyword down. -/
inductive GoesTo : List String → List String → List String → Prop where
  | stop (module : List String) : GoesTo [] module module
  | up {names module outer : List String} {child : String} (h : GoesTo names outer module) :
      GoesTo ("super" :: names) (outer ++ [child]) module
  | down {names module outer : List String} {child : String} (hn : child ∉ ["self", "super", "crate"])
      (h : GoesTo names (outer ++ [child]) module) : GoesTo (child :: names) outer module

/-- Names lead from the module at hand to another one. They start at the root behind `crate`. -/
inductive GoesFrom (here : List String) : List String → List String → Prop where
  | root {names module : List String} (h : GoesTo names [] module) : GoesFrom here ("crate" :: names) module
  | self {names module : List String} (h : GoesTo names here module) : GoesFrom here ("self" :: names) module
  | plain {names module : List String} (h : GoesTo names here module) : GoesFrom here names module

/-- The module of the source that names lead to. -/
structure NamesModule (tree : SyntaxTree) (here names module : List String) : Prop where
  leads : GoesFrom here names module
  declared : module = [] ∨ tree.DeclaresModule module

/-- What a name behind a path asks for: behind `Self` a method of the scope, behind a type a method of that type in a
module, and else a free function of a module. -/
inductive AsksFor (ctx : Context) (tree : SyntaxTree) (name : String) : List String → Lookup → Prop where
  | scope {scope : String} (h : ctx.scope = some scope) : AsksFor ctx tree name ["Self"] (.method scope name)
  | type {names module : List String} {type : String} (hself : names ++ [type] ≠ ["Self"])
      (htype : type.toList.head?.any isUpper = true) (h : NamesModule tree ctx.module names module) :
      AsksFor ctx tree name (names ++ [type]) (.methodIn module type name)
  | module {names module : List String} (hlast : ∀ last ∈ names.getLast?, last.toList.head?.any isUpper = false)
      (h : NamesModule tree ctx.module names module) : AsksFor ctx tree name names (.freeFunction module name)

variable {ctx : Context} {tree : SyntaxTree} {here names module : List String} {name : String} {id : DeclId}

theorem goesTo_iff : GoesTo names here module ↔ follow? here names = some module := by
  constructor
  · intro h
    induction h with
    | stop => rfl
    | up _ ih => rwa [follow?_super]
    | down hn _ ih =>
        simp only [List.mem_cons, List.not_mem_nil, or_false, not_or] at hn
        rwa [follow?, if_neg hn.2.1, if_neg (by simp [hn])]
  · intro h
    induction names generalizing here with
    | nil =>
        obtain rfl := Option.some.inj h
        exact .stop here
    | cons n names ih =>
        rw [follow?] at h
        by_cases hsuper : n = "super"
        · rw [if_pos hsuper] at h
          obtain ⟨hne, h⟩ := Option.ite_none_left_eq_some.mp h
          rw [hsuper, ← List.dropLast_append_getLast hne]
          exact .up (ih h)
        · rw [if_neg hsuper] at h
          obtain ⟨hn, h⟩ := Option.ite_none_left_eq_some.mp h
          refine .down ?_ (ih h)
          simpa [hsuper, not_or] using hn

theorem not_goesTo_of_head {first : String} (h : first ∈ ["self", "crate"]) :
    ¬ GoesTo (first :: names) here module := by
  rintro (_ | _ | ⟨hn, _⟩)
  · exact absurd h (by decide)
  · exact hn (by simp only [List.mem_cons] at h ⊢; tauto)

theorem goesFrom_iff : GoesFrom here names module ↔ (∃ rest, names = "crate" :: rest ∧ GoesTo rest [] module) ∨
    (∃ rest, names = "self" :: rest ∧ GoesTo rest here module) ∨ GoesTo names here module := by
  constructor
  · intro h
    cases h with
    | root h => exact Or.inl ⟨_, rfl, h⟩
    | self h => exact Or.inr (Or.inl ⟨_, rfl, h⟩)
    | plain h => exact Or.inr (Or.inr h)
  · rintro (⟨rest, rfl, h⟩ | ⟨rest, rfl, h⟩ | h)
    · exact .root h
    · exact .self h
    · exact .plain h

theorem goesFrom_crate_iff : GoesFrom here ("crate" :: names) module ↔ GoesTo names [] module := by
  simp [goesFrom_iff, not_goesTo_of_head]

theorem goesFrom_self_iff : GoesFrom here ("self" :: names) module ↔ GoesTo names here module := by
  simp [goesFrom_iff, not_goesTo_of_head]

theorem goesFrom_iff_of_head (hhead : ∀ first ∈ names.head?, first ∉ ["self", "crate"]) :
    GoesFrom here names module ↔ GoesTo names here module := by
  rw [goesFrom_iff, or_iff_right, or_iff_right]
  · rintro ⟨rest, rfl, _⟩
    exact absurd (hhead "self" rfl) (by decide)
  · rintro ⟨rest, rfl, _⟩
    exact absurd (hhead "crate" rfl) (by decide)

section

variable {source : String} {config : LoweringConfig} (hctx : ctx.registry = Registry.of source tree config)
include hctx

theorem modulePath?_eq_some_iff :
    ctx.modulePath? names = some module ↔ NamesModule tree ctx.module names module := by
  have hfilter : ∀ {start rest}, (follow? start rest).filter ctx.registry.hasModule = some module ↔
      GoesTo rest start module ∧ (module = [] ∨ tree.DeclaresModule module) := by
    intro start rest
    rw [Option.filter_eq_some_iff, goesTo_iff, hctx, Registry.hasModule_iff]
  have hfrom : ctx.modulePath? names = some module ↔
      GoesFrom ctx.module names module ∧ (module = [] ∨ tree.DeclaresModule module) := by
    by_cases hhead : ∀ first ∈ names.head?, first ∉ ["self", "crate"]
    · rw [modulePath?_of_head hhead, hfilter, goesFrom_iff_of_head hhead]
    · push Not at hhead
      obtain ⟨first, hfirst, hkeyword⟩ := hhead
      obtain ⟨rest, rfl⟩ := List.head?_eq_some_iff.mp hfirst
      rcases List.mem_pair.mp hkeyword with rfl | rfl
      · rw [modulePath?_self, hfilter, goesFrom_self_iff]
      · rw [modulePath?_crate, hfilter, goesFrom_crate_iff]
  rw [hfrom]
  exact ⟨fun ⟨hl, hd⟩ => ⟨hl, hd⟩, fun ⟨hl, hd⟩ => ⟨hl, hd⟩⟩

/-- Behind a path that ends with no type, a name is that of a free function in the module that the path leads to. -/
theorem resolveNames?_module (hlast : ∀ last ∈ names.getLast?, last.toList.head?.any isUpper = false) :
    ctx.resolveNames? names name =
      (ctx.modulePath? names).bind fun module => ctx.registry.freeFunction? module name := by
  by_cases hne : names = []
  · subst hne
    rw [resolveNames?, if_pos rfl, modulePath?_of_head (by simp), follow?, Option.filter_some, hctx]
    split
    · rfl
    · exact Registry.freeFunction?_eq_none (Bool.eq_false_iff.mpr ‹_›) name
  · have hlower := hlast _ (List.getLast?_eq_some_getLast hne)
    have hself : names ≠ ["Self"] := by
      rintro rfl
      exact absurd (hlast "Self" rfl) (by decide +kernel)
    rw [resolveNames?, if_neg hne, ← List.nil_append names, resolveBehind?_append [] hne hself,
      if_neg (by simpa using hlower)]

end

theorem resolveNames?_type {type : String} (hself : names ++ [type] ≠ ["Self"])
    (htype : type.toList.head?.any isUpper = true) :
    ctx.resolveNames? (names ++ [type]) name =
      (ctx.modulePath? names).bind fun module => ctx.registry.methodIn? module type name := by
  rw [resolveNames?, if_neg (by simp), ← List.nil_append (names ++ [type]),
    resolveBehind?_append [] (by simp) (by simpa using hself)]
  simp [htype]

theorem resolveNames?_scope :
    ctx.resolveNames? ["Self"] name = ctx.scope.bind fun scope => ctx.registry.method? scope name := by
  simp [resolveNames?, resolveBehind?]

/-- A name behind a path stands for the only function that fits what is asked for. -/
theorem resolveNames?_eq_some_iff {source : String} {config : LoweringConfig}
    (hctx : ctx.registry = Registry.of source tree config) : ctx.resolveNames? names name = some id ↔
      ∃ q, AsksFor ctx tree name names q ∧ ctx.registry.OnlyFit q.Matches id := by
  have hanswer : ∀ q, ctx.registry.OnlyFit q.Matches id ↔ ctx.registry.answer? q = some id := fun q => by
    rw [Registry.onlyFit_matches_iff, Registry.answer?_eq_some_iff]
  simp only [hanswer]
  constructor
  · intro h
    by_cases hself : names = ["Self"]
    · rw [hself, resolveNames?_scope] at h
      obtain ⟨scope, hscope, h⟩ := Option.bind_eq_some_iff.mp h
      exact ⟨.method scope name, hself ▸ .scope hscope, h⟩
    by_cases hlast : ∀ last ∈ names.getLast?, last.toList.head?.any isUpper = false
    · rw [resolveNames?_module hctx hlast] at h
      obtain ⟨module, hmodule, h⟩ := Option.bind_eq_some_iff.mp h
      exact ⟨.freeFunction module name, .module hlast ((modulePath?_eq_some_iff hctx).mp hmodule), h⟩
    · obtain ⟨type, htype, hupper⟩ : ∃ last ∈ names.getLast?, last.toList.head?.any isUpper = true := by
        simpa using hlast
      obtain ⟨before, rfl⟩ := List.getLast?_eq_some_iff.mp htype
      rw [resolveNames?_type hself hupper] at h
      obtain ⟨module, hmodule, h⟩ := Option.bind_eq_some_iff.mp h
      exact ⟨.methodIn module type name, .type hself hupper ((modulePath?_eq_some_iff hctx).mp hmodule), h⟩
  · rintro ⟨q, hq, h⟩
    cases hq with
    | scope hscope =>
        rw [resolveNames?_scope, hscope]
        exact h
    | type hself htype hmodule =>
        rw [resolveNames?_type hself htype, (modulePath?_eq_some_iff hctx).mpr hmodule]
        exact h
    | module hlast hmodule =>
        rw [resolveNames?_module hctx hlast, (modulePath?_eq_some_iff hctx).mpr hmodule]
        exact h

/-- A path without names, since a segment is a type in angle brackets, is not resolved. -/
theorem exists_names?_of_resolve? {t : SyntaxTree} (h : ctx.resolve? t = some id) :
    ∃ names name, t.names? = some (names ++ [name]) := by
  simp only [resolve?, Option.bind_eq_bind, Option.bind_eq_some_iff] at h
  obtain ⟨path, hpath, segment, hsegment, nameRef, hnameRef, h⟩ := h
  simp only [SyntaxTree.names?, hpath, hsegment, hnameRef, Option.bind_eq_bind, Option.bind_some]
  cases hq : path.child? .path with
  | none => exact ⟨[], nameRef.firstToken, rfl⟩
  | some qualifier =>
      rw [hq] at h
      obtain ⟨names, hnames, _⟩ := Option.bind_eq_some_iff.mp h
      exact ⟨names, nameRef.firstToken, by dsimp only; rw [hnames]; rfl⟩

/-- A path stands for the only function that fits what it asks for. -/
theorem resolve?_iff_asksFor {source : String} {config : LoweringConfig} {t : SyntaxTree}
    (hctx : ctx.registry = Registry.of source tree config) : ctx.resolve? t = some id ↔
      ∃ names name q, t.names? = some (names ++ [name]) ∧ AsksFor ctx tree name names q ∧
        ctx.registry.OnlyFit q.Matches id := by
  constructor
  · intro h
    obtain ⟨names, name, hnames⟩ := exists_names?_of_resolve? h
    rw [resolve?_of_names? hnames] at h
    obtain ⟨q, hq, honly⟩ := (resolveNames?_eq_some_iff hctx).mp h
    exact ⟨names, name, q, hnames, hq, honly⟩
  · rintro ⟨names, name, q, hnames, hq, honly⟩
    rw [resolve?_of_names? hnames]
    exact (resolveNames?_eq_some_iff hctx).mpr ⟨q, hq, honly⟩

end Context

/-- What stands behind a foreign path is not resolved. In general, what a path stands for is the only function that fits
what the path asks for. Where nothing is resolved, naming it is no reference, calling it is a call of something unknown,
and awaiting the call suspends. -/
theorem foreign_path_unresolved (source : String) (config : LoweringConfig) (tree : SyntaxTree)
    (htree : parse? source = some tree) (e : FnEntry) (r : Registry) (hr : r = Registry.of source tree config)
    (ctx : Context) (hctx : ctx = e.context r config) (t : SyntaxTree) (ht : t.isNode .pathExpr = true) :
    (∀ first later, t.qualifierSegments = first :: later → IsForeign tree e.module first later →
      ctx.resolve? t = none) ∧
    (∀ id, ctx.resolve? t = some id ↔ ∃ names name q, t.names? = some (names ++ [name]) ∧
      ctx.AsksFor tree name names q ∧ r.OnlyFit q.Matches id) ∧
    (ctx.resolve? t = none → ctx.form t = { head := .inert } ∧
      ∀ call, call.isNode .callExpr = true → call.exprs.head? = some t →
        ctx.form call = { head := .call .unknown, parts := call.callArguments } ∧
        ∀ await, await.isNode .awaitExpr = true → await.exprs.head? = some call →
          ctx.form await = { head := .call .suspension, parts := [call] }) := by
  subst hr hctx
  refine ⟨fun first later hsegments hforeign => Context.resolve?_eq_none htree rfl hsegments hforeign,
    fun id => Context.resolve?_iff_asksFor rfl, fun hresolve => ?_⟩
  have hcallee : ∀ {call}, call.exprs.head? = some t →
      (e.context (Registry.of source tree config) config).callee? call = none := by
    intro call hhead
    simp [Context.callee?, hhead, hresolve]
  refine ⟨by simp only [Context.form, SyntaxTree.isNode_iff.mp ht, hresolve], fun call hcall hhead => ⟨?_, ?_⟩⟩
  · simp [Context.form, SyntaxTree.isNode_iff.mp hcall, hcallee hhead, Context.plainTarget, Context.callParts, hhead, ht]
  · intro await hawait hoperand
    simp [Context.form, SyntaxTree.isNode_iff.mp hawait, Context.awaitForm, hoperand, hcall, hcallee hhead]

/-- A module and functions with the names in a foreign path, all of them elsewhere. -/
def namesakes : String :=
  braced "mod net" [braced "pub mod tokio" [braced "pub async fn run()" []]] ++ " " ++
    braced "async fn run()" [] ++ " " ++ braced "async fn f()" ["::tokio::sync::<u8>::super::run(1).await;"]

theorem foreign_path_unresolved_namesakes : ∃ tree e t first later call await,
    parse? namesakes = some tree ∧ e ∈ (Registry.of namesakes tree {}).entries ∧ t.isNode .pathExpr = true ∧
    t.qualifierSegments = first :: later ∧ IsForeign tree e.module first later ∧ call.isNode .callExpr = true ∧
    call.exprs.head? = some t ∧ await.isNode .awaitExpr = true ∧ await.exprs.head? = some call ∧
    (e.context (Registry.of namesakes tree {}) {}).resolve? t = none ∧
    (e.context (Registry.of namesakes tree {}) {}).form await = { head := .call .suspension, parts := [call] } := by
  have hsome : ((parse? namesakes).any fun tree => ((Registry.of namesakes tree {}).entries[2]?).any fun e =>
      (e.body.bind (·.nearestBelow.head?)).any fun await => await.isNode .awaitExpr && await.exprs.head?.any fun call =>
        call.isNode .callExpr && call.exprs.head?.any fun t => t.isNode .pathExpr &&
          t.qualifierSegments.head?.any fun first =>
            decide (IsForeign tree e.module first t.qualifierSegments.tail)) = true := by decide +kernel
  simp only [Option.any_eq_true, Bool.and_eq_true, decide_eq_true_eq] at hsome
  obtain ⟨tree, htree, e, he, await, _, hawait, call, hoperand, hcall, t, hcallee, ht, first, hfirst, hforeign⟩ := hsome
  have hsegments : t.qualifierSegments = first :: t.qualifierSegments.tail := List.eq_cons_of_mem_head? hfirst
  obtain ⟨hunresolved, _, hforms⟩ := foreign_path_unresolved namesakes {} tree htree e _ rfl _ rfl t ht
  have hresolve := hunresolved first _ hsegments hforeign
  exact ⟨tree, e, t, first, _, call, await, htree, List.mem_of_getElem? he, ht, hsegments, hforeign, hcall, hcallee,
    hawait, hoperand, hresolve, ((hforms hresolve).2 call hcall hcallee).2 await hawait hoperand⟩

/-- Two colons before a path do not make it foreign, `super` inside of a path leads back into the source, and a module
in the body of a function is found from outside. -/
theorem callTargets_captured :
    (unitOfSource? "a.rs" (braced "mod helpers" [braced "pub async fn run()" []] ++ " " ++
      braced "async fn f()" ["::helpers::run().await;"]) {}).map (·.callTargets) = some #[.asyncDecl 0] ∧
    (unitOfSource? "a.rs" (braced "async fn leaf()" [] ++ " " ++
      braced "async fn f()" ["tokio::super::leaf().await;"]) {}).map (·.callTargets) = some #[.asyncDecl 0] ∧
    (unitOfSource? "a.rs" (braced "fn g()" [braced "mod helpers" [braced "pub async fn run()" []]] ++ " " ++
      braced "async fn f()" ["helpers::run().await;"]) {}).map (·.callTargets) = some #[.asyncDecl 1] := by
  decide +kernel

end AsyncLint
