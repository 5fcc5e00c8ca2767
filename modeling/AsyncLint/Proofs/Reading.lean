import AsyncLint.Source.File

/-!
# Reading shapes off lexemes

Rules build shapes while they read lexemes, and the shapes are filled from tokens later. Both pass over the source in
step: if shapes were read off the lexemes of some tokens, filling them from these tokens takes the same lexemes. So
what a rule has seen in a lexeme holds of the token that is put in its place. It matters for names: they are single
words.
-/

namespace AsyncLint.Source

open Text

/-- The characters of names. A hash is one only in the mark of a raw name. -/
def isWordChar (c : Char) : Bool :=
  isIdentStart c || isIdentContinue c || c == '#'

/-- A text that can be a name. -/
structure IsWord (text : String) : Prop where
  nonempty : text ≠ ""
  chars : ∀ c ∈ text.toList, isWordChar c = true

theorem IsWord.of_all {text : String} (hne : text ≠ "") (h : text.toList.all isWordChar = true) : IsWord text :=
  ⟨hne, List.all_eq_true.mp h⟩

/-- What is left of a lexeme and those after it without its first characters. -/
def Lexeme.cut (l : Lexeme) (length : Nat) (rest : Lexemes) : Lexemes :=
  if String.ofList (l.text.toList.drop length) = "" then rest
  else { l with text := String.ofList (l.text.toList.drop length) } :: rest

theorem Lexeme.cut_of_lt {l : Lexeme} {length : Nat} {rest : Lexemes} (h : length < l.text.toList.length) :
    l.cut length rest = { l with text := String.ofList (l.text.toList.drop length) } :: rest := by
  refine if_neg fun he => ?_
  have hnil : l.text.toList.drop length = [] := by simpa using congrArg String.toList he
  exact absurd (List.drop_eq_nil_iff.mp hnil) (by omega)

theorem Lexeme.cut_of_le {l : Lexeme} {length : Nat} {rest : Lexemes} (h : l.text.toList.length ≤ length) :
    l.cut length rest = rest := by
  exact if_pos (by rw [List.drop_eq_nil_of_le h])

/-- The shapes are read off the lexemes of the first list, up to those of the second. What is read as one token has no
gaps, and a name is one word. -/
inductive Reads : List Shape → Lexemes → Lexemes → Prop where
  | nil {input : Lexemes} : Reads [] input input
  | tokens {count : Nat} {ss : List Shape} {input out : Lexemes} (joint : ∀ l ∈ input.take (count - 1), l.joint = true)
      (h : Reads ss (input.drop count) out) : Reads (.tokens count :: ss) input out
  | part {kind : TokenKind} {length : Nat} {ss : List Shape} {l : Lexeme} {input out : Lexemes}
      (h : Reads ss (l.cut length input) out) : Reads (.part kind length :: ss) (l :: input) out
  | node {kind : NodeKind} {children ss : List Shape} {input mid out : Lexemes}
      (name : kind = .name → children = [.tokens 1] ∧ ∃ l ∈ input.head?, IsWord l.text)
      (below : Reads children input mid) (h : Reads ss mid out) : Reads (.node kind children :: ss) input out

namespace Reads

variable {ss ss' : List Shape} {input mid out : Lexemes} {k : NodeKind}

theorem append (h : Reads ss input mid) (h' : Reads ss' mid out) : Reads (ss ++ ss') input out := by
  induction h with
  | nil => exact h'
  | tokens joint _ ih => exact .tokens joint (ih h')
  | part _ ih => exact .part (ih h')
  | node name below _ _ ih => exact .node name below (ih h')

theorem split (h : Reads (ss ++ ss') input out) : ∃ mid, Reads ss input mid ∧ Reads ss' mid out := by
  induction ss generalizing input with
  | nil => exact ⟨input, .nil, h⟩
  | cons s ss ih =>
      cases h with
      | tokens joint h =>
          obtain ⟨mid, h₁, h₂⟩ := ih h
          exact ⟨mid, .tokens joint h₁, h₂⟩
      | part h =>
          obtain ⟨mid, h₁, h₂⟩ := ih h
          exact ⟨mid, .part h₁, h₂⟩
      | node name below h =>
          obtain ⟨mid, h₁, h₂⟩ := ih h
          exact ⟨mid, .node name below h₁, h₂⟩

theorem wrap (h : Reads ss input out) (hk : k ≠ .name) : Reads [.node k ss] input out :=
  .node (fun h => absurd h hk) h .nil

/-- The shapes before a node can become its first children. -/
theorem absorb (h : Reads (ss ++ [.node k ss']) input out) (hk : k ≠ .name) : Reads [.node k (ss ++ ss')] input out := by
  obtain ⟨mid, h₁, h₂⟩ := h.split
  cases h₂ with
  | node _ below h₂ =>
      cases h₂
      exact (h₁.append below).wrap hk

end Reads

/-- A part of the next lexeme can be read as a field of what stands before it. -/
theorem Reads.field {ss : List Shape} {input rest : Lexemes} {l : Lexeme} (h : Reads ss input (l :: rest))
    (kind : TokenKind) (length : Nat) :
    Reads [.node .fieldExpr (ss ++ [.node .nameRef [.part kind length]])] input (l.cut length rest) :=
  (h.append (Reads.wrap (.part .nil) (by decide))).wrap (by decide)

/-- What the grammar relies on in words: identifiers can be names, and keywords are one lexeme each. -/
structure Lexeme.Proper (l : Lexeme) : Prop where
  ident : l.kind = .ident → IsWord l.text
  keyword : l.kind = .keyword ∨ l.kind = .underscore → Parse.width l.text = 1

theorem joint_of_startsSign {cs : List Char} {input : Lexemes} (h : input.startsSign cs = true) :
    ∀ l ∈ input.take (cs.length - 1), l.joint = true := by
  induction cs generalizing input with
  | nil => cases input <;> cases h
  | cons c cs ih =>
      cases cs with
      | nil => simp
      | cons d cs =>
          cases input with
          | nil => cases h
          | cons t ts =>
              simp only [Lexemes.startsSign, Bool.and_eq_true] at h
              simp only [List.length_cons, Nat.add_sub_cancel, List.take_succ_cons, List.mem_cons, forall_eq_or_imp]
              exact ⟨h.1.2, ih h.2⟩

/-- What comes next is a sign, or else a keyword. -/
theorem starts_cases {input : Lexemes} {text : String} (hproper : ∀ l ∈ input, l.Proper)
    (h : input.starts text = true) : input.startsSign text.toList = true ∨ Parse.width text = 1 := by
  cases input with
  | nil => cases h
  | cons t ts =>
      unfold Lexemes.starts at h
      dsimp only at h
      split at h
      · exact Or.inl h
      · rw [← beq_iff_eq.mp h]
        exact Or.inr ((hproper t List.mem_cons_self).keyword (.inl ‹_›))
      · rw [← beq_iff_eq.mp h]
        exact Or.inr ((hproper t List.mem_cons_self).keyword (.inr ‹_›))
      · cases h

/-- A keyword or sign that comes next has no gaps. -/
theorem joint_of_starts {input : Lexemes} {text : String} (hproper : ∀ l ∈ input, l.Proper)
    (h : input.starts text = true) : ∀ l ∈ input.take (Parse.width text - 1), l.joint = true := by
  rcases starts_cases hproper h with hsign | hword
  · unfold Parse.width
    split
    · simp
    · exact joint_of_startsSign hsign
  · rw [hword]
    simp

/-! ## Lexemes and tokens -/

theorem lexemesOf_dropTrivia (ts : List Token) :
    lexemesOf (ts.drop (ts.takeWhile (·.kind.isTrivia)).length) = lexemesOf ts := by
  induction ts with
  | nil => rfl
  | cons t ts ih =>
      by_cases h : t.kind.isTrivia = true
      · simpa [h, lexemesOf] using ih
      · simp [h]

/-- Tokens do not start with a blank or a comment. -/
def Exposed (ts : List Token) : Prop :=
  ∀ t ∈ ts.head?, t.kind.isTrivia = false

theorem exposed_dropTrivia (ts : List Token) : Exposed (ts.drop (ts.takeWhile (·.kind.isTrivia)).length) := by
  induction ts with
  | nil => simp [Exposed]
  | cons t ts ih =>
      by_cases h : t.kind.isTrivia = true
      · simpa [h] using ih
      · simp [h, Exposed]

theorem Exposed.takeWhile_eq_nil {ts : List Token} (h : Exposed ts) : ts.takeWhile (·.kind.isTrivia) = [] := by
  cases ts with
  | nil => rfl
  | cons t ts => exact List.takeWhile_cons_of_neg (by simp [h t rfl])

theorem Exposed.lexemesOf_cons {t : Token} {ts : List Token} (h : Exposed (t :: ts)) : lexemesOf (t :: ts) =
    { kind := t.kind, text := t.text, joint := ts.head?.any (!·.kind.isTrivia), bareReturn := t.bareReturn } ::
      lexemesOf ts := by
  rw [lexemesOf, if_neg (by simp [h t rfl])]

/-- Lexemes without gaps between them stand for as many tokens. -/
theorem lexemesOf_drop {ts : List Token} (h : Exposed ts) {count : Nat}
    (hj : ∀ l ∈ (lexemesOf ts).take (count - 1), l.joint = true) : lexemesOf (ts.drop count) = (lexemesOf ts).drop count := by
  induction count generalizing ts with
  | zero => rfl
  | succ count ih =>
      cases ts with
      | nil => simp [lexemesOf]
      | cons t ts =>
          rw [h.lexemesOf_cons] at hj ⊢
          rw [List.drop_succ_cons, List.drop_succ_cons]
          cases count with
          | zero => rfl
          | succ count =>
              simp only [Nat.add_sub_cancel, List.take_succ_cons, List.mem_cons, forall_eq_or_imp] at hj
              refine ih (fun u hu => ?_) hj.2
              simpa [Option.mem_def.mp hu] using hj.1

/-! ## Filling shapes in step -/

/-- A tree in which every name is one word. -/
inductive SyntaxTree.Named : SyntaxTree → Prop where
  | token (kind : TokenKind) (text : String) : Named (.token kind text)
  | node {kind : NodeKind} {children : List SyntaxTree}
      (name : kind = .name → ∃ k text, children = [.token k text] ∧ IsWord text) (below : ∀ c ∈ children, c.Named) :
      Named (.node kind children)

theorem named_tokens (ts : List Token) : ∀ t ∈ ts.map (·.tree), t.Named := by
  intro t ht
  obtain ⟨u, _, rfl⟩ := List.mem_map.mp ht
  exact .token _ _

theorem named_gluedTree (ts : List Token) (count : Nat) : ∀ t ∈ gluedTree ts count, t.Named := by
  unfold gluedTree
  intro t ht
  split at ht
  · cases ht
  · rw [List.mem_singleton.mp ht]
    exact .token _ _
  · rw [List.mem_singleton.mp ht]
    exact .token _ _

theorem named_cutToken (kind : TokenKind) (length : Nat) (ts : List Token) :
    ∀ t ∈ (cutToken kind length ts).1, t.Named := by
  intro t ht
  cases ts with
  | nil => cases ht
  | cons u us =>
      rw [List.mem_singleton.mp ht]
      exact .token _ _

theorem lexemesOf_cutToken {kind : TokenKind} {length : Nat} {ts : List Token} {l : Lexeme} {ls : Lexemes}
    (he : Exposed ts) (h : lexemesOf ts = l :: ls) : lexemesOf (cutToken kind length ts).2 = l.cut length ls := by
  cases ts with
  | nil => cases h
  | cons t ts =>
      rw [he.lexemesOf_cons] at h
      cases h
      unfold cutToken Lexeme.cut
      dsimp only
      split
      · rfl
      · rw [lexemesOf, if_neg (by simp [he t rfl])]

/-- A name that was read off a word is filled with that word. -/
theorem fillAll_name {ts : List Token} (he : Exposed ts) (h : ∃ l ∈ (lexemesOf ts).head?, IsWord l.text) :
    ∃ k text, (Shape.fillAll [.tokens 1] ts).1 = [.token k text] ∧ IsWord text := by
  obtain ⟨l, hl, hw⟩ := h
  cases ts with
  | nil => cases hl
  | cons t ts =>
      rw [he.lexemesOf_cons] at hl
      cases hl
      refine ⟨t.kind, t.text, ?_, hw⟩
      simp [Shape.fillAll, Shape.fill, he.takeWhile_eq_nil, gluedTree, Token.tree]

/-- Shapes that were read off the lexemes of tokens take these lexemes when they are filled from the tokens. -/
theorem Reads.fillAll {ss : List Shape} {input out : Lexemes} (h : Reads ss input out) {ts : List Token}
    (hts : lexemesOf ts = input) :
    lexemesOf (Shape.fillAll ss ts).2 = out ∧ ∀ t ∈ (Shape.fillAll ss ts).1, t.Named := by
  induction h generalizing ts with
  | nil => simp [Shape.fillAll, hts]
  | @tokens count ss input out joint _ ih =>
      have he := exposed_dropTrivia ts
      have hl := hts ▸ lexemesOf_dropTrivia ts
      obtain ⟨hout, hnamed⟩ := ih (by rw [lexemesOf_drop he (by rwa [hl]), hl])
      simp only [Shape.fillAll, Shape.fill, List.mem_append, or_imp, forall_and]
      exact ⟨hout, ⟨named_tokens _, named_gluedTree _ _⟩, hnamed⟩
  | @part kind length ss l input out _ ih =>
      have he := exposed_dropTrivia ts
      obtain ⟨hout, hnamed⟩ := ih (lexemesOf_cutToken he (hts ▸ lexemesOf_dropTrivia ts))
      simp only [Shape.fillAll, Shape.fill, List.mem_append, or_imp, forall_and]
      exact ⟨hout, ⟨named_tokens _, named_cutToken _ _ _⟩, hnamed⟩
  | @node kind children ss input mid out name _ _ ih ih' =>
      have he := exposed_dropTrivia ts
      have hl := hts ▸ lexemesOf_dropTrivia ts
      obtain ⟨hmid, hbelow⟩ := ih hl
      obtain ⟨hout, hnamed⟩ := ih' hmid
      simp only [Shape.fillAll, Shape.fill, List.mem_append, List.mem_singleton, or_imp, forall_and, forall_eq]
      refine ⟨hout, ⟨named_tokens _, .node (fun hk => ?_) ?_⟩, hnamed⟩
      · obtain ⟨rfl, hw⟩ := name hk
        subst hk
        obtain ⟨k, text, hfill, htext⟩ := fillAll_name he (by rwa [hl])
        refine ⟨k, text, ?_, htext⟩
        simp [hfill, NodeKind.takesComments]
      · simp only [List.mem_append, or_imp, forall_and]
        exact ⟨named_tokens _, hbelow⟩

theorem Reads.fillFile {ss : List Shape} {out : Lexemes} {ts : List Token} (h : Reads ss (lexemesOf ts) out) :
    (fillFile ss ts).Named := by
  refine .node (fun hk => by cases hk) fun c hc => ?_
  rcases List.mem_append.mp hc with hc | hc
  · exact (h.fillAll rfl).2 c hc
  · exact named_tokens _ c hc

end AsyncLint.Source
