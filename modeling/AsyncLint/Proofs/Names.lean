import Mathlib.Data.List.TakeWhile
import AsyncLint.Proofs.Grammar

/-!
# Names are words

The scan gives the kind of an identifier or of a keyword to words only, which are written in the characters of names.
Every name in the tree of a source is therefore one word.
-/

namespace AsyncLint.Source

open Text

/-- Whether tokens of this kind are words. -/
def TokenKind.isWord : TokenKind → Bool
  | .ident | .keyword | .underscore => true
  | _ => false

namespace Scan

/-! ## What is not a word -/

theorem isWord_rawString {kind : TokenKind} (hk : kind.isWord = false) (skip : Nat) (cs : List Char) :
    (rawString kind skip cs).kind.isWord = false := by
  unfold rawString
  dsimp only
  split
  · split <;> exact hk
  · exact hk
  · exact hk

theorem isWord_string {kind : TokenKind} (hk : kind.isWord = false) (form : LiteralForm) (skip : Nat) (cs : List Char) :
    (string kind form skip cs).kind.isWord = false := by
  unfold string
  dsimp only
  split <;> exact hk

theorem isWord_character {kind : TokenKind} (hk : kind.isWord = false) (form : LiteralForm) (skip : Nat)
    (cs : List Char) : (character kind form skip cs).kind.isWord = false := by
  unfold character
  dsimp only
  repeat' split
  all_goals exact hk

theorem isWord_quote (cs : List Char) : (quote cs).kind.isWord = false := by
  unfold quote
  split
  · split
    · exact isWord_character rfl _ _ _
    · split
      · rfl
      · dsimp only
        split <;> rfl
  · exact isWord_character rfl _ _ _

theorem isWord_fraction (length : Nat) (cs : List Char) : (fraction length cs).kind.isWord = false := by
  unfold fraction
  split
  · split
    · rfl
    · split
      · dsimp only
        split
        · split <;> rfl
        · rfl
      · rfl
  · split <;> rfl
  · rfl

theorem isWord_number (c : Char) (cs : List Char) : (number c cs).kind.isWord = false := by
  have hbased : ∀ isDigit, (based isDigit cs).kind.isWord = false := by
    intro isDigit
    unfold based
    dsimp only
    split
    · exact isWord_fraction _ _
    · rfl
  unfold number
  split
  · split
    · exact hbased _
    · exact hbased _
    · exact hbased _
    · exact isWord_fraction _ _
  · exact isWord_fraction _ _

/-! ## Words -/

/-- What a scan says about the characters from `c` on is right if it says that they are a word. -/
structure Proper (scan : Scan) (c : Char) (cs : List Char) : Prop where
  ident : scan.kind = .ident → IsWord (String.ofList (c :: cs.take scan.extra))
  keyword : scan.kind = .keyword ∨ scan.kind = .underscore →
    Parse.width (String.ofList (c :: cs.take scan.extra)) = 1

variable {scan : Scan} {c : Char} {cs : List Char}

theorem proper_of_isWord (h : scan.kind.isWord = false) : scan.Proper c cs := by
  constructor
  · intro hk
    rw [hk] at h
    cases h
  · rintro (hk | hk) <;> rw [hk] at h <;> cases h

theorem isWord_ofList (hc : isWordChar c = true) (hcs : ∀ d ∈ cs, isWordChar d = true) :
    IsWord (String.ofList (c :: cs)) := by
  refine ⟨fun h => ?_, ?_⟩
  · simpa using congrArg String.toList h
  · simpa using ⟨hc, hcs⟩

theorem isWordChar_of_mem_take_run {d : Char} (h : d ∈ cs.take (run isIdentContinue cs)) : isWordChar d = true := by
  rw [run, ← List.prefix_iff_eq_take.mp (cs.takeWhile_prefix isIdentContinue)] at h
  simp [isWordChar, List.mem_takeWhile_imp h]

theorem width_of_mem_keywords {text : String} (h : text ∈ keywords) : Parse.width text = 1 := by
  have hall : ∀ text ∈ keywords, Parse.width text = 1 := by decide
  exact hall text h

theorem proper_word (hc : isIdentStart c = true) : (word c cs).Proper c cs := by
  have hword : IsWord (String.ofList (c :: cs.take (run isIdentContinue cs))) :=
    isWord_ofList (by simp [isWordChar, hc]) fun _ => isWordChar_of_mem_take_run
  unfold word
  dsimp only
  split
  · exact ⟨fun _ => hword, by rintro (h | h) <;> cases h⟩
  · split
    · rename_i htext
      obtain rfl : c = '_' := by
        have h := congrArg String.toList htext
        rw [String.toList_ofList] at h
        exact (List.cons.inj h).1
      exact ⟨fun h => (by cases h), fun _ => (by rw [List.take_zero]; decide)⟩
    · by_cases hk : keywords.contains (String.ofList (c :: cs.take (run isIdentContinue cs))) = true
      · refine ⟨fun h => ?_, fun _ => width_of_mem_keywords (List.contains_iff_mem.mp hk)⟩
        rw [if_pos hk] at h
        cases h
      · refine ⟨fun _ => hword, fun h => ?_⟩
        rw [if_neg hk] at h
        rcases h with h | h <;> cases h

/-- A raw name, after its mark. -/
theorem isWord_rawName {d : Char} {rest : List Char} (hd : isIdentStart d = true) :
    IsWord (String.ofList ('r' :: ('#' :: d :: rest).take (1 + suffix (d :: rest)))) := by
  rw [suffix, if_pos hd, ← Nat.add_assoc, Nat.add_comm 1 1, Nat.add_comm, ← Nat.add_assoc]
  refine isWord_ofList (by decide +kernel) ?_
  simp only [List.take_succ_cons, List.mem_cons, forall_eq_or_imp]
  exact ⟨by decide +kernel, by simp [isWordChar, hd], fun _ => isWordChar_of_mem_take_run⟩

theorem proper_token (c : Char) (cs : List Char) : (token c cs).Proper c cs := by
  unfold token
  split
  · exact proper_of_isWord rfl
  · exact proper_of_isWord rfl
  · exact proper_of_isWord (isWord_rawString rfl _ _)
  · split
    · exact ⟨fun _ => isWord_rawName ‹_›, by rintro (h | h) <;> cases h⟩
    · exact proper_of_isWord (isWord_rawString rfl _ _)
  · exact proper_of_isWord (isWord_rawString rfl _ _)
  · exact proper_of_isWord (isWord_character rfl _ _ _)
  · exact proper_of_isWord (isWord_string rfl _ _ _)
  · exact proper_of_isWord (isWord_rawString rfl _ _)
  · exact proper_of_isWord (isWord_rawString rfl _ _)
  · exact proper_of_isWord (isWord_string rfl _ _ _)
  · exact proper_of_isWord (isWord_rawString rfl _ _)
  · exact proper_of_isWord (isWord_rawString rfl _ _)
  · exact proper_of_isWord (isWord_string rfl _ _ _)
  · exact proper_of_isWord (isWord_quote _)
  · split
    · exact proper_of_isWord rfl
    · split
      · exact proper_word ‹_›
      · split
        · exact proper_of_isWord (isWord_number _ _)
        · split <;> exact proper_of_isWord rfl

end Scan

/-! ## Names in trees -/

theorem exists_token_of_mem_lexemesOf {ts : List Token} {l : Lexeme} (h : l ∈ lexemesOf ts) :
    ∃ t ∈ ts, l.kind = t.kind ∧ l.text = t.text := by
  induction ts with
  | nil => cases h
  | cons t ts ih =>
      rw [lexemesOf] at h
      split at h
      · obtain ⟨u, hu, hl⟩ := ih h
        exact ⟨u, List.mem_cons_of_mem _ hu, hl⟩
      · rcases List.mem_cons.mp h with rfl | h
        · exact ⟨t, List.mem_cons_self, rfl, rfl⟩
        · obtain ⟨u, hu, hl⟩ := ih h
          exact ⟨u, List.mem_cons_of_mem _ hu, hl⟩

/-- Every token is what some scan cuts off, unless it is the interpreter line. -/
theorem exists_scan_of_mem_tokensOf {cs : List Char} {t : Token} (h : t ∈ tokensOf cs) :
    ∃ c rest, t.kind = (Scan.token c rest).kind ∧
      t.text = String.ofList (c :: rest.take (Scan.token c rest).extra) := by
  induction cs using tokensOf.induct with
  | case1 => simp [tokensOf] at h
  | case2 c rest _ ih =>
      rw [tokensOf, List.mem_cons] at h
      rcases h with rfl | h
      · exact ⟨c, rest, rfl, rfl⟩
      · exact ih h

theorem proper_of_mem_lexemes {source : String} {l : Lexeme} (h : l ∈ lexemesOf (tokenize source)) : l.Proper := by
  obtain ⟨t, ht, hkind, htext⟩ := exists_token_of_mem_lexemesOf h
  have hscan : ∀ cs, t ∈ tokensOf cs → l.Proper := by
    intro cs ht
    obtain ⟨c, rest, hk, hx⟩ := exists_scan_of_mem_tokensOf ht
    have hproper := Scan.proper_token c rest
    rw [hk] at hkind
    rw [hx] at htext
    exact ⟨fun hl => htext ▸ hproper.ident (hkind ▸ hl), fun hl => htext ▸ hproper.keyword (hkind ▸ hl)⟩
  unfold tokenize at ht
  dsimp only at ht
  split at ht
  · rcases List.mem_cons.mp ht with rfl | ht
    · constructor
      · intro hl
        cases hkind.symm.trans hl
      · rintro (hl | hl) <;> cases hkind.symm.trans hl
    · exact hscan _ ht
  · exact hscan _ ht

/-- Every name in the tree of a source is one word. -/
theorem parse?_named {source : String} {tree : SyntaxTree} (h : parse? source = some tree) : tree.Named := by
  obtain ⟨shapes, hshapes, rfl⟩ := exists_shapes_of_parse? h
  obtain ⟨out, hreads⟩ := shapesOf?_reads hshapes fun l => proper_of_mem_lexemes
  exact hreads.fillFile

end AsyncLint.Source
