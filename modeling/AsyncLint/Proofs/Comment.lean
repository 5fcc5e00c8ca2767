import AsyncLint.Fixture.Expectation
import AsyncLint.Proofs.Offsets
import AsyncLint.Proofs.Trimming

/-!
# The grammar of expectation comments

Behind its tilde a comment has carets, possibly none, and then a rest. The rest is the word `redundant` with blanks around,
possibly behind an exclamation mark. A comment on which this fails is refused for one of three reasons, the first that
applies: the carets point above the first line, there is no word, or there is something else than the word.
-/

namespace AsyncLint.Expectation

open Text

variable {rest word body : List Char} {negated : Bool} {line carets : Nat}

/-! ## The grammar -/

/-- The rest of a comment is `word` between blanks, behind an exclamation mark if it is negated. -/
inductive Spells : Bool → List Char → List Char → Prop where
  | plain {front word back : List Char} (hfront : AllBlank front) (hback : AllBlank back) :
      Spells false word (front ++ word ++ back)
  | negated {front gap word back : List Char} (hfront : AllBlank front) (hgap : AllBlank gap) (hback : AllBlank back) :
      Spells true word (front ++ '!' :: (gap ++ word ++ back))

/-- What is made of a comment on `line` that has so many carets and then `rest`. -/
inductive Says (line carets : Nat) (rest : List Char) : Except ExpectationError Expectation → Prop where
  | outOfRange (h : line ≤ carets) : Says line carets rest (.error (.outOfRange line))
  | empty {negated : Bool} (h : carets < line) (hrest : Spells negated [] rest) :
      Says line carets rest (.error (.empty line))
  | unknownMarker {body : List Char} (h : carets < line) (hempty : ∀ negated, ¬ Spells negated [] rest)
      (hmarker : ∀ negated, ¬ Spells negated marker rest) (hbody : Trims rest body) :
      Says line carets rest (.error (.unknownMarker line (String.ofList body)))
  | expectation {negated : Bool} {body : List Char} (h : carets < line) (hrest : Spells negated marker rest)
      (hbody : Trims rest body) :
      Says line carets rest (.ok { line := line - carets, negated, raw := String.ofList body })

/-! ## The word of a rest -/

/-- Whether there is an exclamation mark in front, and the word. -/
def wordOf (rest : List Char) : Bool × List Char :=
  if (trim rest).head? = some '!' then (true, trim (trim rest).tail) else (false, trim rest)

theorem wordOf_of_trims_sign {tail : List Char} (hrest : Trims rest ('!' :: tail)) (htail : Trims tail word) :
    wordOf rest = (true, word) := by
  rw [wordOf, hrest.trim_eq, if_pos List.head?_cons, List.tail_cons, htail.trim_eq]

theorem wordOf_of_spells (hword : Trims word word) (hsign : word.head? ≠ some '!') (h : Spells negated word rest) :
    wordOf rest = (negated, word) := by
  cases h with
  | @plain front _ back hfront hback =>
      have hrest : Trims (front ++ word ++ back) word := ⟨⟨front, back, rfl, hfront, hback⟩, hword.head, hword.last⟩
      rw [wordOf, hrest.trim_eq, if_neg hsign]
  | @negated front gap _ back hfront hgap hback =>
      have hmark : ∀ c ∈ some '!', isBlank c = false := by
        rintro c ⟨⟩
        decide
      by_cases hnil : word = []
      · -- without a word, the blanks behind the mark are trimmed with the others
        subst hnil
        have hrest : Trims (front ++ '!' :: (gap ++ [] ++ back)) ['!'] :=
          ⟨⟨front, gap ++ back, by simp, hfront, hgap.append hback⟩, hmark, hmark⟩
        exact wordOf_of_trims_sign hrest hword
      · have hlast : ('!' :: (gap ++ word)).getLast? = word.getLast? := by
          rw [← List.cons_append, List.getLast?_append, Option.or_of_isSome (by simpa using hnil)]
        have htail : Trims (gap ++ word) word := ⟨⟨gap, [], by simp, hgap, allBlank_nil⟩, hword.head, hword.last⟩
        refine wordOf_of_trims_sign ⟨⟨front, back, by simp, hfront, hback⟩, hmark, ?_⟩ htail
        rw [hlast]
        exact hword.last

theorem spells_wordOf (rest : List Char) : Spells (wordOf rest).1 (wordOf rest).2 rest := by
  obtain ⟨front, back, hrest, hfront, hback⟩ := (trims_trim rest).between
  unfold wordOf
  split
  · rename_i hsign
    obtain ⟨tail, htail⟩ := List.head?_eq_some_iff.mp hsign
    obtain ⟨gap, back', htrim, hgap, hback'⟩ := (trims_trim tail).between
    have hall : rest = front ++ '!' :: (gap ++ trim tail ++ (back' ++ back)) := by
      rw [hrest, htail]
      conv => lhs; rw [htrim]
      simp
    rw [htail, List.tail_cons]
    conv => rhs; rw [hall]
    exact .negated hfront hgap (hback'.append hback)
  · conv => rhs; rw [hrest]
    exact .plain hfront hback

/-- A word without blanks and without an exclamation mark at its ends is spelt by exactly the rests whose word it is. -/
theorem spells_iff (hword : Trims word word) (hsign : word.head? ≠ some '!') :
    Spells negated word rest ↔ wordOf rest = (negated, word) := by
  constructor
  · exact wordOf_of_spells hword hsign
  · intro h
    have hspells := spells_wordOf rest
    rwa [h] at hspells

theorem trims_nil : Trims [] [] := (trims_trim []).self

theorem trims_marker : Trims marker marker := trims_iff.mpr (by decide)

theorem spells_nil_iff : Spells negated [] rest ↔ wordOf rest = (negated, []) :=
  spells_iff trims_nil (by simp)

theorem spells_marker_iff : Spells negated marker rest ↔ wordOf rest = (negated, marker) :=
  spells_iff trims_marker (by decide)

/-! ## Reading a comment -/

theorem exists_carets (text : List Char) :
    ∃ carets rest, text = List.replicate carets '^' ++ rest ∧ rest.head? ≠ some '^' := by
  refine ⟨(text.takeWhile (· = '^')).length, text.dropWhile (· = '^'), ?_, fun h => ?_⟩
  · have hcarets : ∀ c ∈ text.takeWhile (· = '^'), c = '^' := fun c hc => by simpa using List.mem_takeWhile_imp hc
    rw [← List.eq_replicate_of_mem hcarets, List.takeWhile_append_dropWhile]
  · have hstop := List.head?_dropWhile_not (· = '^') text
    rw [h] at hstop
    simp at hstop

/-- A caret is one byte, so the rest starts as many bytes behind as there are carets. -/
theorem byteLength_replicate_caret (carets : Nat) : byteLength (List.replicate carets '^') = carets := by
  induction carets with
  | zero => rfl
  | succ carets ih =>
      rw [List.replicate_succ, byteLength, ih, Nat.add_comm]
      rfl

theorem ofComment_eq (hrest : rest.head? ≠ some '^') : ofComment (List.replicate carets '^' ++ rest) line =
    if line ≤ carets then .error (.outOfRange line)
    else if (wordOf rest).2 = [] then .error (.empty line)
    else if (wordOf rest).2 ≠ marker then .error (.unknownMarker line (String.ofList (trim rest)))
    else .ok { line := line - carets, negated := (wordOf rest).1, raw := String.ofList (trim rest) } := by
  have hcarets : (List.replicate carets '^' ++ rest).takeWhile (· = '^') = List.replicate carets '^' := by
    refine takeWhile_append_eq (by simp) fun c hc => decide_eq_false ?_
    rintro rfl
    exact hrest hc
  have hdrop : (List.replicate carets '^' ++ rest).drop carets = rest := by
    rw [List.drop_left' (by simp)]
  unfold ofComment wordOf
  simp only [hcarets, List.length_replicate, hdrop]
  by_cases hsign : (trim rest).head? = some '!'
  · simp only [hsign, if_pos, decide_true]
  · simp only [hsign, if_false, decide_false]

theorem says_ofComment (hrest : rest.head? ≠ some '^') :
    Says line carets rest (ofComment (List.replicate carets '^' ++ rest) line) := by
  have hword : wordOf rest = ((wordOf rest).1, (wordOf rest).2) := rfl
  rw [ofComment_eq hrest]
  split
  · exact .outOfRange ‹_›
  · rename_i hline
    split
    · rename_i hempty
      rw [hempty] at hword
      exact .empty (Nat.lt_of_not_le hline) (spells_nil_iff.mpr hword)
    · rename_i hempty
      split
      · rename_i hmarker
        refine .unknownMarker (Nat.lt_of_not_le hline) (fun negated h => hempty ?_) (fun negated h => hmarker ?_)
          (trims_trim rest)
        · rw [spells_nil_iff.mp h]
        · rw [spells_marker_iff.mp h]
      · rename_i hmarker
        rw [Decidable.not_not.mp hmarker] at hword
        exact .expectation (Nat.lt_of_not_le hline) (spells_marker_iff.mpr hword) (trims_trim rest)

theorem Says.ofComment_eq {result : Except ExpectationError Expectation} (hrest : rest.head? ≠ some '^')
    (h : Says line carets rest result) : ofComment (List.replicate carets '^' ++ rest) line = result := by
  rw [Expectation.ofComment_eq hrest]
  cases h with
  | outOfRange h => exact if_pos h
  | empty h hspells => rw [if_neg (Nat.not_le.mpr h), spells_nil_iff.mp hspells, if_pos rfl]
  | unknownMarker h hempty hmarker hbody =>
      have hword := spells_wordOf rest
      rw [if_neg (Nat.not_le.mpr h), if_neg, if_pos, hbody.trim_eq]
      · exact fun hm => hmarker _ (hm ▸ hword)
      · exact fun hn => hempty _ (hn ▸ hword)
  | expectation h hspells hbody =>
      have hne : marker ≠ [] := by decide
      rw [if_neg (Nat.not_le.mpr h), spells_marker_iff.mp hspells, if_neg hne, if_neg (fun hm => hm rfl), hbody.trim_eq]

/-- The text of an expectation, read again on the line it speaks about, gives the expectation. -/
theorem Says.reread {e : Expectation} (h : Says line carets rest (.ok e)) : ofComment e.raw.toList e.line = .ok e := by
  cases h with
  | @expectation negated body h hspells hbody =>
      have htrim := hbody.trim_eq
      have hword := spells_marker_iff.mp hspells
      have hself : wordOf body = (negated, marker) := by
        rw [← hword, wordOf, wordOf, htrim, hbody.self.trim_eq]
      have hstart : body.head? ≠ some '^' := by
        intro hcaret
        rw [wordOf, hbody.self.trim_eq, hcaret, if_neg (by decide)] at hself
        rw [(Prod.mk.inj hself).2] at hcaret
        exact absurd hcaret (by decide)
      have hagain : Says (line - carets) 0 body (.ok { line := line - carets - 0, negated, raw := String.ofList body }) :=
        .expectation (Nat.sub_pos_of_lt h) (spells_marker_iff.mpr hself) hbody.self
      rw [String.toList_ofList]
      exact hagain.ofComment_eq hstart

/-- A comment is read as the grammar says. Its carets are as many bytes as characters, and an expectation is also found in
its own text. -/
theorem ofComment_follows_grammar (text : List Char) (line : Nat) :
    (∃ carets rest, text = List.replicate carets '^' ++ rest ∧ rest.head? ≠ some '^' ∧
      IsBoundary (String.ofList text) carets ∧
      ∀ result, ofComment text line = result ↔ Says line carets rest result) ∧
    ∀ e, ofComment text line = .ok e → ofComment e.raw.toList e.line = .ok e := by
  obtain ⟨carets, rest, rfl, hrest⟩ := exists_carets text
  have hsays : Says line carets rest (ofComment (List.replicate carets '^' ++ rest) line) := says_ofComment hrest
  refine ⟨⟨carets, rest, rfl, hrest, ?_, fun result => ⟨fun h => h ▸ hsays, Says.ofComment_eq hrest⟩⟩, fun e he => ?_⟩
  · exact isBoundary_iff.mpr ⟨_, rest, String.toList_ofList, (byteLength_replicate_caret carets).symm⟩
  · rw [he] at hsays
    exact hsays.reread

theorem ofComment_follows_grammar_negated :
    ofComment "^^ ! redundant ".toList 5 = .ok { line := 3, negated := true, raw := "! redundant" } ∧
    ofComment "! redundant".toList 3 = .ok { line := 3, negated := true, raw := "! redundant" } := by
  have h : ofComment "^^ ! redundant ".toList 5 = .ok { line := 3, negated := true, raw := "! redundant" } := by decide
  exact ⟨h, (ofComment_follows_grammar "^^ ! redundant ".toList 5).2 _ h⟩

end AsyncLint.Expectation
