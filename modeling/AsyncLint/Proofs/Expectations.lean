import AsyncLint.Fixture.Verify
import AsyncLint.Proofs.Findings
import AsyncLint.Proofs.Await

/-!
# What a fixture that passes has shown

The comments of a fixture are put into a map by the lines they speak about, and so are the findings. A fixture passes
exactly if the two maps agree. Of several comments about one line only the last is in the map, so all comments are met
exactly if no two of them contradict each other.
-/

namespace AsyncLint

open Source Text

/-! ## Maps by line -/

namespace LineMap

variable {α : Type} {m : LineMap α} {line line' : Nat} {a : α}

/-- Each line has one entry at most, and the entries are in order. -/
def Sorted (m : LineMap α) : Prop :=
  m.Pairwise fun x y => x.1 < y.1

theorem get?_cons (l : Nat) (b : α) (rest : LineMap α) (line : Nat) :
    get? ((l, b) :: rest) line = if line = l then some b else rest.get? line := by
  by_cases h : line = l
  · simp [get?, h]
  · simp [get?, List.lookup_cons, h, beq_eq_false_iff_ne.mpr h]

@[simp]
theorem get?_insert (m : LineMap α) (line line' : Nat) (a : α) :
    (m.insert line a).get? line' = if line' = line then some a else m.get? line' := by
  induction m with
  | nil => exact get?_cons line a [] line'
  | cons entry rest ih =>
      obtain ⟨l, b⟩ := entry
      rw [insert]
      split
      · rw [get?_cons]
      · split
        · rename_i hl
          subst hl
          rw [get?_cons, get?_cons]
          split <;> rfl
        · rename_i hne
          rw [get?_cons, get?_cons, ih]
          by_cases hl : line' = l
          · rw [if_pos hl, if_pos hl, if_neg (fun h => hne (h.symm.trans hl))]
          · rw [if_neg hl, if_neg hl]

theorem mem_insert {x : Nat × α} (h : x ∈ m.insert line a) : x = (line, a) ∨ x ∈ m := by
  induction m with
  | nil => exact Or.inl (List.mem_singleton.mp h)
  | cons entry rest ih =>
      rw [insert] at h
      split at h
      · exact List.mem_cons.mp h
      · split at h
        · exact (List.mem_cons.mp h).imp_right (List.mem_cons_of_mem _)
        · rcases List.mem_cons.mp h with rfl | h
          · exact Or.inr List.mem_cons_self
          · exact (ih h).imp_right (List.mem_cons_of_mem _)

theorem Sorted.insert (h : m.Sorted) : (m.insert line a).Sorted := by
  induction m with
  | nil => exact List.pairwise_singleton _ _
  | cons entry rest ih =>
      obtain ⟨hfirst, hrest⟩ := List.pairwise_cons.mp h
      rw [LineMap.insert]
      split
      · rename_i hlt
        refine List.pairwise_cons.mpr ⟨fun x hx => ?_, h⟩
        rcases List.mem_cons.mp hx with rfl | hx
        · exact hlt
        · exact Nat.lt_trans hlt (hfirst x hx)
      · split
        · rename_i heq
          exact List.pairwise_cons.mpr ⟨fun x hx => heq ▸ hfirst x hx, hrest⟩
        · refine List.pairwise_cons.mpr ⟨fun x hx => ?_, ih hrest⟩
          rcases mem_insert hx with rfl | hx
          · change entry.1 < line
            omega
          · exact hfirst x hx

theorem Sorted.mem_iff (h : m.Sorted) : (line, a) ∈ m ↔ m.get? line = some a := by
  induction m with
  | nil => simp [get?]
  | cons entry rest ih =>
      obtain ⟨hfirst, hrest⟩ := List.pairwise_cons.mp h
      obtain ⟨l, b⟩ := entry
      rw [List.mem_cons, Prod.mk.injEq, get?_cons]
      by_cases hl : line = l
      · have hnot : (line, a) ∉ rest := fun hm => Nat.ne_of_gt (hfirst _ hm) hl
        rw [or_iff_left hnot, and_iff_right hl, if_pos hl, Option.some.injEq, eq_comm]
      · rw [if_neg hl, ← ih hrest]
        simp [hl]

end LineMap

/-! ## Comments -/

theorem Text.dropLeading?_eq_some_iff {part cs rest : List Char} :
    dropLeading? part cs = some rest ↔ cs = part ++ rest := by
  unfold dropLeading?
  constructor
  · intro h
    split at h
    · rename_i hp
      obtain ⟨more, rfl⟩ := List.isPrefixOf_iff_prefix.mp hp
      rw [← Option.some.inj h, List.drop_left]
    · cases h
  · rintro rfl
    rw [if_pos (List.isPrefixOf_iff_prefix.mpr (List.prefix_append _ _)), List.drop_left]

namespace Expectation

variable {source : String} {e : Expectation}

/-- What follows `//~` in a comment of the source, and the line on which the comment starts. -/
def Comment (source : String) (line : Nat) (text : List Char) : Prop :=
  ∃ before t after, tokenize source = before ++ t :: after ∧ t.kind = .comment ∧ t.text.toList = opening ++ text ∧
    line = 1 + (before.flatMap (·.text.toList)).count '\n'

/-- A comment of the source says `e`. -/
def StatedIn (source : String) (e : Expectation) : Prop :=
  ∃ line text, Comment source line text ∧ ofComment text line = .ok e

theorem mem_comments_iff {line l : Nat} {text : List Char} {ts : List Token} : (l, text) ∈ comments line ts ↔
    ∃ before t after, ts = before ++ t :: after ∧ t.kind = .comment ∧ t.text.toList = opening ++ text ∧
      l = line + (before.flatMap (·.text.toList)).count '\n' := by
  induction ts generalizing line with
  | nil => simp [comments]
  | cons t ts ih =>
      have hhead : (l, text) ∈ comments line (t :: ts) ↔
          (t.kind = .comment ∧ t.text.toList = opening ++ text ∧ l = line) ∨
            (l, text) ∈ comments (line + t.text.toList.count '\n') ts := by
        rw [comments]
        by_cases hk : t.kind = .comment
        · cases hd : dropLeading? opening t.text.toList with
          | none =>
              have hne : t.text.toList ≠ opening ++ text := fun h => by
                rw [dropLeading?_eq_some_iff.mpr h] at hd; cases hd
              simp [hk, hne]
          | some rest =>
              have heq := dropLeading?_eq_some_iff.mp hd
              simp [hk, heq, and_comm, eq_comm]
        · simp [hk]
      rw [hhead, ih]
      constructor
      · rintro (⟨hk, ht, rfl⟩ | ⟨before, t', after, rfl, hk, ht, rfl⟩)
        · exact ⟨[], t, ts, rfl, hk, ht, rfl⟩
        · exact ⟨t :: before, t', after, rfl, hk, ht, by simp [Nat.add_assoc]⟩
      · rintro ⟨before, t', after, hts, hk, ht, rfl⟩
        cases before with
        | nil =>
            cases hts
            exact Or.inl ⟨hk, ht, rfl⟩
        | cons t before =>
            cases hts
            exact Or.inr ⟨before, t', after, rfl, hk, ht, by simp [Nat.add_assoc]⟩

/-- What the comments of a source say, in order. -/
def stated (source : String) : List Expectation :=
  (comments 1 (tokenize source)).filterMap fun comment => (ofComment comment.2 comment.1).toOption

theorem mem_stated_iff : e ∈ stated source ↔ StatedIn source e := by
  simp only [stated, List.mem_filterMap, Prod.exists, StatedIn, Comment, mem_comments_iff]
  refine exists_congr fun line => exists_congr fun text => and_congr_right fun _ => ?_
  cases ofComment text line <;> simp [Except.toOption]

/-- Adding comments to a map one by one adds those that are well formed. -/
theorem fst_foldl_add {add : LineMap Expectation × List ExpectationError → Nat × List Char →
      LineMap Expectation × List ExpectationError}
    (hadd : ∀ acc c, (add acc c).1 = (ofComment c.2 c.1).toOption.elim acc.1 fun e => acc.1.insert e.line e)
    (cs : List (Nat × List Char)) (acc : LineMap Expectation × List ExpectationError) :
    (cs.foldl add acc).1 = (cs.filterMap fun comment => (ofComment comment.2 comment.1).toOption).foldl
      (fun m e => LineMap.insert e.line e m) acc.1 := by
  induction cs generalizing acc with
  | nil => rfl
  | cons c cs ih =>
      rw [List.foldl_cons, ih, hadd, List.filterMap_cons]
      cases (ofComment c.2 c.1).toOption <;> rfl

theorem ofSource_fst (source : String) :
    (ofSource source).1 = (stated source).foldl (fun m e => LineMap.insert e.line e m) [] := by
  refine fst_foldl_add (fun acc c => ?_) _ _
  cases ofComment c.2 c.1 <;> rfl

/-- Of the comments about a line the last one counts. -/
theorem get?_ofSource (source : String) (line : Nat) :
    (ofSource source).1.get? line = ((stated source).filter (·.line = line)).getLast? := by
  have key : ∀ (es : List Expectation) (m : LineMap Expectation),
      LineMap.get? (es.foldl (fun m e => LineMap.insert e.line e m) m) line =
        (es.filter (·.line = line)).getLast?.or (m.get? line) := by
    intro es
    induction es with
    | nil => simp
    | cons e es ih =>
        intro m
        rw [List.foldl_cons, ih, LineMap.get?_insert]
        by_cases h : e.line = line
        · rw [if_pos h.symm, List.filter_cons_of_pos (by simpa using h), List.getLast?_cons]
          cases (es.filter (·.line = line)).getLast? <;> rfl
        · rw [if_neg (Ne.symm h), List.filter_cons_of_neg (by simpa using h)]
  rw [ofSource_fst, key]
  exact Option.or_none

theorem sorted_ofSource (source : String) : (ofSource source).1.Sorted := by
  rw [ofSource_fst]
  generalize stated source = es
  have key : ∀ m : LineMap Expectation, m.Sorted → (es.foldl (fun m e => LineMap.insert e.line e m) m).Sorted := by
    induction es with
    | nil => exact fun _ h => h
    | cons e es ih => exact fun m h => ih _ h.insert
  exact key [] List.Pairwise.nil

theorem of_get?_ofSource {line : Nat} (h : (ofSource source).1.get? line = some e) : StatedIn source e ∧ e.line = line := by
  rw [get?_ofSource] at h
  obtain ⟨hmem, hline⟩ := List.mem_filter.mp (List.mem_of_getLast? h)
  exact ⟨mem_stated_iff.mp hmem, by simpa using hline⟩

theorem StatedIn.exists_last (h : StatedIn source e) : ∃ last, (ofSource source).1.get? e.line = some last := by
  rw [get?_ofSource]
  refine Option.isSome_iff_exists.mp ?_
  rw [List.getLast?_isSome]
  exact List.ne_nil_of_mem (List.mem_filter.mpr ⟨mem_stated_iff.mpr h, by simp⟩)

theorem mem_reportedLines_iff {line : Nat} : line ∈ reportedLines (ofSource source).1 ↔
    ∃ e, (ofSource source).1.get? line = some e ∧ e.negated = false := by
  simp only [reportedLines, List.mem_map, List.mem_filter, Prod.exists, (sorted_ofSource source).mem_iff,
    Bool.not_eq_true']
  constructor
  · rintro ⟨key, e, ⟨hget, hneg⟩, rfl⟩
    rw [(of_get?_ofSource hget).2]
    exact ⟨e, hget, hneg⟩
  · rintro ⟨e, hget, hneg⟩
    exact ⟨line, e, ⟨hget, hneg⟩, (of_get?_ofSource hget).2⟩

end Expectation

/-! ## Comparing findings and expectations -/

namespace Fixture

variable {source : String} {findings : List Finding}

theorem get?_insertIfNew {α : Type} (m : LineMap α) (line line' : Nat) (a : α) :
    (m.insertIfNew line a).get? line' = (m.get? line').or (if line' = line then some a else none) := by
  unfold LineMap.insertIfNew
  split
  · rename_i h
    by_cases hl : line' = line
    · obtain ⟨b, hb⟩ := Option.isSome_iff_exists.mp h
      simp [hl, hb]
    · simp [hl]
  · rename_i h
    by_cases hl : line' = line
    · simp_all
    · simp [hl]

theorem get?_firstByLine (findings : List Finding) (line : Nat) :
    (firstByLine findings).get? line = findings.find? (·.location.line = line) := by
  have key : ∀ m : LineMap Finding, LineMap.get? (findings.foldl (fun m f => m.insertIfNew f.location.line f) m) line =
      (m.get? line).or (findings.find? (·.location.line = line)) := by
    induction findings with
    | nil => simp
    | cons f fs ih =>
        intro m
        rw [List.foldl_cons, ih, get?_insertIfNew, Option.or_assoc, List.find?_cons]
        by_cases h : f.location.line = line
        · simp [h]
        · simp [h, Ne.symm h]
  exact key []

theorem sorted_firstByLine (findings : List Finding) : (firstByLine findings).Sorted := by
  have key : ∀ m : LineMap Finding, m.Sorted →
      (findings.foldl (fun m f => m.insertIfNew f.location.line f) m).Sorted := by
    induction findings with
    | nil => exact fun _ h => h
    | cons f fs ih =>
        intro m h
        refine ih _ ?_
        change (if _ then m else m.insert f.location.line f).Sorted
        split
        · exact h
        · exact h.insert
  exact key [] List.Pairwise.nil

/-- There is a finding on the line. -/
def Reports (findings : List Finding) (line : Nat) : Prop :=
  ∃ f ∈ findings, f.location.line = line

theorem isSome_firstByLine {line : Nat} : ((firstByLine findings).get? line).isSome = true ↔ Reports findings line := by
  rw [get?_firstByLine, List.find?_isSome]
  simp [Reports]

/-- Nothing fails exactly if the findings are on the lines whose last comment expects one. -/
theorem failures_eq_nil_iff : failures source (Expectation.ofSource source).1 findings = [] ↔
    ∀ line, Reports findings line ↔ ∃ e, (Expectation.ofSource source).1.get? line = some e ∧ e.negated = false := by
  have hsort : failures source (Expectation.ofSource source).1 findings = [] ↔
      (∀ line ∈ Expectation.reportedLines (Expectation.ofSource source).1, Reports findings line) ∧
      ∀ line f, (line, f) ∈ firstByLine findings →
        ∃ e, (Expectation.ofSource source).1.get? line = some e ∧ e.negated = false := by
    unfold failures
    rw [← List.length_eq_zero_iff, List.length_mergeSort, List.length_eq_zero_iff, List.append_eq_nil_iff,
      List.filterMap_eq_nil_iff, List.filterMap_eq_nil_iff]
    simp [isSome_firstByLine, Option.any_eq_true]
  rw [hsort]
  constructor
  · rintro ⟨hmissing, hunexpected⟩ line
    constructor
    · intro hline
      obtain ⟨f, hf⟩ := Option.isSome_iff_exists.mp (isSome_firstByLine.mpr hline)
      exact hunexpected line f ((sorted_firstByLine findings).mem_iff.mpr hf)
    · exact fun h => hmissing line (Expectation.mem_reportedLines_iff.mpr h)
  · intro h
    refine ⟨fun line hline => (h line).mpr (Expectation.mem_reportedLines_iff.mp hline), fun line f hf => (h line).mp ?_⟩
    exact isSome_firstByLine.mp (by rw [(sorted_firstByLine findings).mem_iff.mp hf]; rfl)

/-- Every failure belongs to some test case. -/
theorem assign_passed_iff (cases : List TestCase) (fs : List Failure) :
    (assign cases fs).all (·.passed) = true ↔ fs = [] := by
  constructor
  · intro h
    rw [List.eq_nil_iff_forall_not_mem]
    intro f hf
    simp only [assign, List.all_append, List.all_map, Bool.and_eq_true, List.all_eq_true] at h
    cases hh : cases.findIdx? (·.covers f.line) with
    | none =>
        have := h.2 f (List.mem_filter.mpr ⟨hf, by simp [hh]⟩)
        simp [CaseResult.passed] at this
    | some i =>
        obtain ⟨hi, _⟩ := List.findIdx?_eq_some_iff_getElem.mp hh
        have := h.1 (cases[i], i) (List.mem_zipIdx_iff_getElem?.mpr (List.getElem?_eq_getElem hi))
        simp only [Function.comp_apply, CaseResult.passed, List.isEmpty_iff, List.map_eq_nil_iff,
          List.filter_eq_nil_iff] at this
        exact this f hf (by simp [hh])
  · rintro rfl
    simp [assign, CaseResult.passed]

/-! ## Fixtures that pass -/

variable {path : String} {result : FixtureResult}

theorem verify_eq_ok_iff : verify path source = .ok result ↔
    (Expectation.ofSource source).2 = [] ∧ ∃ config file findings, Fixture.config source = .ok config ∧
      parse? source = some file ∧ config.rule.run (unitOfTree path source file config.rust) = .ok findings ∧
      failures source (Expectation.ofSource source).1 findings = [] ∧
      { path, cases := compare source file (Expectation.ofSource source).1 findings } = result := by
  unfold verify
  cases herrors : (Expectation.ofSource source).2 with
  | cons e es => simp [herrors, throw, throwThe, MonadExceptOf.throw, bind, Except.bind]
  | nil =>
      cases Fixture.config source with
      | error e => simp [herrors, Except.mapError, bind, Except.bind]
      | ok config =>
          cases parse? source with
          | none => simp [herrors, Except.mapError, bind, Except.bind, throw, throwThe, MonadExceptOf.throw]
          | some file =>
              cases hrun : config.rule.run (unitOfTree path source file config.rust) with
              | error e => simp [herrors, hrun, Except.mapError, bind, Except.bind]
              | ok findings =>
                  have hpassed : FixtureResult.passed
                      { path, cases := compare source file (Expectation.ofSource source).1 findings } = true ↔
                      failures source (Expectation.ofSource source).1 findings = [] := assign_passed_iff _ _
                  by_cases h : failures source (Expectation.ofSource source).1 findings = []
                  · simp [herrors, hrun, Except.mapError, bind, Except.bind, pure, Except.pure, hpassed, h]
                  · simp [herrors, hrun, Except.mapError, bind, Except.bind, throw, throwThe, MonadExceptOf.throw,
                      hpassed, h]

theorem reports_run_iff {u : CompileUnit} {rule : RuleConfig} (hu : u.TargetsValid) (h : rule.run u = .ok findings)
    {line : Nat} : Reports findings line ↔ line ∈ ((rule.reported u).filterMap (rule.finding? u)).map (·.location.line) := by
  rw [run_eq_sortFindings rule hu] at h
  cases h
  simp [Reports, mem_sortFindings]

/-- A fixture with the default configuration passes if the rule reports the lines whose last comments expect a finding. -/
theorem exists_verify_eq_ok (path source : String) (herrors : (Expectation.ofSource source).2 = [])
    (hconfig : Fixture.config source = .ok {})
    (hlines : ((unitOfSource? path source {}).map fun u =>
      ((RuleConfig.reported {} u).filterMap (RuleConfig.finding? {} u)).map (·.location.line)) =
        some (Expectation.reportedLines (Expectation.ofSource source).1)) :
    ∃ result u findings, verify path source = .ok result ∧ unitOfSource? path source {} = some u ∧
      RuleConfig.run {} u = .ok findings ∧
      ∀ line, Reports findings line ↔ line ∈ Expectation.reportedLines (Expectation.ofSource source).1 := by
  obtain ⟨u, hu, hlines⟩ := Option.map_eq_some_iff.mp hlines
  obtain ⟨file, hfile, rfl⟩ := Option.map_eq_some_iff.mp hu
  have hvalid := targetsValid_unitOfTree path source file {}
  have hrun := run_eq_sortFindings {} hvalid
  have hreports : ∀ line, Reports _ line ↔ line ∈ Expectation.reportedLines (Expectation.ofSource source).1 :=
    fun line => hlines ▸ reports_run_iff hvalid hrun
  refine ⟨_, _, _, verify_eq_ok_iff.mpr ⟨herrors, {}, file, _, hconfig, hfile, hrun, failures_eq_nil_iff.mpr ?_, rfl⟩,
    hu, hrun, hreports⟩
  exact fun line => (hreports line).trans Expectation.mem_reportedLines_iff

/-- A fixture that passes has findings only on lines with a comment that expects one. The comments about a line are all
met exactly if no two of them contradict each other: of those that do, only the last one counts. -/
theorem verify_meets_iff_consistent (path source : String) (result : FixtureResult)
    (h : verify path source = .ok result) :
    ∃ config u findings, Fixture.config source = .ok config ∧ unitOfSource? path source config.rust = some u ∧
      config.rule.run u = .ok findings ∧
      (∀ f ∈ findings, ∃ e, Expectation.StatedIn source e ∧ e.negated = false ∧ e.line = f.location.line) ∧
      ∀ line, (∀ e, Expectation.StatedIn source e → e.line = line → (Reports findings line ↔ e.negated = false)) ↔
        ∀ e e', Expectation.StatedIn source e → Expectation.StatedIn source e' → e.line = line → e'.line = line →
          e.negated = e'.negated := by
  obtain ⟨_, config, file, findings, hconfig, hfile, hrun, hfailures, _⟩ := verify_eq_ok_iff.mp h
  rw [failures_eq_nil_iff] at hfailures
  refine ⟨config, _, findings, hconfig, by rw [unitOfSource?, hfile]; rfl, hrun, ?_, fun line => ⟨?_, ?_⟩⟩
  · intro f hf
    obtain ⟨e, hget, hneg⟩ := (hfailures f.location.line).mp ⟨f, hf, rfl⟩
    obtain ⟨hstated, hline⟩ := Expectation.of_get?_ofSource hget
    exact ⟨e, hstated, hneg, hline⟩
  · intro hmet e e' he he' hline hline'
    have heq : e.negated = false ↔ e'.negated = false := (hmet e he hline).symm.trans (hmet e' he' hline')
    rw [Bool.eq_iff_iff, ← not_iff_not]
    simpa using heq
  · rintro hsame e he rfl
    obtain ⟨last, hlast⟩ := he.exists_last
    obtain ⟨hstated, hline⟩ := Expectation.of_get?_ofSource hlast
    rw [hfailures e.line, hlast, hsame e last he hstated rfl hline]
    simp

/-- A finding that is expected twice, and a line on which none is expected. -/
def repeated : String :=
  braced "async fn f()" [] ++ " //~ redundant\n//~^ redundant\n" ++
    braced "async fn g(x: X)" ["x.await;"] ++ " //~ !redundant\n"

theorem verify_meets_iff_consistent_repeated : ∃ result, verify "test.rs" repeated = .ok result ∧
    ∃ config u findings, Fixture.config repeated = .ok config ∧ unitOfSource? "test.rs" repeated config.rust = some u ∧
      config.rule.run u = .ok findings ∧
      (∀ f ∈ findings, ∃ e, Expectation.StatedIn repeated e ∧ e.negated = false ∧ e.line = f.location.line) ∧
      ∀ line, (∀ e, Expectation.StatedIn repeated e → e.line = line → (Reports findings line ↔ e.negated = false)) ↔
        ∀ e e', Expectation.StatedIn repeated e → Expectation.StatedIn repeated e' → e.line = line → e'.line = line →
          e.negated = e'.negated := by
  have hconfig : Fixture.config repeated = .ok {} := by
    rw [Fixture.config, if_pos (by decide +kernel)]
  obtain ⟨result, _, _, h, _⟩ := exists_verify_eq_ok "test.rs" repeated (by decide +kernel) hconfig
    (by decide +kernel)
  exact ⟨result, h, verify_meets_iff_consistent "test.rs" repeated result h⟩

/-- A finding that is expected and, by the next line, not expected. -/
def contradicted : String :=
  braced "async fn f(x: X)" ["x.await;"] ++ " //~ redundant\n//~^ !redundant\n"

/-- A fixture may pass although nothing is reported where a comment expects a finding. -/
theorem verify_passes_contradicted : ∃ result u findings e, verify "test.rs" contradicted = .ok result ∧
    Fixture.config contradicted = .ok {} ∧ unitOfSource? "test.rs" contradicted {} = some u ∧
    RuleConfig.run {} u = .ok findings ∧ Expectation.StatedIn contradicted e ∧ e.negated = false ∧
    ¬ Reports findings e.line := by
  have hconfig : Fixture.config contradicted = .ok {} := by
    rw [Fixture.config, if_pos (by decide +kernel)]
  obtain ⟨result, u, findings, h, hu, hrun, hreports⟩ :=
    exists_verify_eq_ok "test.rs" contradicted (by decide +kernel) hconfig (by decide +kernel)
  refine ⟨result, u, findings, { line := 1, negated := false, raw := "redundant" }, h, hconfig, hu, hrun,
    Expectation.mem_stated_iff.mp (by decide +kernel), rfl, ?_⟩
  rw [hreports]
  decide +kernel

end Fixture

end AsyncLint
