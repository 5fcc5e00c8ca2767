import AsyncLint.Proofs.Expectations
import Mathlib.Data.List.Nodup

/-!
# Where findings and expectations differ

Two loops over two maps find the lines with a failure; the failures are sorted and then given out to the test cases,
whose lines can overlap or leave gaps. Here: no failure is lost or made twice on the way, each says what is wrong on its
line, and each is put into the first test case around its line, or else into a case of its own behind all of them.
-/

namespace AsyncLint.Fixture

open Source

/-- A finding is expected on the line. -/
def Expects (expectations : LineMap Expectation) (line : Nat) : Prop :=
  ∃ e, (line, e) ∈ expectations ∧ e.negated = false

/-- The failures are those of the lines on which findings and expectations differ, one for each such line. -/
structure Differ (expectations : LineMap Expectation) (findings : List Finding) (fs : List Failure) : Prop where
  distinct : (fs.map (·.line)).Nodup
  lines : ∀ line, line ∈ fs.map (·.line) ↔
    Expects expectations line ∧ ¬ Reports findings line ∨ Reports findings line ∧ ¬ Expects expectations line
  missing : ∀ f ∈ fs, f.kind = .missing ↔ Expects expectations f.line ∧ ¬ Reports findings f.line
  /-- The first finding of the line is named. -/
  unexpected : ∀ f ∈ fs, ∀ name, f.kind = .unexpected name ↔
    Reports findings f.line ∧ ¬ Expects expectations f.line ∧
      (findings.find? (·.location.line = f.line)).map (·.declaration) = some name

/-- A failure is in the result of the first test case around its line, and alone in a result of its own, behind the
results of all test cases, if there is none. -/
structure Places (cases : List TestCase) (results : List CaseResult) : Prop where
  around : ∀ (i : Nat) (c : TestCase), cases[i]? = some c → ∃ r, results[i]? = some r ∧ r.name = c.name ∧
    ∀ f ∈ r.failures, f.case = c.name ∧ c.first ≤ f.line ∧ f.line ≤ c.last ∧
      ∀ (j : Nat) (c' : TestCase), j < i → cases[j]? = some c' → ¬ (c'.first ≤ f.line ∧ f.line ≤ c'.last)
  alone : ∀ (i : Nat) (r : CaseResult), cases.length ≤ i → results[i]? = some r → ∃ f, r.failures = [f] ∧
    ∀ c ∈ cases, ¬ (c.first ≤ f.line ∧ f.line ≤ c.last)

/-! ## Failures by line -/

variable {source commented : String} {findings : List Finding}

theorem expects_ofSource_iff {line : Nat} : Expects (Expectation.ofSource commented).1 line ↔
    ∃ e, (Expectation.ofSource commented).1.get? line = some e ∧ e.negated = false := by
  simp only [Expects, (Expectation.sorted_ofSource commented).mem_iff]

theorem reports_iff_find? {line : Nat} :
    Reports findings line ↔ ∃ g, findings.find? (·.location.line = line) = some g := by
  rw [← isSome_firstByLine, get?_firstByLine, Option.isSome_iff_exists]

/-- What is wrong on a line, if anything. -/
theorem mem_failures_iff {f : Failure} : f ∈ failures source (Expectation.ofSource commented).1 findings ↔
    f.case = "" ∧ f.sourceLine = sourceLine source f.line ∧
    (f.kind = .missing ∧ Expects (Expectation.ofSource commented).1 f.line ∧ ¬ Reports findings f.line ∨
      ∃ g, f.kind = .unexpected g.declaration ∧ ¬ Expects (Expectation.ofSource commented).1 f.line ∧
        findings.find? (·.location.line = f.line) = some g) := by
  obtain ⟨case, line, kind, text⟩ := f
  simp only [failures, List.mem_mergeSort, List.mem_append, List.mem_filterMap, Prod.exists,
    Expectation.mem_reportedLines_iff, ← expects_ofSource_iff, Option.isSome_iff_exists, Option.any_eq_true,
    Bool.not_eq_true', (sorted_firstByLine findings).mem_iff, get?_firstByLine, ← reports_iff_find?,
    Option.ite_none_left_eq_some, Option.some.injEq, Failure.mk.injEq]
  constructor
  · rintro (⟨_, he, hr, rfl, rfl, rfl, rfl⟩ | ⟨_, g, hg, he, rfl, rfl, rfl, rfl⟩)
    · exact ⟨rfl, rfl, Or.inl ⟨rfl, he, hr⟩⟩
    · exact ⟨rfl, rfl, Or.inr ⟨g, rfl, he, hg⟩⟩
  · rintro ⟨rfl, rfl, ⟨rfl, he, hr⟩ | ⟨g, rfl, he, hg⟩⟩
    · exact Or.inl ⟨line, he, hr, rfl, rfl, rfl, rfl⟩
    · exact Or.inr ⟨line, g, hg, he, rfl, rfl, rfl, rfl⟩

theorem sorted_reportedLines (commented : String) :
    (Expectation.reportedLines (Expectation.ofSource commented).1).Pairwise (· < ·) := by
  have hsorted := Expectation.sorted_ofSource commented
  rw [Expectation.reportedLines, List.pairwise_map]
  refine (hsorted.filter _).imp_of_mem ?_
  rintro ⟨l, e⟩ ⟨l', e'⟩ he he' hlt
  have hline := (Expectation.of_get?_ofSource (hsorted.mem_iff.mp (List.mem_filter.mp he).1)).2
  have hline' := (Expectation.of_get?_ofSource (hsorted.mem_iff.mp (List.mem_filter.mp he').1)).2
  simpa [hline, hline'] using hlt

/-- Either loop goes through the lines in order, and no line has a failure from both. -/
theorem nodup_lines_failures (source commented : String) (findings : List Finding) :
    ((failures source (Expectation.ofSource commented).1 findings).map (·.line)).Nodup := by
  unfold failures
  rw [((List.mergeSort_perm _ _).map _).nodup_iff, List.map_append, List.nodup_append]
  refine ⟨List.pairwise_map.mpr ((sorted_reportedLines commented).filterMap _ ?_),
    List.pairwise_map.mpr ((sorted_firstByLine findings).filterMap _ ?_), ?_⟩
  · intro l l' hlt f hf f' hf'
    simp only [Option.ite_none_left_eq_some, Option.some.injEq] at hf hf'
    rw [← hf.2, ← hf'.2]
    exact Nat.ne_of_lt hlt
  · rintro ⟨l, g⟩ ⟨l', g'⟩ hlt f hf f' hf'
    simp only [Option.ite_none_left_eq_some, Option.some.injEq] at hf hf'
    rw [← hf.2, ← hf'.2]
    exact Nat.ne_of_lt hlt
  · intro line hline line' hline'
    simp only [List.mem_map, List.mem_filterMap, Prod.exists, Option.ite_none_left_eq_some,
      Option.some.injEq] at hline hline'
    obtain ⟨_, ⟨l, _, hnone, rfl⟩, rfl⟩ := hline
    obtain ⟨_, ⟨l', g, hg, _, rfl⟩, rfl⟩ := hline'
    rintro rfl
    exact hnone (by rw [(sorted_firstByLine findings).mem_iff.mp hg]; rfl)

theorem differ_failures (source commented : String) (findings : List Finding) :
    Differ (Expectation.ofSource commented).1 findings
      (failures source (Expectation.ofSource commented).1 findings) where
  distinct := nodup_lines_failures source commented findings
  lines line := by
    rw [List.mem_map]
    constructor
    · rintro ⟨f, hf, rfl⟩
      obtain ⟨_, _, ⟨_, he, hr⟩ | ⟨g, _, he, hg⟩⟩ := mem_failures_iff.mp hf
      · exact Or.inl ⟨he, hr⟩
      · exact Or.inr ⟨reports_iff_find?.mpr ⟨g, hg⟩, he⟩
    · rintro (⟨he, hr⟩ | ⟨hr, he⟩)
      · exact ⟨{ line, kind := .missing, sourceLine := sourceLine source line },
          mem_failures_iff.mpr ⟨rfl, rfl, Or.inl ⟨rfl, he, hr⟩⟩, rfl⟩
      · obtain ⟨g, hg⟩ := reports_iff_find?.mp hr
        exact ⟨{ line, kind := .unexpected g.declaration, sourceLine := sourceLine source line },
          mem_failures_iff.mpr ⟨rfl, rfl, Or.inr ⟨g, rfl, he, hg⟩⟩, rfl⟩
  missing f hf := by
    obtain ⟨_, _, ⟨hk, he, hr⟩ | ⟨g, hk, he, _⟩⟩ := mem_failures_iff.mp hf
    · simp [hk, he, hr]
    · simp [hk, he]
  unexpected f hf name := by
    obtain ⟨_, _, ⟨hk, he, hr⟩ | ⟨g, hk, he, hg⟩⟩ := mem_failures_iff.mp hf
    · simp [hk, hr]
    · simp [hk, he, hg, reports_iff_find?]

/-! ## Results of test cases -/

variable {cases : List TestCase} {fs : List Failure}

/-- The number of the first test case around a line. -/
def home? (cases : List TestCase) (line : Nat) : Option Nat :=
  cases.findIdx? (·.covers line)

theorem covers_iff {c : TestCase} {line : Nat} : c.covers line = true ↔ c.first ≤ line ∧ line ≤ c.last := by
  simp [TestCase.covers]

theorem assign_eq (cases : List TestCase) (fs : List Failure) : assign cases fs =
    (cases.zipIdx.map fun p =>
      { name := p.1.name
        failures := (fs.filter fun f => home? cases f.line == some p.2).map fun f => { f with case := p.1.name } }) ++
    (fs.filter fun f => (home? cases f.line).isNone).map fun f =>
      { name := "line " ++ toString f.line, failures := [f] } :=
  rfl

theorem places_assign (cases : List TestCase) (fs : List Failure) : Places cases (assign cases fs) where
  around i c hc := by
    have hi : i < cases.length := (List.getElem?_eq_some_iff.mp hc).1
    rw [assign_eq, List.getElem?_append_left (by simpa using hi), List.getElem?_map, List.getElem?_zipIdx, hc]
    refine ⟨_, rfl, rfl, ?_⟩
    intro f hf
    simp only [List.mem_map, List.mem_filter, beq_iff_eq, Nat.zero_add] at hf
    obtain ⟨g, ⟨_, hhome⟩, rfl⟩ := hf
    obtain ⟨_, hcovers, hfirst⟩ := List.findIdx?_eq_some_iff_getElem.mp hhome
    have hci : cases[i] = c := (List.getElem?_eq_some_iff.mp hc).2
    rw [hci, covers_iff] at hcovers
    refine ⟨rfl, hcovers.1, hcovers.2, fun j c' hj hc' => ?_⟩
    obtain ⟨_, rfl⟩ := List.getElem?_eq_some_iff.mp hc'
    rw [← covers_iff]
    exact hfirst j hj
  alone i r hi hr := by
    rw [assign_eq, List.getElem?_append_right (by simpa using hi), List.getElem?_map] at hr
    obtain ⟨f, hf, rfl⟩ := Option.map_eq_some_iff.mp hr
    have hhome := (List.mem_filter.mp (List.mem_of_getElem? hf)).2
    rw [Option.isNone_iff_eq_none] at hhome
    refine ⟨f, rfl, fun c hc => ?_⟩
    rw [← covers_iff, List.findIdx?_eq_none_iff.mp hhome c hc]
    exact Bool.false_ne_true

/-- What a test case or an extra result holds was given out, with another case written on it at most. -/
theorem exists_of_mem_assign {f : Failure} (hf : f ∈ (assign cases fs).flatMap (·.failures)) :
    ∃ g ∈ fs, f.line = g.line ∧ f.kind = g.kind := by
  simp only [assign_eq, List.mem_flatMap, List.mem_append, List.mem_map] at hf
  obtain ⟨_, ⟨p, _, rfl⟩ | ⟨g, hg, rfl⟩, hf⟩ := hf
  · obtain ⟨g, hg, rfl⟩ := List.mem_map.mp hf
    exact ⟨g, (List.mem_filter.mp hg).1, rfl, rfl⟩
  · obtain rfl := List.mem_singleton.mp hf
    exact ⟨f, (List.mem_filter.mp hg).1, rfl, rfl⟩

theorem exists_mem_assign (cases : List TestCase) {g : Failure} (hg : g ∈ fs) :
    ∃ f ∈ (assign cases fs).flatMap (·.failures), f.line = g.line ∧ f.kind = g.kind := by
  simp only [assign_eq, List.mem_flatMap, List.mem_append, List.mem_map]
  cases hhome : home? cases g.line with
  | none =>
      refine ⟨g, ⟨_, Or.inr ⟨g, ?_, rfl⟩, List.mem_singleton_self g⟩, rfl, rfl⟩
      exact List.mem_filter.mpr ⟨hg, by simp [hhome]⟩
  | some i =>
      obtain ⟨hi, _⟩ := List.findIdx?_eq_some_iff_getElem.mp hhome
      refine ⟨{ g with case := cases[i].name }, ⟨_, Or.inl ⟨(cases[i], i), ?_, rfl⟩, ?_⟩, rfl, rfl⟩
      · exact List.mem_zipIdx_iff_getElem?.mpr (List.getElem?_eq_getElem hi)
      · exact List.mem_map.mpr ⟨g, List.mem_filter.mpr ⟨hg, by simp [hhome]⟩, rfl⟩

/-- A failure is given out once: the line says to which test case, if to any. -/
theorem nodup_lines_assign (cases : List TestCase) (h : (fs.map (·.line)).Nodup) :
    (((assign cases fs).flatMap (·.failures)).map (·.line)).Nodup := by
  have hfilter : ∀ p : Failure → Bool, ((fs.filter p).map (·.line)).Nodup := fun p =>
    h.sublist (List.filter_sublist.map _)
  rw [List.map_flatMap, List.nodup_flatMap, assign_eq, List.pairwise_append, List.pairwise_map, List.pairwise_map]
  refine ⟨?_, ?_, ?_, ?_⟩
  · intro r hr
    rcases List.mem_append.mp hr with hr | hr
    · obtain ⟨p, _, rfl⟩ := List.mem_map.mp hr
      simpa only [List.map_map, Function.comp_def] using hfilter _
    · obtain ⟨f, _, rfl⟩ := List.mem_map.mp hr
      exact List.nodup_singleton _
  · have hnumbers : cases.zipIdx.Pairwise fun p q => p.2 ≠ q.2 := by
      rw [← List.pairwise_map, List.zipIdx_map_snd]
      exact List.nodup_range'
    refine hnumbers.imp fun hne line hp hq => hne ?_
    simp only [List.mem_map, List.mem_filter, beq_iff_eq] at hp hq
    obtain ⟨_, ⟨f, ⟨_, hf⟩, rfl⟩, rfl⟩ := hp
    obtain ⟨_, ⟨g, ⟨_, hg⟩, rfl⟩, hline⟩ := hq
    exact Option.some.inj (hf.symm.trans (hline ▸ hg))
  · refine (List.pairwise_map.mp (hfilter _)).imp fun hne line hp hq => hne ?_
    exact (List.mem_singleton.mp hp).symm.trans (List.mem_singleton.mp hq)
  · intro r hr r' hr' line hp hq
    obtain ⟨p, _, rfl⟩ := List.mem_map.mp hr
    obtain ⟨g, hg, rfl⟩ := List.mem_map.mp hr'
    simp only [List.mem_map, List.mem_filter, beq_iff_eq] at hp
    obtain ⟨_, ⟨f, ⟨_, hf⟩, rfl⟩, rfl⟩ := hp
    have hline : f.line = g.line := List.mem_singleton.mp hq
    have hnone := (List.mem_filter.mp hg).2
    rw [← hline, hf] at hnone
    cases hnone

/-- Giving failures out to test cases changes neither their lines nor their kinds. -/
theorem Differ.assign {expectations : LineMap Expectation} (h : Differ expectations findings fs)
    (cases : List TestCase) : Differ expectations findings ((assign cases fs).flatMap (·.failures)) where
  distinct := nodup_lines_assign cases h.distinct
  lines line := by
    rw [← h.lines line, List.mem_map, List.mem_map]
    constructor
    · rintro ⟨f, hf, rfl⟩
      obtain ⟨g, hg, hline, _⟩ := exists_of_mem_assign hf
      exact ⟨g, hg, hline.symm⟩
    · rintro ⟨g, hg, rfl⟩
      obtain ⟨f, hf, hline, _⟩ := exists_mem_assign cases hg
      exact ⟨f, hf, hline⟩
  missing f hf := by
    obtain ⟨g, hg, hline, hkind⟩ := exists_of_mem_assign hf
    rw [hline, hkind]
    exact h.missing g hg
  unexpected f hf name := by
    obtain ⟨g, hg, hline, hkind⟩ := exists_of_mem_assign hf
    rw [hline, hkind]
    exact h.unexpected g hg name

theorem passed_iff_of_differ {expectations : LineMap Expectation} {result : FixtureResult}
    (h : Differ expectations findings (result.cases.flatMap (·.failures))) :
    result.passed = true ↔ ∀ line, Expects expectations line ↔ Reports findings line := by
  have hnone : result.passed = true ↔ result.cases.flatMap (·.failures) = [] := by
    simp [FixtureResult.passed, CaseResult.passed]
  rw [hnone]
  constructor
  · intro hnil line
    have hline := h.lines line
    rw [hnil, List.map_nil] at hline
    by_cases he : Expects expectations line <;> by_cases hr : Reports findings line <;> simp_all
  · intro hsame
    rw [← List.map_eq_nil_iff (f := fun f : Failure => f.line), List.eq_nil_iff_forall_not_mem]
    intro line hline
    have := (h.lines line).mp hline
    simp [hsame line] at this

/-- Failures stand for exactly the lines on which findings and expectations differ, each in its place. A fixture passes
if there is no such line. -/
theorem compare_exact (path source commented : String) (file : SyntaxTree) (findings : List Finding) :
    Differ (Expectation.ofSource commented).1 findings
      ((compare source file (Expectation.ofSource commented).1 findings).flatMap (·.failures)) ∧
    Places (TestCase.ofTree file) (compare source file (Expectation.ofSource commented).1 findings) ∧
    (FixtureResult.passed { path, cases := compare source file (Expectation.ofSource commented).1 findings } = true ↔
      ∀ line, Expects (Expectation.ofSource commented).1 line ↔ Reports findings line) := by
  have hdiffer := (differ_failures source commented findings).assign (TestCase.ofTree file)
  exact ⟨hdiffer, places_assign _ _, passed_iff_of_differ hdiffer⟩

end AsyncLint.Fixture
