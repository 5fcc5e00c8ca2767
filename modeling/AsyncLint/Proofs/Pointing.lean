import AsyncLint.Proofs.Await
import AsyncLint.Proofs.Findings
import AsyncLint.Proofs.Lines
import AsyncLint.Proofs.Lossless
import AsyncLint.Proofs.Lowering
import AsyncLint.Report.Text

/-!
# Findings point at names

The place of a finding is where the name of its declaration starts: in the line of the source with that number, behind
as many characters as come before that column. Where the line is quoted in a report, the caret stands below the first
character of the name.
-/

namespace AsyncLint

open Source Text

variable {source : String} {tree : SyntaxTree} {config : LoweringConfig}

/-! ## Declarations -/

theorem chars_of_isWord {name : String} (h : IsWord name) : name.toList ≠ [] ∧ ∀ c ∈ name.toList, c ≠ '\n' ∧ c ≠ '\r' := by
  refine ⟨fun hn => h.nonempty (by simpa using hn), fun c hc => ⟨?_, ?_⟩⟩
  · rintro rfl
    exact absurd (h.chars _ hc) (by decide +kernel)
  · rintro rfl
    exact absurd (h.chars _ hc) (by decide +kernel)

/-- A function of a source is entered with the place of its name. -/
theorem name_of_mem_entries {e : FnEntry} (htree : parse? source = some tree)
    (he : e ∈ (Registry.of source tree config).entries) :
    IsWord e.name ∧ ∃ head tail, (lines source.toList)[e.line - 1]? = some (head ++ e.name.toList ++ tail) ∧
      head.length = e.column - 1 ∧ 0 < e.line ∧ 0 < e.column := by
  obtain ⟨site, hsite, hdescribe⟩ := List.mem_filterMap.mp he
  obtain ⟨name, hname, rfl⟩ := Option.map_eq_some_iff.mp hdescribe
  have hnamed := of_mem_fnSites (fun _ _ h c hc => h.of_mem_children hc) {} 0 tree (parse?_named htree) hsite
  have hstands := standsIn_of_mem_fnSites {} 0 tree hsite
  rw [text_of_parse? htree] at hstands
  obtain ⟨hword, before, after, htext, hbytes⟩ := hstands.name hnamed hname
  obtain ⟨hne, hchars⟩ := chars_of_isWord hword
  obtain ⟨head, tail, hline, hcolumn⟩ := line_at_position htext hne hchars
  rw [hbytes] at hline hcolumn
  exact ⟨hword, head, tail, hline, hcolumn, Nat.succ_pos _, Nat.succ_pos _⟩

/-! ## Quotes in reports -/

namespace Report

theorem length_alignRight (width : Nat) (cs : List Char) : (alignRight width cs).length = max width cs.length := by
  simp only [alignRight, List.length_append, List.length_replicate]
  omega

theorem not_mem_alignRight {c : Char} {width : Nat} {cs : List Char} (hc : c ≠ ' ') (h : c ∉ cs) :
    c ∉ alignRight width cs := by
  simp [alignRight, h, hc]

/-- A report with quotes holds the text of every finding. -/
theorem exists_findingText {r : Report} {file : FileReport} {f : Finding} (hfile : file ∈ r.files)
    (hf : f ∈ file.findings) : ∃ earlier later, r.toText.toList = earlier ++ findingText r.showSource file f ++ later := by
  obtain ⟨files, files', hfiles⟩ := List.append_of_mem hfile
  obtain ⟨fs, fs', hfs⟩ := List.append_of_mem hf
  refine ⟨files.flatMap (fun f => f.findings.flatMap (findingText r.showSource f)) ++
    fs.flatMap (findingText r.showSource file), fs'.flatMap (findingText r.showSource file) ++
    files'.flatMap (fun f => f.findings.flatMap (findingText r.showSource f)) ++
    (if r.summary then r.summaryText else "").toList, ?_⟩
  simp [toText, hfiles, hfs]

/-- Below a quoted line, the only caret stands under the column of the finding. -/
theorem findingText_quote {file : FileReport} {f : Finding} {text : List Char}
    (h : file.line? f.location.line = some text) :
    ∃ above gutter caret, findingText true file f = above ++ '\n' :: (gutter ++ text) ++ '\n' :: caret ++ ['\n', '\n'] ∧
      '\n' ∉ gutter ∧ '\n' ∉ caret ∧ caret[gutter.length + (f.location.column - 1)]? = some '^' ∧
      caret.count '^' = 1 := by
  have hdigits : '\n' ∉ Nat.toDigits 10 f.location.line := by
    intro hn
    exact absurd (Nat.isDigit_of_mem_toDigits (by decide) (by decide) hn) (by decide)
  generalize hwidth : max (Nat.toDigits 10 f.location.line).length 2 = width
  refine ⟨(f.severity.toString ++ "[" ++ f.ruleId ++ "]: " ++ f.message ++ "\n").toList ++ alignRight width [] ++
      ("--> " ++ f.location.toString ++ "\n").toList ++ alignRight width [] ++ [' ', '|'],
    alignRight width (Nat.toDigits 10 f.location.line) ++ [' ', '|', ' '],
    alignRight width [] ++ [' ', '|', ' '] ++ List.replicate (f.location.column - 1) ' ' ++ ['^'], ?_, ?_, ?_, ?_, ?_⟩
  · simp [findingText, quoteLines, h, hwidth]
  · simp [not_mem_alignRight, hdigits]
  · simp [not_mem_alignRight]
  · rw [List.getElem?_append_right, List.getElem?_singleton]
    · simp [length_alignRight]
      omega
    · simp [length_alignRight]
      omega
  · simp [alignRight, List.count_replicate]

/-- The report quotes the line `text` for a finding, and the only caret in the line below stands under the first
character of `name`. -/
def Marks (r : Report) (file : FileReport) (f : Finding) (text : List Char) (name : String) : Prop :=
  ∃ earlier above gutter caret later,
    r.toText.toList = earlier ++ findingText true file f ++ later ∧
    findingText true file f = above ++ '\n' :: (gutter ++ text) ++ '\n' :: caret ++ ['\n', '\n'] ∧
    '\n' ∉ gutter ++ text ∧ '\n' ∉ caret ∧ caret.count '^' = 1 ∧
    ∃ i, caret[i]? = some '^' ∧ i = gutter.length + (f.location.column - 1) ∧ name.toList <+: (gutter ++ text).drop i

end Report

/-! ## Findings -/

theorem exists_declaration_of_mem_findings {u : CompileUnit} {rule : RuleConfig} {findings : List Finding} {f : Finding}
    (hu : u.TargetsValid) (hrun : rule.run u = .ok findings) (hf : f ∈ findings) :
    ∃ id ∈ rule.reported u, ∃ d, u.declaration? id = some d ∧ f = .of rule.severity d := by
  rw [run_eq_sortFindings rule hu] at hrun
  cases hrun
  obtain ⟨id, hid, hfinding⟩ := List.mem_filterMap.mp (mem_sortFindings.mp hf)
  obtain ⟨d, hd, rfl⟩ := Option.map_eq_some_iff.mp hfinding
  exact ⟨id, hid, d, hd, rfl⟩

/-- A finding is about a reported declaration. The line of the source that it points at has the name of the declaration
at its column. In a report that quotes the line, the caret below it stands under the first character of the name. -/
theorem finding_points_at_name (path source : String) (config : LoweringConfig) (rule : RuleConfig) (u : CompileUnit)
    (findings : List Finding) (hu : unitOfSource? path source config = some u) (hrun : rule.run u = .ok findings)
    (f : Finding) (hf : f ∈ findings) (file : FileReport) (hsource : file.source = some source) :
    ∃ id ∈ rule.reported u, ∃ d text, u.declaration? id = some d ∧ f = .of rule.severity d ∧ d.name ≠ "" ∧
      file.line? f.location.line = some text ∧ d.name.toList <+: text.drop (f.location.column - 1) ∧
      ∀ r : Report, r.showSource = true → file ∈ r.files → f ∈ file.findings → r.Marks file f text d.name := by
  obtain ⟨tree, htree, rfl⟩ := Option.map_eq_some_iff.mp hu
  have hvalid := targetsValid_unitOfTree path source tree config
  obtain ⟨id, hid, d, hd, rfl⟩ := exists_declaration_of_mem_findings hvalid hrun hf
  obtain ⟨e, body, he, rfl, _⟩ := exists_entry_of_declaration? hd
  obtain ⟨hword, head, tail, hline, hcolumn, hpos, _⟩ := name_of_mem_entries htree (List.mem_of_getElem? he)
  have htext : file.line? e.line = some (head ++ e.name.toList ++ tail) := by
    rw [FileReport.line?, if_neg (by omega), hsource, Option.bind_some, hline]
  have hname : e.name.toList <+: (head ++ e.name.toList ++ tail).drop (e.column - 1) := by
    rw [← hcolumn, List.append_assoc, List.drop_left]
    exact List.prefix_append _ _
  refine ⟨id, hid, _, _, hd, rfl, hword.nonempty, htext, hname, fun r hshow hfile hmem => ?_⟩
  obtain ⟨earlier, later, hreport⟩ := Report.exists_findingText hfile hmem
  obtain ⟨above, gutter, caret, hquote, hgutter, hcaret, hat, hcount⟩ :=
    Report.findingText_quote (f := .of rule.severity { e.declaration path with body }) htext
  refine ⟨earlier, above, gutter, caret, later, hshow ▸ hreport, hquote, ?_, hcaret, hcount, _, hat, rfl, ?_⟩
  · rw [List.mem_append, not_or]
    exact ⟨hgutter, not_mem_of_mem_lines (List.mem_of_getElem? hline)⟩
  · rw [← List.drop_drop, List.drop_left]
    exact hname

/-- Lines that end in a carriage return, and characters of more than one byte before a name and in it. -/
def accented : String :=
  "struct É;\r\n" ++ braced "impl É" ["/* è */", braced "async fn été(&self)" []] ++ "\r\n"

theorem finding_points_at_name_accented : ∃ u findings f, unitOfSource? "a.rs" accented {} = some u ∧
    RuleConfig.run {} u = .ok findings ∧ f ∈ findings ∧
    ∃ id ∈ RuleConfig.reported {} u, ∃ d text, u.declaration? id = some d ∧ f = .of .warning d ∧ d.name ≠ "" ∧
      FileReport.line? { path := "a.rs", source := some accented, findings } f.location.line = some text ∧
      d.name.toList <+: text.drop (f.location.column - 1) ∧
      ∀ r : Report, r.showSource = true → { path := "a.rs", source := some accented, findings } ∈ r.files →
        f ∈ findings → r.Marks { path := "a.rs", source := some accented, findings } f text d.name := by
  have hsome : ((unitOfSource? "a.rs" accented {}).any fun u =>
      !((RuleConfig.reported {} u).filterMap (RuleConfig.finding? {} u)).isEmpty) = true := by decide +kernel
  obtain ⟨u, hu, hne⟩ := (Option.any_eq_true _ _).mp hsome
  obtain ⟨tree, _, rfl⟩ := Option.map_eq_some_iff.mp hu
  have hrun := run_eq_sortFindings {} (targetsValid_unitOfTree "a.rs" accented tree {})
  obtain ⟨f, hf⟩ := List.isEmpty_eq_false_iff_exists_mem.mp (Bool.not_eq_eq_eq_not.mp hne)
  have hmem := mem_sortFindings.mpr hf
  exact ⟨_, _, f, hu, hrun, hmem, finding_points_at_name "a.rs" accented {} {} _ _ hu hrun f hmem _ rfl⟩

end AsyncLint
