import AsyncLint.Proofs.Findings

/-!
# Work shared out among workers

The units of a run are cut into pieces, one for each worker, and what the workers find is put together in the order of
the pieces. However many workers there are, this is what one worker finds that goes through all units in order.
-/

namespace AsyncLint

namespace RuleConfig

/-! ## Pieces -/

section

variable {α β ε : Type} {n : Nat} {hn : 0 < n} {xs : List α}

theorem flatten_chunks (n : Nat) (hn : 0 < n) (xs : List α) : (chunks n hn xs).flatten = xs := by
  fun_induction chunks n hn xs with
  | case1 => rfl
  | case2 x rest ih => rw [List.flatten_cons, ih, List.take_append_drop]

theorem length_of_mem_chunks {piece : List α} (h : piece ∈ chunks n hn xs) : 0 < piece.length ∧ piece.length ≤ n := by
  fun_induction chunks n hn xs with
  | case1 => cases h
  | case2 x rest ih =>
      rcases List.mem_cons.mp h with rfl | h
      · rw [List.length_take, List.length_cons]
        omega
      · exact ih h

/-- As many pieces suffice as pieces of full size do. -/
theorem length_chunks_le {count : Nat} (h : xs.length ≤ count * n) : (chunks n hn xs).length ≤ count := by
  fun_induction chunks n hn xs generalizing count with
  | case1 => exact Nat.zero_le _
  | case2 x rest ih =>
      cases count with
      | zero =>
          rw [Nat.zero_mul] at h
          cases h
      | succ count =>
          rw [Nat.succ_mul] at h
          have hdrop : ((x :: rest).drop n).length ≤ count * n := by
            rw [List.length_drop]
            omega
          exact Nat.succ_le_succ (ih hdrop)

/-- Going through pieces one by one is going through the whole; the first error ends both. -/
theorem mapM_flatten (f : α → Except ε β) (pieces : List (List α)) :
    (do return (← pieces.mapM fun piece => piece.mapM f).flatten) = pieces.flatten.mapM f := by
  induction pieces with
  | nil => rfl
  | cons piece pieces ih => simp [← ih]

theorem mapM_eq_ok_iff {f : α → Except ε β} {ys : List β} :
    xs.mapM f = .ok ys ↔ List.Forall₂ (fun x y => f x = .ok y) xs ys := by
  induction xs generalizing ys with
  | nil =>
      rw [List.mapM_nil, List.forall₂_nil_left_iff]
      exact ⟨fun h => (Except.ok.inj h).symm, fun h => congrArg Except.ok h.symm⟩
  | cons x xs ih =>
      rw [List.mapM_cons, List.forall₂_cons_left_iff]
      cases hx : f x with
      | error e => simp [bind, Except.bind]
      | ok y =>
          cases hxs : xs.mapM f with
          | error e => simp [bind, Except.bind, ← ih, hxs]
          | ok zs => simp [bind, Except.bind, pure, Except.pure, ← ih, hxs, eq_comm]

end

/-! ## Runs -/

theorem le_mul_pieceSize {count workers : Nat} (hworkers : 0 < workers) : count ≤ workers * pieceSize count workers := by
  have hdiv := Nat.div_add_mod (count + workers - 1) workers
  have hmod := Nat.mod_lt (count + workers - 1) hworkers
  unfold pieceSize
  omega

theorem runAll_eq_mapM (rule : RuleConfig) (workers : Nat) (units : List CompileUnit) :
    rule.runAll workers units = units.mapM rule.run := by
  unfold runAll
  dsimp only
  split
  · rfl
  · rw [mapM_flatten, flatten_chunks]

theorem exists_run_eq_ok (rule : RuleConfig) {units : List CompileUnit} (h : ∀ u ∈ units, u.TargetsValid) :
    ∃ results, units.mapM rule.run = .ok results := by
  induction units with
  | nil => exact ⟨[], rfl⟩
  | cons u units ih =>
      obtain ⟨results, hresults⟩ := ih fun v hv => h v (List.mem_cons_of_mem u hv)
      have hu := run_eq_sortFindings rule (h u List.mem_cons_self)
      exact ⟨_ :: results, mapM_eq_ok_iff.mpr (.cons hu (mapM_eq_ok_iff.mp hresults))⟩

/-- Shared out among any number of workers, the units give what they give one after the other: the findings of each unit,
in the order of the units, or the first fault. Units whose targets are declared give no fault. Where there is more than
one worker, no piece is empty or too large, and there are no more pieces than workers. A system that does not say how many
workers it has counts as one that has one. -/
theorem runAll_matches_single_runs (rule : RuleConfig) (workers : Nat) (units : List CompileUnit) :
    rule.runAll workers units = units.mapM rule.run ∧
    (∀ results, rule.runAll workers units = .ok results ↔
      List.Forall₂ (fun u found => rule.run u = .ok found) units results) ∧
    ((∀ u ∈ units, u.TargetsValid) → ∃ results, rule.runAll workers units = .ok results) ∧
    (1 < min workers units.length → ∃ hsize : 0 < pieceSize units.length (min workers units.length),
      (chunks _ hsize units).length ≤ min workers units.length ∧
      ∀ piece ∈ chunks _ hsize units,
        0 < piece.length ∧ piece.length ≤ pieceSize units.length (min workers units.length)) := by
  have hrun := runAll_eq_mapM rule workers units
  refine ⟨hrun, fun results => ?_, fun hvalid => ?_, fun hteam => ?_⟩
  · rw [hrun, mapM_eq_ok_iff]
  · rw [hrun]
    exact exists_run_eq_ok rule hvalid
  · refine ⟨pieceSize_pos (by omega) (by omega), length_chunks_le (le_mul_pieceSize (by omega)), ?_⟩
    exact fun piece hpiece => length_of_mem_chunks hpiece

/-- Three units, of which one has no declarations. -/
def shifts : List CompileUnit :=
  [relay, { name := "idle.rs" }, relay]

theorem runAll_matches_single_runs_shifts : (∀ u ∈ shifts, u.TargetsValid) ∧ 1 < min 2 shifts.length ∧
    (∃ results, runAll {} 2 shifts = .ok results ∧
      List.Forall₂ (fun u found => run {} u = .ok found) shifts results) ∧
    ∃ hsize : 0 < pieceSize shifts.length (min 2 shifts.length), (chunks _ hsize shifts).length ≤ 2 := by
  obtain ⟨-, hok, hexists, hpieces⟩ := runAll_matches_single_runs {} 2 shifts
  have hvalid : ∀ u ∈ shifts, u.TargetsValid := by decide
  obtain ⟨results, hresults⟩ := hexists hvalid
  obtain ⟨hsize, hcount, -⟩ := hpieces (by decide)
  exact ⟨hvalid, by decide, ⟨results, hresults, (hok results).mp hresults⟩, hsize, hcount⟩

end RuleConfig

end AsyncLint
