import AsyncLint.Analysis.Rule

/-!
# Findings in order of place

Places are compared by the components of the file path, then by line, then by column. Findings are sorted by place and
keep their order where places compare as equal.
-/

namespace AsyncLint

open Std

/-! ## The order of places -/

namespace Path.Component

/-- Where a component stands by its kind alone. -/
def rank : Component → Nat
  | .root => 0
  | .here => 1
  | .parent => 2
  | .name _ => 3

/-- The text of a name. -/
def label : Component → String
  | .name text => text
  | .root | .here | .parent => ""

theorem compare_eq (a b : Component) : compare a b = compareLex (compareOn rank) (compareOn label) a b := by
  cases a with
  | name text =>
      cases b with
      | name text' =>
          show (compare text text').then .eq = compare text text'
          cases compare text text' <;> rfl
      | _ => rfl
  | _ => cases b <;> rfl

instance : TransOrd Component := by
  have h : (compare : Component → Component → Ordering) = compareLex (compareOn rank) (compareOn label) := by
    funext a b
    exact compare_eq a b
  show TransCmp (compare : Component → Component → Ordering)
  rw [h]
  infer_instance

end Path.Component

instance : TransCmp fun a b : Finding => a.location.compare b.location :=
  inferInstanceAs (TransCmp (compareLex (compareOn fun f : Finding => Path.components f.location.file)
    (compareLex (compareOn fun f : Finding => f.location.line) (compareOn fun f : Finding => f.location.column))))

/-! ## Stable sorting -/

/-- `ys` is `xs` in order, and elements that compare as equal have kept their order. -/
structure StableSort {α : Type} (cmp : α → α → Ordering) (xs ys : List α) : Prop where
  perm : ys.Perm xs
  sorted : ys.Pairwise fun a b => cmp a b ≠ .gt
  stable : ∀ a, ys.filter (cmp a · == .eq) = xs.filter (cmp a · == .eq)

section

variable {α : Type} (cmp : α → α → Ordering) [TransCmp cmp]

theorem bne_gt_trans (a b c : α) (hab : (cmp a b != .gt) = true) (hbc : (cmp b c != .gt) = true) :
    (cmp a c != .gt) = true := by
  have hle : ∀ a b, (cmp a b != .gt) = (cmp a b).isLE := by
    intro a b
    cases cmp a b <;> rfl
  rw [hle] at *
  exact TransCmp.isLE_trans hab hbc

theorem bne_gt_total (a b : α) : ((cmp a b != .gt) || (cmp b a != .gt)) = true := by
  have hswap : cmp b a = (cmp a b).swap := OrientedCmp.eq_swap
  rw [hswap]
  cases cmp a b <;> rfl

theorem stableSort_mergeSort (xs : List α) : StableSort cmp xs (xs.mergeSort fun a b => cmp a b != .gt) := by
  have hperm := List.mergeSort_perm xs fun a b => cmp a b != .gt
  refine ⟨hperm, ?_, fun a => ?_⟩
  · exact (List.pairwise_mergeSort (bne_gt_trans cmp) (bne_gt_total cmp) xs).imp fun h => by simpa using h
  · -- the elements that compare with `a` as equal are in order already, so sorting keeps them as a sublist
    have hpair : (xs.filter (cmp a · == .eq)).Pairwise fun b c => (cmp b c != .gt) = true := by
      apply List.pairwise_of_forall_mem_list
      intro b hb c hc
      have hab : cmp a b = .eq := by simpa using (List.mem_filter.mp hb).2
      have hac : cmp a c = .eq := by simpa using (List.mem_filter.mp hc).2
      have hbc : cmp b c = cmp a c := TransCmp.congr_left (OrientedCmp.eq_symm hab)
      rw [hbc, hac]
      rfl
    have hsub := (List.sublist_mergeSort (bne_gt_trans cmp) (bne_gt_total cmp) hpair List.filter_sublist).filter
      (cmp a · == .eq)
    rw [List.filter_filter] at hsub
    simp only [Bool.and_self] at hsub
    exact (hsub.eq_of_length (hperm.filter _).length_eq.symm).symm

/-- One more element in front goes behind all that are less, and before the others. -/
theorem mergeSort_cons_eq (a : α) (xs : List α) : (a :: xs).mergeSort (fun a b => cmp a b != .gt) =
    (xs.mergeSort fun a b => cmp a b != .gt).filter (cmp a · == .gt) ++
      a :: (xs.mergeSort fun a b => cmp a b != .gt).filter (cmp a · != .gt) := by
  obtain ⟨l, r, hcons, htail, hl⟩ := List.mergeSort_cons (bne_gt_trans cmp) (bne_gt_total cmp) a xs
  have hsorted := List.pairwise_mergeSort (bne_gt_trans cmp) (bne_gt_total cmp) (a :: xs)
  rw [hcons, List.pairwise_append, List.pairwise_cons] at hsorted
  have hr : ∀ b ∈ r, (cmp a b != .gt) = true := hsorted.2.1.1
  have hl : ∀ b ∈ l, cmp a b = .gt := fun b hb => by simpa using hl b hb
  have hfront : l.filter (cmp a · == .gt) = l ∧ l.filter (cmp a · != .gt) = [] := by
    simp +contextual [List.filter_eq_self, hl]
  have hback : r.filter (cmp a · == .gt) = [] ∧ r.filter (cmp a · != .gt) = r := by
    simp only [List.filter_eq_nil_iff, List.filter_eq_self]
    exact ⟨fun b hb => by simpa using hr b hb, hr⟩
  rw [hcons, htail, List.filter_append, List.filter_append, hfront.1, hfront.2, hback.1, hback.2, List.append_nil,
    List.nil_append]

theorem mergeSort_sublist_mergeSort {xs ys : List α} (h : xs.Sublist ys) :
    (xs.mergeSort fun a b => cmp a b != .gt).Sublist (ys.mergeSort fun a b => cmp a b != .gt) := by
  induction h with
  | slnil => exact .refl _
  | @cons xs ys a _ ih =>
      obtain ⟨l, r, hcons, htail, _⟩ := List.mergeSort_cons (bne_gt_trans cmp) (bne_gt_total cmp) a ys
      rw [hcons]
      exact (htail ▸ ih).trans ((List.Sublist.refl l).append (List.sublist_cons_self a r))
  | @cons_cons xs ys a _ ih =>
      rw [mergeSort_cons_eq, mergeSort_cons_eq]
      exact (ih.filter _).append ((ih.filter _).cons_cons a)

end

theorem stableSort_sortFindings (findings : List Finding) :
    StableSort (fun a b => a.location.compare b.location) findings (RuleConfig.sortFindings findings) :=
  stableSort_mergeSort _ findings

theorem sortFindings_sublist {xs ys : List Finding} (h : xs.Sublist ys) :
    (RuleConfig.sortFindings xs).Sublist (RuleConfig.sortFindings ys) :=
  mergeSort_sublist_mergeSort _ h

end AsyncLint
