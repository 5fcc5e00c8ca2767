import Mathlib.Data.List.TakeWhile
import AsyncLint.Text.Pieces

/-!
# Trimmed texts

What trimming gives can be said without saying how it is done: the text has nothing but blanks around it, and has no blank
at its own ends. There is exactly one such text.
-/

namespace AsyncLint.Text

variable {cs ds body : List Char}

/-- A part of which all characters pass a test is what passes at the start, if the character behind it does not. -/
theorem takeWhile_append_eq {p : Char → Bool} (hcs : ∀ c ∈ cs, p c = true) (hds : ∀ c ∈ ds.head?, p c = false) :
    (cs ++ ds).takeWhile p = cs := by
  have hstop : ds.takeWhile p = [] := by
    cases ds with
    | nil => rfl
    | cons c ds => exact List.takeWhile_cons_of_neg (by simp [hds c rfl])
  rw [List.takeWhile_append_of_pos hcs, hstop, List.append_nil]

theorem trimEnd_append (cs : List Char) : ∃ blanks, cs = trimEnd cs ++ blanks ∧ ∀ c ∈ blanks, isBlank c = true := by
  refine ⟨(cs.reverse.takeWhile isBlank).reverse, ?_, ?_⟩
  · rw [trimEnd, ← List.reverse_append, List.takeWhile_append_dropWhile, List.reverse_reverse]
  · intro c hc
    exact List.mem_takeWhile_imp (List.mem_reverse.mp hc)

theorem trimStart_append {cs : List Char} (h : trimStart cs ≠ []) (rest : List Char) :
    trimStart (cs ++ rest) = trimStart cs ++ rest := by
  rw [trimStart, List.dropWhile_append, if_neg (by rwa [List.isEmpty_iff])]
  rfl

/-- Nothing but blanks. -/
def AllBlank (cs : List Char) : Prop :=
  ∀ c ∈ cs, isBlank c = true

theorem allBlank_nil : AllBlank [] := by
  intro c hc
  cases hc

theorem AllBlank.append (hcs : AllBlank cs) (hds : AllBlank ds) : AllBlank (cs ++ ds) := by
  intro c hc
  exact (List.mem_append.mp hc).elim (hcs c) (hds c)

/-- `body` is `cs` without the blanks at both ends. -/
structure Trims (cs body : List Char) : Prop where
  between : ∃ front back, cs = front ++ body ++ back ∧ AllBlank front ∧ AllBlank back
  head : ∀ c ∈ body.head?, isBlank c = false
  last : ∀ c ∈ body.getLast?, isBlank c = false

theorem trims_trim (cs : List Char) : Trims cs (trim cs) := by
  obtain ⟨back, hback, hblank⟩ := trimEnd_append (trimStart cs)
  have hhead := List.head?_dropWhile_not isBlank cs
  have hlast := List.head?_dropWhile_not isBlank (trimStart cs).reverse
  refine ⟨⟨cs.takeWhile isBlank, back, ?_, fun c hc => List.mem_takeWhile_imp hc, hblank⟩, fun c hc => ?_, fun c hc => ?_⟩
  · rw [trim, List.append_assoc, ← hback]
    exact (List.takeWhile_append_dropWhile).symm
  · -- what trimming leaves starts with what is left after trimming the start alone
    have hstart : (trimStart cs).head? = some c := by
      rw [hback, List.head?_append, ← trim, Option.mem_def.mp hc]
      rfl
    rw [← trimStart, hstart] at hhead
    simpa using hhead
  · rw [trim, trimEnd, List.getLast?_reverse] at hc
    rw [Option.mem_def.mp hc] at hlast
    simpa using hlast

theorem Trims.trim_eq (h : Trims cs body) : trim cs = body := by
  obtain ⟨front, back, rfl, hfront, hback⟩ := h.between
  have hstart : trimStart (front ++ body ++ back) = trimStart (body ++ back) := by
    rw [trimStart, List.append_assoc, List.dropWhile_append_of_pos hfront]
    rfl
  have hback : ∀ c ∈ back.reverse, isBlank c = true := fun c hc => hback c (List.mem_reverse.mp hc)
  rcases List.eq_nil_or_concat body with rfl | ⟨init, last, hbody⟩
  · have hnil : trimStart back = [] := List.dropWhile_eq_nil_iff.mpr fun c hc => hback c (List.mem_reverse.mpr hc)
    rw [trim, hstart, List.nil_append, hnil]
    rfl
  · rw [List.concat_eq_append] at hbody
    subst hbody
    have hlast : isBlank last = false := h.last last (by simp)
    have hkeep : trimStart (init ++ [last] ++ back) = init ++ [last] ++ back := by
      cases init with
      | nil => exact List.dropWhile_cons_of_neg (by simp [hlast])
      | cons c init => exact List.dropWhile_cons_of_neg (by simp [h.head c rfl])
    rw [trim, hstart, hkeep, trimEnd, List.reverse_append, List.dropWhile_append_of_pos hback, List.reverse_append,
      List.reverse_singleton, List.singleton_append, List.dropWhile_cons_of_neg (by simp [hlast]), List.reverse_cons,
      List.reverse_reverse]

theorem trims_iff : Trims cs body ↔ trim cs = body :=
  ⟨Trims.trim_eq, fun h => h ▸ trims_trim cs⟩

/-- A trimmed text stays as it is. -/
theorem Trims.self (h : Trims cs body) : Trims body body :=
  ⟨⟨[], [], by simp, allBlank_nil, allBlank_nil⟩, h.head, h.last⟩

end AsyncLint.Text
