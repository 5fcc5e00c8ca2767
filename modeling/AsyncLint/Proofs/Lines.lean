import AsyncLint.Text.Pieces
import AsyncLint.Text.Position

/-!
# Positions and lines

A position is counted from the start of the text, character by character. The lines are pieces between newlines, with
carriage returns at their ends dropped. Both agree: what stands at a position is found in the line of that number,
behind as many characters as its column says.
-/

namespace AsyncLint.Text

theorem charsBefore_append (before rest : List Char) : charsBefore (byteLength before) (before ++ rest) = before := by
  induction before with
  | nil => cases rest <;> simp [charsBefore, byteLength]
  | cons c before ih =>
      have hc := c.utf8Size_pos
      rw [List.cons_append, charsBefore, byteLength, if_neg (by omega), Nat.add_sub_cancel_left, ih]

/-! ## Pieces -/

variable {cs rest first : List Char} {more : List (List Char)}

theorem splitOn_newline (cs : List Char) : ('\n' :: cs).splitOn '\n' = [] :: cs.splitOn '\n' := by
  simp [List.splitOn, List.splitOnP_cons_eq_if_modifyHead]

theorem splitOn_cons_of_ne {c : Char} (hc : c ≠ '\n') (h : cs.splitOn '\n' = first :: more) :
    (c :: cs).splitOn '\n' = (c :: first) :: more := by
  rw [List.splitOn] at h
  simp [List.splitOn, List.splitOnP_cons_eq_if_modifyHead, hc, h]

theorem splitOn_word_append {word : List Char} (hword : '\n' ∉ word) (h : rest.splitOn '\n' = first :: more) :
    (word ++ rest).splitOn '\n' = (word ++ first) :: more := by
  induction word with
  | nil => exact h
  | cons c word ih =>
      rw [List.mem_cons, not_or] at hword
      exact splitOn_cons_of_ne (Ne.symm hword.1) (ih hword.2)

theorem not_mem_of_mem_splitOn (h : first ∈ cs.splitOn '\n') : '\n' ∉ first := by
  induction cs generalizing first with
  | nil =>
      obtain rfl : first = [] := by simpa [List.splitOn] using h
      simp
  | cons c cs ih =>
      by_cases hc : c = '\n'
      · subst hc
        rw [splitOn_newline] at h
        rcases List.mem_cons.mp h with rfl | h
        · simp
        · exact ih h
      · obtain ⟨head, tail, hcs⟩ := List.exists_cons_of_ne_nil (List.splitOn_ne_nil '\n' cs)
        rw [splitOn_cons_of_ne hc hcs] at h
        rcases List.mem_cons.mp h with rfl | h
        · simpa [Ne.symm hc] using ih (hcs ▸ List.mem_cons_self)
        · exact ih (hcs ▸ List.mem_cons_of_mem _ h)

/-- What follows `before` goes on the piece that the position behind `before` is in, after the characters that the
column counts. Counting starts at `p`. -/
theorem splitOn_at_position (before : List Char) (h : rest.splitOn '\n' = first :: more) (p : Position) :
    ∃ earlier head, (before ++ rest).splitOn '\n' = earlier ++ (head ++ first) :: more ∧
      (before.foldl Position.advance p).line = p.line + earlier.length ∧
      (before.foldl Position.advance p).column = head.length + (if earlier = [] then p.column else 0) := by
  induction before generalizing p with
  | nil => exact ⟨[], [], h, rfl, by simp⟩
  | cons c before ih =>
      obtain ⟨earlier, head, hpieces, hline, hcolumn⟩ := ih (p.advance c)
      rw [List.cons_append, List.foldl_cons, hline, hcolumn, Position.advance]
      by_cases hc : c = '\n'
      · subst hc
        refine ⟨[] :: earlier, head, by rw [splitOn_newline, hpieces]; rfl, ?_, by simp⟩
        simp only [if_pos, List.length_cons]
        omega
      · rw [if_neg hc]
        cases earlier with
        | nil =>
            refine ⟨[], c :: head, splitOn_cons_of_ne hc hpieces, rfl, ?_⟩
            simp only [if_pos, List.length_cons]
            omega
        | cons e earlier => exact ⟨(c :: e) :: earlier, head, splitOn_cons_of_ne hc hpieces, rfl, by simp⟩

/-! ## Lines -/

theorem dropReturn_isPrefix (line : List Char) : dropReturn line <+: line := by
  unfold dropReturn
  split
  · exact List.dropLast_prefix line
  · exact List.prefix_rfl

theorem not_mem_of_mem_lines {line : List Char} (h : line ∈ lines cs) : '\n' ∉ line := by
  rw [lines, List.mem_append] at h
  rcases h with h | h
  · obtain ⟨piece, hpiece, rfl⟩ := List.mem_map.mp h
    exact fun hn => not_mem_of_mem_splitOn (List.dropLast_subset _ hpiece) ((dropReturn_isPrefix piece).subset hn)
  · rw [Option.mem_toList, Option.filter_eq_some_iff] at h
    exact not_mem_of_mem_splitOn (List.mem_of_getLast? h.1)

section

variable {head word tail : List Char}

theorem dropReturn_append (hword : word ≠ []) (hreturn : '\r' ∉ word) :
    ∃ tail', dropReturn (head ++ word ++ tail) = head ++ word ++ tail' := by
  unfold dropReturn
  split
  · rename_i hlast
    cases tail with
    | nil =>
        rw [List.append_nil, List.getLast?_append, Option.or_of_isSome (by simpa using hword)] at hlast
        exact absurd (List.mem_of_getLast? hlast) hreturn
    | cons c tail => exact ⟨(c :: tail).dropLast, List.dropLast_append_of_ne_nil (by simp)⟩
  · exact ⟨tail, rfl⟩

/-- A word in a piece is in the line that the piece becomes, at the same place. -/
theorem lines_at_word {earlier more : List (List Char)} (h : cs.splitOn '\n' = earlier ++ (head ++ word ++ tail) :: more)
    (hword : word ≠ []) (hreturn : '\r' ∉ word) :
    ∃ tail', (lines cs)[earlier.length]? = some (head ++ word ++ tail') := by
  unfold lines
  rw [h]
  dsimp only
  cases more with
  | nil =>
      -- the last line keeps a carriage return
      refine ⟨tail, ?_⟩
      rw [List.dropLast_concat, List.getLast?_concat, Option.filter_some_pos (by simp [hword])]
      simp
  | cons m more =>
      obtain ⟨tail', hline⟩ : ∃ tail', dropReturn (head ++ word ++ tail) = head ++ word ++ tail' :=
        dropReturn_append hword hreturn
      refine ⟨tail', ?_⟩
      rw [List.dropLast_append_of_ne_nil (by simp), List.dropLast_cons_of_ne_nil (by simp)]
      simp [← hline]

end

/-- A word in a text is found in the line and at the column of the place where it starts. -/
theorem line_at_position {source : String} {before word after : List Char}
    (h : source.toList = before ++ word ++ after) (hword : word ≠ []) (hchars : ∀ c ∈ word, c ≠ '\n' ∧ c ≠ '\r') :
    ∃ head tail, (lines source.toList)[(positionAt source (byteLength before)).line]? = some (head ++ word ++ tail) ∧
      head.length = (positionAt source (byteLength before)).column := by
  obtain ⟨first, more, hafter⟩ := List.exists_cons_of_ne_nil (List.splitOn_ne_nil '\n' after)
  have hrest := splitOn_word_append (fun hn => (hchars '\n' hn).1 rfl) hafter
  obtain ⟨earlier, head, hpieces, hline, hcolumn⟩ := splitOn_at_position before hrest {}
  have hbefore : charsBefore (byteLength before) source.toList = before := by
    rw [h, List.append_assoc, charsBefore_append]
  rw [← List.append_assoc, ← h, ← List.append_assoc] at hpieces
  obtain ⟨tail, hlines⟩ := lines_at_word hpieces hword fun hr => (hchars '\r' hr).2 rfl
  refine ⟨head, tail, ?_, ?_⟩
  · rw [positionAt, hbefore, hline, Nat.zero_add, hlines]
  · rw [positionAt, hbefore, hcolumn]
    simp

end AsyncLint.Text
