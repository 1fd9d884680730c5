import Mathlib.Data.List.Basic
import RouteDoc.Text.Blank

/-!
# Rows of a text

* `fed`: rows that line feeds end;
* `fed_splitOnP`: what stands between line feeds is such rows;
* `exists_fed`, `splitOn_fed`: every text is such rows and one more, and what stands
  between its line feeds is these.
-/

namespace RouteDoc.Text

/-- Rows, with a line feed after each. -/
def fed (rows : List (List Char)) : List Char := rows.flatMap (· ++ ['\n'])

theorem fed_cons (row : List Char) (rows : List (List Char)) :
    fed (row :: rows) = row ++ '\n' :: fed rows := by
  rw [fed, List.flatMap_cons, List.append_assoc]
  rfl

theorem fed_append (rows rows' : List (List Char)) : fed (rows ++ rows') = fed rows ++ fed rows' :=
  List.flatMap_append

theorem mem_fed {c : Char} {rows : List (List Char)} :
    c ∈ fed rows ↔ ∃ row ∈ rows, c ∈ row ∨ c = '\n' := by
  simp [fed]

/-- What stands between the line feeds of a text, with a line feed after each. -/
theorem fed_splitOnP (cs : List Char) : fed (splitOnP (· == '\n') cs) = cs ++ ['\n'] := by
  induction cs with
  | nil => rfl
  | cons c cs ih =>
    rw [splitOnP]
    split
    · rename_i hc
      rw [fed_cons, ih, beq_iff_eq.mp hc]
      rfl
    · cases hrows : splitOnP (· == '\n') cs with
      | nil =>
        rw [hrows] at ih
        exact absurd ih.symm (by simp [fed])
      | cons row rows =>
        rw [hrows, fed_cons] at ih
        dsimp only
        rw [fed_cons, List.cons_append, ih]
        rfl

theorem exists_fed (cs : List Char) : ∃ rows last, cs = fed rows ++ last ∧
    (∀ row ∈ rows, '\n' ∉ row) ∧ '\n' ∉ last := by
  induction cs with
  | nil => exact ⟨[], [], rfl, nofun, nofun⟩
  | cons c cs ih =>
    obtain ⟨rows, last, rfl, hrows, hlast⟩ := ih
    by_cases hc : c = '\n'
    · subst hc
      exact ⟨[] :: rows, last, by rw [fed_cons]; rfl, List.forall_mem_cons.mpr ⟨nofun, hrows⟩,
        hlast⟩
    · have hadd : ∀ {row}, '\n' ∉ row → '\n' ∉ c :: row := fun hrow =>
        List.not_mem_cons_of_ne_of_not_mem (Ne.symm hc) hrow
      cases rows with
      | nil => exact ⟨[], c :: last, rfl, nofun, hadd hlast⟩
      | cons row rows =>
        obtain ⟨hrow, hrows⟩ := List.forall_mem_cons.mp hrows
        exact ⟨(c :: row) :: rows, last, by rw [fed_cons, fed_cons]; rfl,
          List.forall_mem_cons.mpr ⟨hadd hrow, hrows⟩, hlast⟩

theorem splitOnP_eq {α : Type} (p : α → Bool) (xs : List α) : splitOnP p xs = xs.splitOnP p := by
  induction xs with
  | nil => rfl
  | cons x xs ih =>
    rw [splitOnP, List.splitOnP_cons_eq_if_modifyHead, ih]
    cases h : xs.splitOnP p with
    | nil => exact absurd h (List.splitOnP_ne_nil p xs)
    | cons part parts => rfl

theorem splitOn_of_not_mem {row : List Char} (hrow : '\n' ∉ row) : row.splitOn '\n' = [row] := by
  refine List.splitOn_eq_splitOnP.trans (List.splitOnP_eq_singleton fun c hc => ?_)
  refine beq_eq_false_iff_ne.mpr ?_
  rintro rfl
  exact hrow hc

theorem splitOn_fed {rows : List (List Char)} {last : List Char} (hrows : ∀ row ∈ rows, '\n' ∉ row)
    (hlast : '\n' ∉ last) : (fed rows ++ last).splitOn '\n' = rows ++ [last] := by
  induction rows with
  | nil => exact splitOn_of_not_mem hlast
  | cons row rows ih =>
    obtain ⟨hrow, hrows⟩ := List.forall_mem_cons.mp hrows
    have hsplit : (row ++ '\n' :: (fed rows ++ last)).splitOn '\n' =
        row.splitOn '\n' ++ (fed rows ++ last).splitOn '\n' := by
      simp only [List.splitOn_eq_splitOnP]
      exact @List.splitOnP_append_cons Char (· == '\n') row (fed rows ++ last) '\n' rfl
    rw [fed_cons, List.append_assoc, List.cons_append, hsplit, splitOn_of_not_mem hrow, ih hrows]
    rfl

end RouteDoc.Text
