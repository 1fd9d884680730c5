import Mathlib.Data.List.Basic
import RouteDoc.Text.Blank

/-!
# Lines of a text

* `linesFrom_append`: characters that end no line are added to the line begun;
* `exists_linesFrom`: what stands before a line feed is divided into lines by itself.
-/

namespace RouteDoc.Text

/-- One character, unless it is a carriage return before a line feed. -/
theorem linesFrom_cons {c : Char} {cs : List Char} (h : c = '\r' → cs.head? ≠ some '\n')
    (current : List Char) :
    linesFrom current (c :: cs) =
      if endsTextLine c then current.reverse :: linesFrom [] cs
      else linesFrom (c :: current) cs := by
  refine linesFrom.eq_3 current c cs fun cs' hc hcs => h hc ?_
  rw [hcs]
  rfl

theorem linesFrom_append {front : List Char} (h : ∀ c ∈ front, endsTextLine c = false)
    (current rest : List Char) :
    linesFrom current (front ++ rest) = linesFrom (front.reverse ++ current) rest := by
  induction front generalizing current with
  | nil => rfl
  | cons c front ih =>
    obtain ⟨hc, hfront⟩ := List.forall_mem_cons.mp h
    have hreturn : c ≠ '\r' := by
      rintro rfl
      exact absurd hc (by decide)
    rw [List.cons_append, linesFrom_cons (fun heq => absurd heq hreturn), hc,
      if_neg Bool.false_ne_true, ih hfront, List.reverse_cons, List.append_assoc]
    rfl

theorem linesFrom_feed (current rest : List Char) :
    linesFrom current ('\n' :: rest) = current.reverse :: lines rest :=
  linesFrom_cons (fun h => absurd h (by decide)) current

/-- What stands before a line feed makes lines of its own, whatever stands before and after
it. -/
theorem exists_linesFrom {row : List Char} (hrow : '\n' ∉ row) :
    ∃ first more, (∀ line ∈ first :: more, ∀ c ∈ line, c ∈ row) ∧
      ∀ current rest, linesFrom current (row ++ '\n' :: rest) =
        (current.reverse ++ first) :: (more ++ lines rest) := by
  have hsingle : ∀ {row : List Char}, (∀ current rest, linesFrom current (row ++ '\n' :: rest) =
      current.reverse :: lines rest) → ∃ first more,
      (∀ line ∈ first :: more, ∀ c ∈ line, c ∈ row) ∧
        ∀ current rest, linesFrom current (row ++ '\n' :: rest) =
          (current.reverse ++ first) :: (more ++ lines rest) := fun h =>
    ⟨[], [], by simp, fun current rest => by rw [h, List.append_nil, List.nil_append]⟩
  induction row with
  | nil => exact hsingle linesFrom_feed
  | cons c row ih =>
    obtain ⟨-, hrow'⟩ := List.ne_and_not_mem_of_not_mem_cons hrow
    by_cases hreturn : c = '\r' ∧ row = []
    · obtain ⟨rfl, rfl⟩ := hreturn
      exact hsingle fun current rest => rfl
    · obtain ⟨first, more, hmem, hlines⟩ := ih hrow'
      have hnext : ∀ rest : List Char, c = '\r' → (row ++ '\n' :: rest).head? ≠ some '\n' := by
        rintro rest hc
        cases row with
        | nil => exact absurd ⟨hc, rfl⟩ hreturn
        | cons d row =>
          rintro hd
          exact hrow' (Option.some.inj hd ▸ List.mem_cons_self)
      have hweak : ∀ line ∈ first :: more, ∀ d ∈ line, d ∈ c :: row :=
        fun line hline d hd => List.mem_cons_of_mem c (hmem line hline d hd)
      by_cases hends : endsTextLine c = true
      · refine ⟨[], first :: more, List.forall_mem_cons.mpr ⟨nofun, hweak⟩, fun current rest => ?_⟩
        rw [List.cons_append, linesFrom_cons (hnext rest), if_pos hends, hlines, List.append_nil]
        rfl
      · obtain ⟨hfirst, hmore⟩ := List.forall_mem_cons.mp hweak
        refine ⟨c :: first, more, List.forall_mem_cons.mpr ⟨?_, hmore⟩, fun current rest => ?_⟩
        · exact List.forall_mem_cons.mpr ⟨List.mem_cons_self, hfirst⟩
        · rw [List.cons_append, linesFrom_cons (hnext rest), if_neg hends, hlines,
            List.reverse_cons, List.append_assoc]
          rfl

/-- The lines of a text are made of its characters. -/
theorem mem_of_mem_lines {cs line : List Char} (hline : line ∈ lines cs) : ∀ c ∈ line, c ∈ cs := by
  have hfrom : ∀ current, ∀ line ∈ linesFrom current cs, ∀ c ∈ line, c ∈ current ∨ c ∈ cs := by
    clear hline
    intro current
    fun_induction linesFrom current cs with
    | case1 current hempty => nofun
    | case2 current hempty =>
      intro line hline c hc
      rw [List.mem_singleton.mp hline] at hc
      exact .inl (List.mem_reverse.mp hc)
    | case3 current cs ih =>
      intro line hline c hc
      obtain rfl | hline := List.mem_cons.mp hline
      · exact .inl (List.mem_reverse.mp hc)
      · exact .inr (List.mem_cons_of_mem _ (List.mem_cons_of_mem _
          ((ih line hline c hc).resolve_left List.not_mem_nil)))
    | case4 current d cs _ hends ih =>
      intro line hline c hc
      obtain rfl | hline := List.mem_cons.mp hline
      · exact .inl (List.mem_reverse.mp hc)
      · exact .inr (List.mem_cons_of_mem _ ((ih line hline c hc).resolve_left List.not_mem_nil))
    | case5 current d cs _ hends ih =>
      intro line hline c hc
      obtain hmem | hmem := ih line hline c hc
      · obtain rfl | hmem := List.mem_cons.mp hmem
        · exact .inr List.mem_cons_self
        · exact .inl hmem
      · exact .inr (List.mem_cons_of_mem _ hmem)
  exact fun c hc => (hfrom [] line hline c hc).resolve_left List.not_mem_nil

end RouteDoc.Text
