/-!
# Stretches of a text

What is found at the start of a text does not hang on what comes after it, if
that begins with a character of another class.

* `Ends`: no character of a class is next;
* `takeWhile_append_of_ends`, `isPrefixOf_append_of_ends`: a stretch, and a word
  of a class of characters, at the start of a text;
* `Turns`: a function on texts turns a stretch into another, whatever follows.
-/

namespace RouteDoc.Text

/-- No character of a class is next. -/
def Ends (p : Char → Bool) (rest : List Char) : Prop := ∀ c ∈ rest.head?, p c = false

variable {p : Char → Bool} {rest : List Char}

@[simp]
theorem ends_nil : Ends p [] := fun _ hc => nomatch hc

@[simp]
theorem ends_cons {c : Char} {cs : List Char} : Ends p (c :: cs) ↔ p c = false := by
  simp [Ends]

theorem Ends.mono {q : Char → Bool} (h : Ends p rest) (hq : ∀ c, q c = true → p c = true) :
    Ends q rest := by
  intro c hc
  refine Bool.eq_false_iff.mpr fun hqc => ?_
  exact Bool.false_ne_true ((h c hc).symm.trans (hq c hqc))

theorem Ends.takeWhile_eq_nil (h : Ends p rest) : rest.takeWhile p = [] := by
  cases rest with
  | nil => rfl
  | cons c rest => rw [List.takeWhile_cons, ends_cons.mp h, if_neg Bool.false_ne_true]

theorem ends_iff_takeWhile_eq_nil : Ends p rest ↔ rest.takeWhile p = [] := by
  refine ⟨Ends.takeWhile_eq_nil, fun h => ?_⟩
  cases rest with
  | nil => exact ends_nil
  | cons c rest =>
    refine ends_cons.mpr (Bool.eq_false_iff.mpr fun hc => ?_)
    rw [List.takeWhile_cons_of_pos hc] at h
    cases h

theorem ends_dropWhile (p : Char → Bool) (cs : List Char) : Ends p (cs.dropWhile p) := by
  intro c hc
  have hnot := List.head?_dropWhile_not p cs
  rw [Option.mem_def.mp hc] at hnot
  exact hnot

theorem Ends.append {cs : List Char} (hcs : Ends p cs) (h : Ends p rest) : Ends p (cs ++ rest) := by
  cases cs with
  | nil => exact h
  | cons c cs => exact hcs

theorem takeWhile_append_of_ends (h : Ends p rest) (cs : List Char) :
    (cs ++ rest).takeWhile p = cs.takeWhile p := by
  rw [List.takeWhile_append, h.takeWhile_eq_nil, List.append_nil]
  split
  · rename_i hall
    exact (List.takeWhile_prefix p).eq_of_length hall |>.symm
  · rfl

/-- What comes next after a stretch is in it, if anything is. -/
theorem head?_append_of_ends {c : Char} (hc : p c = true) (h : Ends p rest) (cs : List Char) :
    ((cs ++ rest).head? == some c) = (cs.head? == some c) := by
  cases cs with
  | cons d cs => rfl
  | nil =>
    rw [List.nil_append]
    cases rest with
    | nil => rfl
    | cons d rest =>
      refine beq_eq_false_iff_ne.mpr fun hd => ?_
      obtain rfl : d = c := Option.some.inj hd
      rw [ends_cons.mp h] at hc
      cases hc

theorem isPrefixOf_append_of_ends {word : List Char} (hword : ∀ c ∈ word, p c = true)
    (h : Ends p rest) (cs : List Char) : word.isPrefixOf (cs ++ rest) = word.isPrefixOf cs := by
  induction word generalizing cs with
  | nil => simp
  | cons c word ih =>
    obtain ⟨hc, hword⟩ := List.forall_mem_cons.mp hword
    cases cs with
    | cons d cs => simp only [List.cons_append, List.isPrefixOf, ih hword]
    | nil =>
      cases rest with
      | nil => rfl
      | cons d rest =>
        have hne : c ≠ d := by
          rintro rfl
          rw [ends_cons.mp h] at hc
          cases hc
        simp [List.isPrefixOf, hne]

theorem isPrefixOf_append_cons {d : Char} {word : List Char} (hd : d ∉ word)
    (cs rest : List Char) : word.isPrefixOf (cs ++ d :: rest) = word.isPrefixOf cs :=
  isPrefixOf_append_of_ends (p := fun c => decide (c ∈ word)) (fun _ => decide_eq_true)
    (ends_cons.mpr (decide_eq_false hd)) cs

/-! ## Functions on texts -/

/-- Whatever follows a stretch, `f` turns it into another and goes on after it. -/
def Turns (f : List Char → List Char) (t t' : List Char) : Prop :=
  ∀ rest, f (t ++ rest) = t' ++ f rest

section Turns

variable {f : List Char → List Char} {t t' u u' : List Char}

theorem turns_nil : Turns f [] [] := fun _ => rfl

theorem Turns.append (h : Turns f t t') (hu : Turns f u u') : Turns f (t ++ u) (t' ++ u') := by
  intro rest
  rw [List.append_assoc, h, hu, List.append_assoc]

/-- A character that `f` keeps stays in front. -/
theorem Turns.cons {c : Char} (hc : ∀ rest, f (c :: rest) = c :: f rest) (ht : Turns f t t') :
    Turns f (c :: t) (c :: t') := by
  intro rest
  rw [List.cons_append, hc, ht, List.cons_append]

theorem Turns.eq (h : Turns f t t') (hnil : f [] = []) : f t = t' := by
  have hend := h []
  rw [hnil, List.append_nil, List.append_nil] at hend
  exact hend

/-- Characters that `f` keeps one by one it keeps together. -/
theorem turns_of_forall (h : ∀ c ∈ t, ∀ rest, f (c :: rest) = c :: f rest) : Turns f t t := by
  induction t with
  | nil => exact turns_nil
  | cons c t ih =>
    obtain ⟨hc, ht⟩ := List.forall_mem_cons.mp h
    exact (ih ht).cons hc

end Turns

end RouteDoc.Text
