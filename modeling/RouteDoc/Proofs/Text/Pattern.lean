import RouteDoc.Text.Pattern

/-!
# Where patterns match

* `Pattern.occursIn_iff`, `Pattern.count_ne_zero`: a pattern occurs in a text if
  it matches at some place, and just then it is counted;
* `Pattern.Matches`: a pattern matches a beginning of a text, whatever stands
  before it;
* `Pattern.le_of_find?`: a match ends no earlier than it begins.
-/

namespace RouteDoc.Text.Pattern

/-! ## Places of a text -/

theorem isSome_findFrom {p : Pattern} {before : Option Char} {text : List Char} {offset : Nat} :
    (p.findFrom before text offset).isSome = true ↔ ∃ front rest, text = front ++ rest ∧
      p.ends ⟨front.getLast?.or before, rest, offset + front.length⟩ ≠ [] := by
  have hstop : ∀ s, (p.stop? s).isSome = true ↔ p.ends s ≠ [] := fun s => by
    cases h : p.ends s <;> simp [stop?, h]
  induction text generalizing before offset with
  | nil =>
    rw [findFrom, Option.isSome_map, hstop]
    constructor
    · exact fun h => ⟨[], [], rfl, h⟩
    · rintro ⟨front, rest, he, h⟩
      obtain ⟨rfl, rfl⟩ := List.append_eq_nil_iff.mp he.symm
      exact h
  | cons c cs ih =>
    have hlater : (∃ front rest, c :: cs = front ++ rest ∧
          p.ends ⟨front.getLast?.or before, rest, offset + front.length⟩ ≠ []) ↔
        p.ends ⟨before, c :: cs, offset⟩ ≠ [] ∨ ∃ front rest, cs = front ++ rest ∧
          p.ends ⟨front.getLast?.or (some c), rest, offset + 1 + front.length⟩ ≠ [] := by
      have hlast : ∀ front : List Char, ((c :: front).getLast?).or before =
          front.getLast?.or (some c) := fun front => by
        rw [List.getLast?_cons]
        cases front.getLast? <;> rfl
      have hlength : ∀ front : List Char, offset + (c :: front).length = offset + 1 + front.length :=
        fun front => by rw [List.length_cons]; omega
      constructor
      · rintro ⟨_ | ⟨d, front⟩, rest, he, h⟩
        · exact .inl (he ▸ h)
        · obtain ⟨rfl, rfl⟩ := List.cons.inj he
          exact .inr ⟨front, rest, rfl, hlast front ▸ hlength front ▸ h⟩
      · rintro (h | ⟨front, rest, rfl, h⟩)
        · exact ⟨[], c :: cs, rfl, h⟩
        · exact ⟨c :: front, rest, rfl, hlast front ▸ hlength front ▸ h⟩
    rw [hlater, findFrom]
    split
    · rename_i stop h
      have hsome : p.ends ⟨before, c :: cs, offset⟩ ≠ [] := by
        rw [← hstop, h]
        rfl
      exact ⟨fun _ => .inl hsome, fun _ => rfl⟩
    · rename_i h
      have hnone : ¬ p.ends ⟨before, c :: cs, offset⟩ ≠ [] := by
        rw [← hstop, h]
        exact Bool.false_ne_true
      exact ih.trans (or_iff_right hnone).symm

/-- A pattern occurs in a text if it matches at some place. -/
theorem occursIn_iff {p : Pattern} {text : List Char} :
    p.occursIn text = true ↔ ∃ front rest, text = front ++ rest ∧
      p.ends ⟨front.getLast?, rest, front.length⟩ ≠ [] := by
  rw [occursIn, find?, isSome_findFrom]
  simp only [Option.or_none, Nat.zero_add]

/-- The matches are counted where there is one. -/
theorem count_ne_zero {p : Pattern} {text : List Char} :
    p.count text ≠ 0 ↔ p.occursIn text = true := by
  have hfrom : ∀ before offset, p.countFrom 0 before text offset ≠ 0 ↔
      (p.findFrom before text offset).isSome = true := by
    induction text with
    | nil =>
      intro before offset
      rw [countFrom, findFrom, Option.isSome_map]
      split <;> simp_all
    | cons c cs ih =>
      intro before offset
      rw [countFrom, findFrom]
      split
      · rename_i h
        simp
      · exact ih _ _
  exact hfrom none 0

/-! ## Beginnings of a text -/

/-- Whatever stands before it, `text` begins with a match after which `rest`
remains. -/
def Matches (p : Pattern) (text rest : List Char) : Prop :=
  ∀ before offset, ∃ s ∈ p.ends ⟨before, text, offset⟩, s.rest = rest

theorem Matches.occursIn {p : Pattern} {text rest : List Char} (h : p.Matches text rest)
    (front : List Char) : p.occursIn (front ++ text) = true := by
  obtain ⟨s, hs, -⟩ := h front.getLast? front.length
  exact occursIn_iff.mpr ⟨front, text, rfl, List.ne_nil_of_mem hs⟩

theorem Matches.seq {a b : Pattern} {text mid rest : List Char} (ha : a.Matches text mid)
    (hb : b.Matches mid rest) : (a ++ b).Matches text rest := by
  intro before offset
  obtain ⟨⟨before', mid', offset'⟩, hs, rfl⟩ := ha before offset
  obtain ⟨t, ht, hrest⟩ := hb before' offset'
  exact ⟨t, List.mem_flatMap.mpr ⟨_, hs, ht⟩, hrest⟩

theorem matches_literal (s : String) (rest : List Char) :
    (literal s).Matches (s.toList ++ rest) rest := by
  rw [literal]
  induction s.toList with
  | nil => exact fun before offset => ⟨_, List.mem_singleton.mpr rfl, rfl⟩
  | cons c cs ih =>
    have hone : (one (· == c)).Matches (c :: (cs ++ rest)) (cs ++ rest) :=
      fun before offset => ⟨⟨some c, cs ++ rest, offset + 1⟩, by simp [ends], rfl⟩
    cases cs with
    | nil => exact hone
    | cons d ds => exact hone.seq ih

/-- As many characters of a class as there are match a run of them. -/
theorem matches_run (shortest : Bool) (p : Char → Bool) (text : List Char) :
    (run 0 shortest p).Matches text (text.dropWhile p) := by
  have hends : ∀ before offset found, ∃ s ∈ runEnds p 0 before text offset found,
      s.rest = text.dropWhile p := by
    induction text with
    | nil => exact fun before offset found => ⟨_, List.mem_cons_self, rfl⟩
    | cons c cs ih =>
      intro before offset found
      rw [runEnds, List.dropWhile_cons]
      split
      · exact ih _ _ _
      · exact ⟨_, List.mem_cons_self, rfl⟩
  intro before offset
  obtain ⟨s, hs, hrest⟩ := hends before offset []
  refine ⟨s, ?_, hrest⟩
  rw [ends]
  dsimp only
  split
  · exact List.mem_reverse.mpr hs
  · exact hs

/-! ## Extent of matches -/

theorem offset_le_of_mem_runEnds {q : Char → Bool} {least : Nat} {before : Option Char}
    {text : List Char} {offset : Nat} {found : List Spot} {t : Spot}
    (h : t ∈ runEnds q least before text offset found) : t ∈ found ∨ offset ≤ t.offset := by
  induction text generalizing least before offset found with
  | nil =>
    rw [runEnds] at h
    split at h
    · obtain rfl | h := List.mem_cons.mp h
      · exact .inr (Nat.le_refl _)
      · exact .inl h
    · exact .inl h
  | cons c cs ih =>
    have hfound : ∀ {found'}, t ∈ found' →
        found' = (if least == 0 then ⟨before, c :: cs, offset⟩ :: found else found) →
          t ∈ found ∨ offset ≤ t.offset := by
      rintro found' ht rfl
      split at ht
      · obtain rfl | ht := List.mem_cons.mp ht
        · exact .inr (Nat.le_refl _)
        · exact .inl ht
      · exact .inl ht
    rw [runEnds] at h
    split at h
    · obtain ht | hle := ih h
      · exact hfound ht rfl
      · exact .inr (Nat.le_of_succ_le hle)
    · exact hfound h rfl

/-- A match ends no earlier than it begins. -/
theorem offset_le_of_mem_ends {p : Pattern} {s t : Spot} (h : t ∈ p.ends s) :
    s.offset ≤ t.offset := by
  induction p generalizing s t with
  | empty =>
    obtain rfl := List.mem_singleton.mp h
    exact Nat.le_refl _
  | one q =>
    rw [ends] at h
    split at h
    · split at h
      · obtain rfl := List.mem_singleton.mp h
        exact Nat.le_succ _
      · cases h
    · cases h
  | run least shortest q =>
    have hrun : t ∈ runEnds q least s.before s.rest s.offset [] := by
      rw [ends] at h
      split at h
      · exact List.mem_reverse.mp h
      · exact h
    obtain hnil | hle := offset_le_of_mem_runEnds hrun
    · cases hnil
    · exact hle
  | boundary | start =>
    rw [ends] at h
    split at h
    · obtain rfl := List.mem_singleton.mp h
      exact Nat.le_refl _
    · cases h
  | seq a b iha ihb =>
    obtain ⟨u, hu, ht⟩ := List.mem_flatMap.mp h
    exact Nat.le_trans (iha hu) (ihb ht)
  | alt a b iha ihb =>
    obtain ha | hb := List.mem_append.mp h
    · exact iha ha
    · exact ihb hb

/-- The first match ends no earlier than it begins. -/
theorem le_of_find? {p : Pattern} {text : List Char} {first stop : Nat}
    (h : p.find? text = some (first, stop)) : first ≤ stop := by
  have hstop : ∀ {s : Spot} {n}, p.stop? s = some n → s.offset ≤ n := fun {s n} hn => by
    obtain ⟨t, ht, rfl⟩ := Option.map_eq_some_iff.mp hn
    exact offset_le_of_mem_ends (List.mem_of_mem_head? ht)
  have hfrom : ∀ before offset, p.findFrom before text offset = some (first, stop) →
      first ≤ stop := by
    clear h
    induction text with
    | nil =>
      intro before offset h
      obtain ⟨n, hn, he⟩ := Option.map_eq_some_iff.mp h
      obtain ⟨rfl, rfl⟩ := Prod.mk.inj he
      exact hstop hn
    | cons c cs ih =>
      intro before offset h
      rw [findFrom] at h
      split at h
      · rename_i n hn
        obtain ⟨rfl, rfl⟩ := Prod.mk.inj (Option.some.inj h)
        exact hstop hn
      · exact ih _ _ h
  exact hfrom none 0 h

end RouteDoc.Text.Pattern
