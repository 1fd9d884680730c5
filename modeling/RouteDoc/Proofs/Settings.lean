import RouteDoc.Settings

/-!
# Options that pass their check

* `one_le_maxFiles_of_check`: at least one file is allowed for.
-/

namespace RouteDoc

namespace Record.Checked

variable {α β : Type}

theorem seq_eq_valid {f : Checked (α → β)} {x : Checked α} {b : β} :
    f <*> x = .valid b ↔ ∃ g a, f = .valid g ∧ x = .valid a ∧ g a = b := by
  change apply f x = .valid b ↔ _
  cases f <;> cases x <;> simp [apply]

theorem map_eq_valid {g : α → β} {x : Checked α} {b : β} :
    g <$> x = .valid b ↔ ∃ a, x = .valid a ∧ g a = b := by
  change apply (.valid g) x = .valid b ↔ _
  cases x <;> simp [apply]

theorem andThen_eq_valid {x : Checked α} {f : α → Checked β} {b : β} :
    x.andThen f = .valid b ↔ ∃ a, x = .valid a ∧ f a = .valid b := by
  cases x <;> simp [andThen]

theorem within_eq_valid {x : Checked α} {k : Key} {a : α} :
    x.within k = .valid a ↔ x = .valid a := by
  cases x <;> simp [within]

end Record.Checked

namespace Record

/-- What stands under a name that is read, or the value for want of one. -/
theorem field_eq_valid {α : Type} {fields : Fields} {name : String} {read : Json → Checked α}
    {preset a : α} (h : field fields name read preset = .valid a) :
    a = preset ∨ ∃ j, read j = .valid a := by
  rw [field, fieldNamed] at h
  split at h
  · rename_i j _
    exact .inr ⟨j, Checked.within_eq_valid.mp h⟩
  · exact .inl (Checked.valid.inj h).symm

theorem le_of_readAtLeast {bound n : Int} {j : Json} (h : readAtLeast bound j = .valid n) :
    bound ≤ n := by
  obtain ⟨m, -, hm⟩ := Checked.andThen_eq_valid.mp h
  split at hm
  · rename_i hle
    exact Checked.valid.inj hm ▸ hle
  · cases hm

end Record

/-- Options that pass their check allow for at least one file. -/
theorem one_le_maxFiles_of_check {fields : Fields} {o : ScanOptions}
    (h : ScanOptions.check fields = .valid o) : 1 ≤ o.maxFiles := by
  rw [ScanOptions.check] at h
  obtain ⟨f₆, useService, hf₆, -, rfl⟩ := Record.Checked.seq_eq_valid.mp h
  obtain ⟨f₅, maxFileSize, hf₅, -, rfl⟩ := Record.Checked.seq_eq_valid.mp hf₆
  obtain ⟨f₄, maxFiles, hf₄, hmax, rfl⟩ := Record.Checked.seq_eq_valid.mp hf₅
  obtain ⟨f₃, frameworks, hf₃, -, rfl⟩ := Record.Checked.seq_eq_valid.mp hf₄
  obtain ⟨f₂, patterns, hf₂, -, rfl⟩ := Record.Checked.seq_eq_valid.mp hf₃
  obtain ⟨f₁, directories, hf₁, -, rfl⟩ := Record.Checked.seq_eq_valid.mp hf₂
  obtain ⟨extensions, -, rfl⟩ := Record.Checked.map_eq_valid.mp hf₁
  change 1 ≤ maxFiles
  rcases Record.field_eq_valid hmax with rfl | ⟨j, hj⟩
  · decide
  · exact Record.le_of_readAtLeast hj

end RouteDoc
