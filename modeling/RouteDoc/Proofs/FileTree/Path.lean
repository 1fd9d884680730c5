import RouteDoc.FileTree.Path
import RouteDoc.Proofs.Text.Rows

/-!
# Paths and their texts

* `IsName`: names that an entry of a directory can have;
* `ofText_text`: an absolute path of such names is read back from its text;
* `wayFrom_inj`: a path is told from others by the way to it from a place.
-/

namespace RouteDoc

namespace FilePath

/-- Whether an entry of a directory can have a name: not empty, without slashes,
and neither one point nor two. -/
def IsName (name : String) : Prop :=
  name ≠ "" ∧ '/' ∉ name.toList ∧ name ≠ "." ∧ name ≠ ".."

instance (name : String) : Decidable (IsName name) :=
  inferInstanceAs (Decidable (_ ∧ _ ∧ _ ∧ _))

theorem toList_text (names : List String) :
    (FilePath.mk "/" names).text.toList = '/' :: ['/'].intercalate (names.map String.toList) := by
  rw [text, if_neg (by simp), String.toList_append, String.toList_intercalate]
  have hslash : "/".toList = ['/'] := by decide
  rw [hslash]
  rfl

/-- Names without slashes are found again between the slashes. -/
theorem splitOnP_intercalate {names : List String} (h : ∀ name ∈ names, '/' ∉ name.toList)
    (hne : names ≠ []) :
    Text.splitOnP (· == '/') (['/'].intercalate (names.map String.toList)) =
      names.map String.toList := by
  rw [Text.splitOnP_eq, ← List.splitOn_eq_splitOnP]
  refine List.splitOn_intercalate '/' (fun cs hcs => ?_) (by simpa using hne)
  obtain ⟨name, hname, rfl⟩ := List.mem_map.mp hcs
  exact h name hname

/-- No name that an entry can have is dropped. -/
theorem filter_names {names : List String} (h : ∀ name ∈ names, IsName name) :
    (names.map String.toList).filter (fun n => !n.isEmpty && n != ['.']) =
      names.map String.toList := by
  refine List.filter_eq_self.mpr fun cs hcs => ?_
  obtain ⟨name, hname, rfl⟩ := List.mem_map.mp hcs
  obtain ⟨hempty, -, hpoint, -⟩ := h name hname
  have hne : name.toList ≠ [] := mt String.toList_eq_nil_iff.mp hempty
  have hne' : name.toList ≠ ['.'] := fun hp => hpoint (String.toList_inj.mp hp)
  simp [hne, hne']

/-- An absolute path is read back from its text. -/
theorem ofText_text {names : List String} (h : ∀ name ∈ names, IsName name) :
    ofText (FilePath.mk "/" names).text = ⟨"/", names⟩ := by
  rw [ofText, toList_text]
  cases names with
  | nil => rfl
  | cons name names =>
    have hsplit := splitOnP_intercalate (fun n hn => (h n hn).2.1) (List.cons_ne_nil name names)
    have hempty : name.toList ≠ [] := mt String.toList_eq_nil_iff.mp (h name List.mem_cons_self).1
    have hnames : ((name :: names).map String.toList).map String.ofList = name :: names := by
      rw [List.map_map]
      exact List.map_id'' (fun _ => String.ofList_toList) _
    generalize ['/'].intercalate ((name :: names).map String.toList) = cs at hsplit
    refine (FilePath.mk.injEq ..).mpr ⟨?_, ?_⟩
    · -- The text goes on with the first character of a name, which is no slash.
      split
      · rfl
      · rename_i rest _ hcs
        rw [(List.cons.inj hcs).2, Text.splitOnP] at hsplit
        exact absurd (List.cons.inj hsplit).1.symm hempty
      · rfl
      · rename_i hno
        exact absurd rfl (hno cs)
    · rw [Text.splitOnP, if_pos (beq_self_eq_true '/'), hsplit, List.filter_cons_of_neg (by simp),
        filter_names h, hnames]

/-! ## Relative paths -/

theorem toList_relativeText {names : List String} (hne : names ≠ []) :
    (FilePath.mk "" names).text.toList = ['/'].intercalate (names.map String.toList) := by
  rw [text, if_neg (by simp [hne]), String.toList_append, String.toList_intercalate]
  rfl

/-- A relative path of names without slashes, none of them a single point, is told
from others by its text. -/
theorem relativeText_inj {names names' : List String}
    (h : ∀ name ∈ names, '/' ∉ name.toList ∧ name ≠ ".")
    (h' : ∀ name ∈ names', '/' ∉ name.toList ∧ name ≠ ".")
    (heq : (FilePath.mk "" names).text = (FilePath.mk "" names').text) : names = names' := by
  -- The text of the empty path is the one part that no name is.
  have hpoint : ∀ {names : List String}, (∀ name ∈ names, '/' ∉ name.toList ∧ name ≠ ".") →
      (FilePath.mk "" names).text = "." → names = [] := by
    intro names h htext
    cases names with
    | nil => rfl
    | cons name rest =>
      have hne := List.cons_ne_nil name rest
      have hsplit := splitOnP_intercalate (fun n hn => (h n hn).1) hne
      rw [← toList_relativeText hne, htext] at hsplit
      have hname : name.toList = ".".toList := (List.cons.inj hsplit).1.symm
      exact absurd (String.toList_inj.mp hname) (h name List.mem_cons_self).2
  by_cases hne : names = []
  · subst hne
    exact (hpoint h' heq.symm).symm
  · have hne' : names' ≠ [] := by
      rintro rfl
      exact hne (hpoint h heq)
    have hlists := congrArg String.toList heq
    rw [toList_relativeText hne, toList_relativeText hne'] at hlists
    have hparts := congrArg (Text.splitOnP (· == '/')) hlists
    rw [splitOnP_intercalate (fun n hn => (h n hn).1) hne,
      splitOnP_intercalate (fun n hn => (h' n hn).1) hne'] at hparts
    exact (List.map_inj_right fun _ _ => String.toList_inj.mp).mp hparts

/-- What two lists of names share at the start can be put back. -/
theorem exists_shared (as bs : List String) :
    ∃ shared, as = shared ++ (apart as bs).1 ∧ bs = shared ++ (apart as bs).2 := by
  fun_induction apart as bs with
  | case1 a as b bs heq ih =>
    obtain ⟨shared, has, hbs⟩ := ih
    obtain rfl := beq_iff_eq.mp heq
    exact ⟨a :: shared, congrArg (a :: ·) has, congrArg (a :: ·) hbs⟩
  | case2 a as b bs hne => exact ⟨[], rfl, rfl⟩
  | case3 as bs hno => exact ⟨[], rfl, rfl⟩

/-- The way from a place tells where it leads: it goes up as often as its names say,
and then down along the names that are not shared. -/
theorem wayFrom_inj {p q start : FilePath} (hp : ∀ name ∈ p.names, IsName name)
    (hq : ∀ name ∈ q.names, IsName name) (h : p.wayFrom start = q.wayFrom start) :
    p.names = q.names := by
  obtain ⟨shared, hdown, hup⟩ := exists_shared p.names start.names
  obtain ⟨shared', hdown', hup'⟩ := exists_shared q.names start.names
  rw [wayFrom, wayFrom] at h
  generalize apart p.names start.names = parts at hdown hup h
  generalize apart q.names start.names = parts' at hdown' hup' h
  obtain ⟨down, up⟩ := parts
  obtain ⟨down', up'⟩ := parts'
  dsimp only at hdown hup hdown' hup' h
  have hnames : ∀ name ∈ down, IsName name := fun name hname =>
    hp name (hdown ▸ List.mem_append_right _ hname)
  have hnames' : ∀ name ∈ down', IsName name := fun name hname =>
    hq name (hdown' ▸ List.mem_append_right _ hname)
  have hway : ∀ {up down : List String}, (∀ name ∈ down, IsName name) →
      ∀ name ∈ up.map (fun _ => "..") ++ down, '/' ∉ name.toList ∧ name ≠ "." := by
    intro up down hdown name hname
    rcases List.mem_append.mp hname with hname | hname
    · obtain ⟨_, -, rfl⟩ := List.mem_map.mp hname
      decide
    · exact ⟨(hdown name hname).2.1, (hdown name hname).2.2.1⟩
  have hsame := relativeText_inj (hway hnames) (hway hnames') h
  have hcount : ∀ {up down : List String}, (∀ name ∈ down, IsName name) →
      (up.map (fun _ => "..") ++ down).count ".." = up.length := by
    intro up down hdown
    rw [List.count_append, List.count_eq_zero_of_not_mem fun hmem => (hdown _ hmem).2.2.2 rfl,
      List.map_const', List.count_replicate_self, Nat.add_zero]
  have hlength : up.length = up'.length := by
    rw [← hcount hnames, hsame, hcount hnames']
  obtain ⟨-, hdowns⟩ := List.append_inj hsame (by rw [List.length_map, List.length_map, hlength])
  obtain ⟨hshared, -⟩ := List.append_inj' (hup.symm.trans hup') hlength
  rw [hdown, hdown', hshared, hdowns]

end FilePath

end RouteDoc
