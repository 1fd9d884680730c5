import RouteDoc.Proofs.Json.Written
import RouteDoc.Proofs.Text.Pattern
import RouteDoc.Service.Repair

/-!
# Objects in prose

Fences, and prose that holds no brace of its own, are taken away from around an
object, and nothing of the object is.

* `dropFences_append`: fences on the two sides of a mark do not meet;
* `isolate_wrapped`: what is isolated is the object;
* `readReply_wrapped`: an object is read the same with prose around it.
-/

namespace RouteDoc.Service

open Json (Any Blanks Written blanks_nil)
open Text (isSpace Turns isPrefixOf_append_cons)

/-! ## Fences -/

/-- A character that no fence reaches over: it is none of a fence, of the word
that may follow it, or of the white space after that. -/
def IsMark (d : Char) : Prop :=
  d ∉ fence ∧ d ∉ "json".toList ∧ d ∉ "JSON".toList ∧ isSpace d = false

theorem isMark_opening : IsMark '{' := by
  unfold IsMark
  decide

theorem isMark_closing : IsMark '}' := by
  unfold IsMark
  decide

theorem isMark_quote : IsMark '"' := by
  unfold IsMark
  decide

theorem fenceLength_append_cons {d : Char} (hd : IsMark d) (cs rest : List Char) :
    fenceLength (cs ++ d :: rest) = fenceLength cs := by
  obtain ⟨hfence, hsmall, hcapital, -⟩ := hd
  rw [fenceLength, fenceLength, isPrefixOf_append_cons hfence]
  cases h : fence.isPrefixOf cs with
  | false => rfl
  | true =>
    have hlength : 3 ≤ cs.length := (List.isPrefixOf_iff_prefix.mp h).length_le
    rw [List.drop_append_of_le_length hlength, isPrefixOf_append_cons hsmall,
      isPrefixOf_append_cons hcapital]

/-- What a fence may be, with the word after it. -/
def fences : List (List Char) := [fence, fence ++ "json".toList, fence ++ "JSON".toList]

theorem fenceLength_cases (cs : List Char) :
    fenceLength cs = 0 ∨ ∃ w ∈ fences, w <+: cs ∧ fenceLength cs = w.length := by
  rw [fenceLength]
  split
  · exact .inl rfl
  · rename_i h
    obtain ⟨more, rfl⟩ : fence <+: cs := List.isPrefixOf_iff_prefix.mp (by simpa using h)
    have hdrop : (fence ++ more).drop 3 = more := rfl
    rw [hdrop]
    right
    split
    · rename_i hword
      rcases (Bool.or_eq_true _ _).mp hword with hword | hword
      · obtain ⟨rest, rfl⟩ := List.isPrefixOf_iff_prefix.mp hword
        exact ⟨fence ++ "json".toList, by simp [fences], ⟨rest, List.append_assoc _ _ _⟩, rfl⟩
      · obtain ⟨rest, rfl⟩ := List.isPrefixOf_iff_prefix.mp hword
        exact ⟨fence ++ "JSON".toList, by simp [fences], ⟨rest, List.append_assoc _ _ _⟩, rfl⟩
    · exact ⟨fence, by simp [fences], List.prefix_append _ _, rfl⟩

/-- A fence is no longer than the text it begins. -/
theorem fenceLength_le (cs : List Char) : fenceLength cs ≤ cs.length := by
  obtain h | ⟨w, -, hw, h⟩ := fenceLength_cases cs
  · rw [h]
    exact Nat.zero_le _
  · rw [h]
    exact hw.length_le

/-- No escape begins in a fence. -/
theorem ne_slash_of_mem_take {cs : List Char} {c : Char} (hc : c ∈ cs.take (fenceLength cs)) :
    c ≠ '\\' := by
  obtain h | ⟨w, hmem, hw, h⟩ := fenceLength_cases cs
  · rw [h] at hc
    cases hc
  · rw [h, ← List.prefix_iff_eq_take.mp hw] at hc
    have hnot : ∀ w ∈ fences, '\\' ∉ w := by decide +kernel
    exact fun he => hnot w hmem (he ▸ hc)

theorem dropFences_succ (skip : Nat) (after : Bool) (c : Char) (cs : List Char) :
    dropFences (skip + 1) after (c :: cs) = dropFences skip after cs := by
  rw [dropFences]

theorem dropFences_of_fence {c : Char} {cs : List Char} {n : Nat} (after : Bool)
    (h : fenceLength (c :: cs) = n + 1) : dropFences 0 after (c :: cs) = dropFences n true cs := by
  rw [dropFences, h]

theorem dropFences_of_no_fence {c : Char} {cs : List Char} (after : Bool)
    (h : fenceLength (c :: cs) = 0) : dropFences 0 after (c :: cs) =
      if after && isSpace c then dropFences 0 true cs else c :: dropFences 0 false cs := by
  rw [dropFences, h]

theorem fenceLength_eq_zero {cs : List Char} (h : ¬ fence <+: cs) : fenceLength cs = 0 := by
  have hnot : fence.isPrefixOf cs = false :=
    Bool.eq_false_iff.mpr fun hfence => h (List.isPrefixOf_iff_prefix.mp hfence)
  rw [fenceLength, hnot]
  rfl

/-- No fence begins with another character than a backtick. -/
theorem dropFences_cons {c : Char} (hc : c ≠ '`') (cs : List Char) :
    dropFences 0 false (c :: cs) = c :: dropFences 0 false cs := by
  have hnone : fenceLength (c :: cs) = 0 := fenceLength_eq_zero fun hfence => by
    obtain ⟨more, hmore⟩ := hfence
    exact hc (List.cons.inj hmore).1.symm
  rw [dropFences_of_no_fence false hnone, Bool.false_and, if_neg Bool.false_ne_true]

/-- Fences on the two sides of a mark are dropped on their own. -/
theorem dropFences_append {d : Char} (hd : IsMark d) {skip : Nat} (after : Bool) (cs : List Char)
    (hskip : skip ≤ cs.length) (rest : List Char) :
    dropFences skip after (cs ++ d :: rest) =
      dropFences skip after cs ++ d :: dropFences 0 false rest := by
  induction cs generalizing skip after with
  | nil =>
    obtain rfl : skip = 0 := Nat.le_zero.mp hskip
    have hnone : fenceLength (d :: rest) = 0 := (fenceLength_append_cons hd [] rest).trans rfl
    rw [List.nil_append, dropFences_of_no_fence after hnone, hd.2.2.2, Bool.and_false,
      if_neg Bool.false_ne_true, dropFences, List.nil_append]
  | cons c cs ih =>
    rw [List.cons_append]
    cases skip with
    | succ skip =>
      rw [dropFences_succ, dropFences_succ]
      exact ih after (Nat.le_of_succ_le_succ hskip)
    | zero =>
      have hsame := fenceLength_append_cons hd (c :: cs) rest
      rw [List.cons_append] at hsame
      cases h : fenceLength (c :: cs) with
      | succ n =>
        rw [dropFences_of_fence after (hsame.trans h), dropFences_of_fence after h]
        have hle := fenceLength_le (c :: cs)
        rw [h, List.length_cons] at hle
        exact ih true (Nat.le_of_succ_le_succ hle)
      | zero =>
        rw [dropFences_of_no_fence after (hsame.trans h), dropFences_of_no_fence after h]
        split
        · exact ih true (Nat.zero_le _)
        · rw [ih false (Nat.zero_le _), List.cons_append]

/-- A text without a fence stays as it is. -/
theorem dropFences_eq_self {cs : List Char} (h : ¬ fence <:+: cs) : dropFences 0 false cs = cs := by
  induction cs with
  | nil => rfl
  | cons c cs ih =>
    have hnone := fenceLength_eq_zero fun hfence => h hfence.isInfix
    rw [dropFences_of_no_fence false hnone, Bool.false_and, if_neg Bool.false_ne_true,
      ih fun hfence => h (hfence.trans (List.suffix_cons c cs).isInfix)]

theorem dropFences_sublist (skip : Nat) (after : Bool) (cs : List Char) :
    (dropFences skip after cs).Sublist cs := by
  fun_induction dropFences skip after cs with
  | case1 => exact List.Sublist.refl _
  | case2 skip after c cs ih => exact ih.cons c
  | case3 after c cs n hfence ih => exact ih.cons c
  | case4 after c cs hfence hspace ih => exact ih.cons c
  | case5 after c cs hfence hspace ih => exact ih.cons_cons c

/-! ## What stands between braces -/

/-- A text that begins with an opening brace and ends with a closing one. -/
def IsBraced (object : List Char) : Prop := object.head? = some '{' ∧ object.getLast? = some '}'

section Braced

variable {object : List Char}

theorem IsBraced.exists_cons (h : IsBraced object) : ∃ cs, object = '{' :: cs := by
  obtain ⟨cs, hcs⟩ := List.head?_eq_some_iff.mp h.1
  exact ⟨cs, hcs⟩

theorem IsBraced.exists_append (h : IsBraced object) : ∃ cs, object = cs ++ ['}'] :=
  List.getLast?_eq_some_iff.mp h.2

/-- An object without a fence stays as it is. -/
theorem IsBraced.turns (h : IsBraced object) (hfence : ¬ fence <:+: object) :
    Turns (dropFences 0 false) object object := by
  intro rest
  obtain ⟨cs, rfl⟩ := h.exists_append
  rw [List.append_assoc, List.singleton_append,
    dropFences_append isMark_closing false _ (Nat.zero_le _),
    dropFences_eq_self fun hcs => hfence (hcs.trans (List.prefix_append _ _).isInfix),
    List.append_assoc, List.singleton_append]

/-- Fences around an object are dropped on their own. -/
theorem dropFences_wrapped {object' : List Char} (h : IsBraced object)
    (hturns : Turns (dropFences 0 false) object object') (front back : List Char) :
    dropFences 0 false (front ++ object ++ back) =
      dropFences 0 false front ++ object' ++ dropFences 0 false back := by
  obtain ⟨cs, rfl⟩ := h.exists_cons
  have hopen := dropFences_append isMark_opening false [] (Nat.zero_le _) (cs ++ back)
  rw [List.append_assoc, List.append_assoc, ← hturns, List.cons_append,
    dropFences_append isMark_opening false _ (Nat.zero_le _)]
  exact congrArg _ hopen.symm

theorem betweenBraces_wrapped (h : IsBraced object) {front back : List Char}
    (hfront : '{' ∉ front) (hback : '}' ∉ back) :
    betweenBraces (front ++ object ++ back) = object := by
  have hdrop : (front ++ object ++ back).dropWhile (· != '{') = object ++ back := by
    obtain ⟨cs, rfl⟩ := h.exists_cons
    rw [List.append_assoc, List.dropWhile_append_of_pos fun c hc => by
      simpa using fun he : c = '{' => hfront (he ▸ hc)]
    rfl
  have hend : Text.dropEndWhile (· != '}') (object ++ back) = object := by
    obtain ⟨cs, rfl⟩ := h.exists_append
    rw [Text.dropEndWhile, List.reverse_append, List.dropWhile_append_of_pos fun c hc => by
      simpa using fun he : c = '}' => hback (he ▸ List.mem_reverse.mp hc)]
    rw [List.reverse_append, List.reverse_singleton, List.singleton_append,
      List.dropWhile_cons_of_neg (by decide), List.reverse_cons, List.reverse_reverse]
  obtain ⟨cs, rfl⟩ := h.exists_cons
  rw [betweenBraces, hdrop, hend]
  rfl

/-! ## Isolating -/

/-- No name of a format stands in front of an object. -/
theorem dropFirst_formatName (cs : List Char) : dropFirst formatName ('{' :: cs) = '{' :: cs := by
  have hnone : formatName.occursIn ('{' :: cs) = false := by
    refine Bool.eq_false_iff.mpr fun hoccurs => ?_
    obtain ⟨front, rest, he, hends⟩ := Text.Pattern.occursIn_iff.mp hoccurs
    refine hends ?_
    cases front with
    | nil =>
      obtain rfl : '{' :: cs = rest := he
      rfl
    | cons c front =>
      rw [List.getLast?_cons]
      rfl
  rw [Text.Pattern.occursIn, Option.isSome_eq_false_iff, Option.isNone_iff_eq_none] at hnone
  rw [dropFirst, hnone]

theorem trimList_of_isBraced (h : IsBraced object) : Text.trimList object = object := by
  have hstart : Text.trimStart object = object := by
    obtain ⟨cs, rfl⟩ := h.exists_cons
    rfl
  rw [Text.trimList, hstart]
  obtain ⟨cs, rfl⟩ := h.exists_append
  rw [Text.trimEnd, Text.dropEndWhile, List.reverse_append, List.reverse_singleton,
    List.singleton_append, List.dropWhile_cons_of_neg (by decide), List.reverse_cons,
    List.reverse_reverse]

/-- No introduction is dropped from an object. -/
theorem foldl_dropIntroduction (h : IsBraced object) (ps : List Text.Pattern) :
    ps.foldl dropIntroduction object = object := by
  induction ps with
  | nil => rfl
  | cons p ps ih =>
    obtain ⟨cs, rfl⟩ := h.exists_cons
    rw [List.foldl_cons]
    exact ih

/-- What is isolated is the object without the fences in it, whatever stands
around it without a brace that could be one of its own. -/
theorem isolate_wrapped {object' : List Char} (h : IsBraced object) (h' : IsBraced object')
    (hturns : Turns (dropFences 0 false) object object') {front back : List Char}
    (hfront : '{' ∉ front) (hback : '}' ∉ back) : isolate (front ++ object ++ back) = object' := by
  have hbetween : betweenBraces (dropFences 0 false (front ++ object ++ back)) = object' := by
    rw [dropFences_wrapped h hturns]
    exact betweenBraces_wrapped h' (fun hc => hfront ((dropFences_sublist _ _ _).subset hc))
      fun hc => hback ((dropFences_sublist _ _ _).subset hc)
  have hname : dropFirst formatName object' = object' := by
    obtain ⟨cs, rfl⟩ := h'.exists_cons
    exact dropFirst_formatName cs
  rw [isolate, hbetween, hname, foldl_dropIntroduction h', trimList_of_isBraced h']

end Braced

/-! ## Reading -/

theorem readFirst_of_ok {text : List Char} {v : Json} (h : Json.readList text = .ok v)
    (more : List (List Char)) : readFirst text more = .ok v := by
  cases more <;> rw [readFirst, h]

theorem isBlankText_of_mem {c : Char} {text : String} (hc : c ∈ text.toList)
    (hspace : isSpace c = false) : Text.isBlankText text = false := by
  refine Bool.eq_false_iff.mpr fun hblank => ?_
  rw [List.all_eq_true.mp hblank c hc] at hspace
  cases hspace

/-- A reply that holds an object is read from the object without its fences. -/
theorem readReply_of_readFirst {fields : Fields} {reply : String}
    {front object object' back : List Char} (hreply : reply.toList = front ++ object ++ back)
    (h : IsBraced object) (h' : IsBraced object')
    (hturns : Turns (dropFences 0 false) object object') (hfront : '{' ∉ front) (hback : '}' ∉ back)
    (hread : readFirst object' (repaired object' repairs) = .ok (.obj fields)) :
    readReply reply = .ok fields := by
  have hmem : '{' ∈ reply.toList := by
    rw [hreply]
    exact List.mem_append_left _ (List.mem_append_right _ (List.mem_of_mem_head? h.1))
  rw [readReply, isBlankText_of_mem hmem (by decide), if_neg Bool.false_ne_true]
  dsimp only
  rw [hreply, isolate_wrapped h h' hturns hfront hback, hread]

/-- An object is read the same when other text stands around it, as long as that
holds no brace that could be one of its own. -/
theorem readReply_wrapped (front object back : String) {fields : Fields}
    (hfirst : object.toList.head? = some '{') (hlast : object.toList.getLast? = some '}')
    (hfence : ¬ fence <:+: object.toList) (hread : Json.read object = .ok (.obj fields))
    (hfront : '{' ∉ front.toList) (hback : '}' ∉ back.toList) :
    readReply (front ++ object ++ back) = .ok fields := by
  have htext : (front ++ object ++ back).toList = front.toList ++ object.toList ++ back.toList := by
    rw [String.toList_append, String.toList_append]
  have hobject : IsBraced object.toList := ⟨hfirst, hlast⟩
  exact readReply_of_readFirst htext hobject hobject (hobject.turns hfence) hfront hback
    (readFirst_of_ok hread _)

/-- An object between fences, with prose before and after them. -/
theorem readReply_wrapped_fenced :
    "\x7b\"tags\": [\"``\"]\x7d".toList.head? = some '{' ∧
      "\x7b\"tags\": [\"``\"]\x7d".toList.getLast? = some '}' ∧
      ¬ fence <:+: "\x7b\"tags\": [\"``\"]\x7d".toList ∧
      '{' ∉ "Here is the json:\n```json \n".toList ∧ '}' ∉ "\n```\nSee \x7b`".toList ∧
      readReply ("Here is the json:\n```json \n" ++ "\x7b\"tags\": [\"``\"]\x7d" ++
        "\n```\nSee \x7b`") =
          .ok [("tags", .arr [.str "``"])] := by
  have hfirst : "\x7b\"tags\": [\"``\"]\x7d".toList.head? = some '{' := by decide +kernel
  have hlast : "\x7b\"tags\": [\"``\"]\x7d".toList.getLast? = some '}' := by decide +kernel
  have hfence : ¬ fence <:+: "\x7b\"tags\": [\"``\"]\x7d".toList := by decide +kernel
  have hblank : Blanks [' '] := List.forall_mem_singleton.mpr rfl
  have hread : Json.read "\x7b\"tags\": [\"``\"]\x7d" =
      .ok (.obj [("tags", .arr [.str "``"])]) := by
    have htags : Json.Spells "tags".toList "tags".toList := Json.spells_self (by decide +kernel)
    have htext : Json.Spells ['`', '`'] ['`', '`'] := Json.spells_self (by decide)
    have hlist : Written Any 0 (.value (.arr [.str "``"])) "[\"``\"]".toList :=
      .list blanks_nil (.lastItem (.text htext trivial) blanks_nil)
    exact (Written.singleton htags trivial hblank hlist).readList_alone
  have hfront : '{' ∉ "Here is the json:\n```json \n".toList := by decide +kernel
  have hback : '}' ∉ "\n```\nSee \x7b`".toList := by decide +kernel
  exact ⟨hfirst, hlast, hfence, hfront, hback,
    readReply_wrapped _ _ _ hfirst hlast hfence hread hfront hback⟩

end RouteDoc.Service
