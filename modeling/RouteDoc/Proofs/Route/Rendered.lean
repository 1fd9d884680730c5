import Mathlib.Data.List.Nodup
import RouteDoc.Proofs.Route.Names
import RouteDoc.Route.SourceFile

/-!
# Paths written as templates

In the path that a template stands for, each substitution is a colon and the name
of a numbered parameter. Nothing marks the end of the name there. It is looked for
again when the path is read, so letters, digits and underscores that stand right
after a substitution become part of its name.

* `literals`, `numbered`: what a template holds besides its substitutions, and the
  text made of it (`renderTemplate_eq`);
* `writtenNames`: the names in that text (`namedIn_rendered`);
* `template_names_iff`: the names in the path of a template, and when they are the
  numbered ones.
-/

namespace RouteDoc

open Source (Node)
open Text (Ends ends_nil ends_cons)

/-! ## The text of a template -/

/-- The name of the parameter for a substitution. -/
def numberedName (index : Nat) : String := "param" ++ toString index

/-- The substitutions of a template. -/
def substitutions (n : Node) : List Node := n.children.filter (·.kind == .substitution)

/-- What stands before, between and after substitutions, from `position` on. -/
def literalsFrom (source : List Char) (stop position : Nat) : List Node → List (List Char)
  | [] => [stretch source position (stop - 1)]
  | n :: ns => stretch source position n.span.start :: literalsFrom source stop n.span.stop ns

/-- The literal pieces of a template. -/
def literals (source : List Char) (n : Node) : List (List Char) :=
  literalsFrom source n.span.stop (n.span.start + 1) (substitutions n)

/-- Pieces of text, each after a parameter. -/
def numbered : Nat → List (List Char) → List Char
  | _, [] => []
  | index, piece :: pieces =>
    ':' :: ((numberedName index).toList ++ piece ++ numbered (index + 1) pieces)

theorem length_literalsFrom (source : List Char) (stop position : Nat) (ns : List Node) :
    (literalsFrom source stop position ns).length = ns.length + 1 := by
  induction ns generalizing position with
  | nil => rfl
  | cons n ns ih => rw [literalsFrom, List.length_cons, ih, List.length_cons]

theorem templatePieces_eq {source : List Char} {stop position : Nat} {ns : List Node}
    {first : List Char} {pieces : List (List Char)}
    (h : literalsFrom source stop position ns = first :: pieces) (index : Nat) :
    templatePieces source stop position index ns = first ++ numbered index pieces := by
  induction ns generalizing position index first pieces with
  | nil =>
    cases h
    exact (List.append_nil _).symm
  | cons n ns ih =>
    obtain ⟨rfl, hpieces⟩ := List.cons.inj h
    obtain ⟨piece, pieces, rfl⟩ := List.exists_cons_of_length_eq_add_one
      (hpieces ▸ length_literalsFrom source stop n.span.stop ns)
    rw [templatePieces, ih hpieces, numbered, numberedName, String.toList_append]
    simp only [List.append_assoc]
    rfl

theorem renderTemplate_eq {source : List Char} {n : Node} {first : List Char}
    {pieces : List (List Char)} (h : literals source n = first :: pieces) :
    (renderTemplate source n).1 = first ++ numbered 0 pieces :=
  templatePieces_eq h 0

/-! ## The names in it -/

/-- The name of each parameter as it is read: it goes on into the piece after it. -/
def writtenNames : Nat → List (List Char) → List String
  | _, [] => []
  | index, piece :: pieces =>
    String.ofList ((numberedName index).toList ++ piece.takeWhile isNameChar) ::
      writtenNames (index + 1) pieces

section Names

variable {index : Nat} {first : List Char} {pieces : List (List Char)}

theorem isWord_numberedName (index : Nat) : IsWord (numberedName index).toList := by
  rw [numberedName, String.toList_append]
  refine isWord_append (isWord_of_all (by decide)) fun c hc => ?_
  simp [isNameChar, Char.isAlphanum, Text.isDigit_of_mem_toString hc]

theorem startsName_numberedName (index : Nat) (cs : List Char) :
    startsName ((numberedName index).toList ++ cs) = true := by
  rw [numberedName, String.toList_append]
  rfl

theorem numberedName_inj {i j : Nat} (h : numberedName i = numberedName j) : i = j :=
  Text.toString_nat_inj (String.append_right_inj _ |>.mp h)

theorem ends_numbered (index : Nat) (pieces : List (List Char)) :
    Ends isNameChar (numbered index pieces) := by
  cases pieces with
  | nil => exact ends_nil
  | cons piece pieces => exact ends_cons.mpr (by decide)

/-- The word after a colon is a number's name and the word that the next piece
starts with. -/
theorem namedIn_numbered {styles : List Style} (hcolon : .colon ∈ styles)
    (hfree : ∀ piece ∈ pieces, ∀ c ∈ piece, opensName c = false) (index : Nat) :
    namedIn styles (numbered index pieces) = writtenNames index pieces := by
  induction pieces generalizing index with
  | nil => rfl
  | cons piece pieces ih =>
    obtain ⟨hpiece, hfree⟩ := List.forall_mem_cons.mp hfree
    have hsplit : numbered index (piece :: pieces) =
        ':' :: (((numberedName index).toList ++ piece.takeWhile isNameChar) ++
          (piece.dropWhile isNameChar ++ numbered (index + 1) pieces)) := by
      rw [numbered, List.append_assoc, List.append_assoc, ← List.append_assoc (piece.takeWhile _),
        List.takeWhile_append_dropWhile]
    have hword : IsWord ((numberedName index).toList ++ piece.takeWhile isNameChar) :=
      isWord_append (isWord_numberedName index) fun _ hc => List.mem_takeWhile_imp hc
    have hends : Ends isNameChar (piece.dropWhile isNameChar ++ numbered (index + 1) pieces) :=
      (Text.ends_dropWhile isNameChar piece).append (ends_numbered (index + 1) pieces)
    have hmarks : ∀ after : Option Char, (styles.any fun s => s.marks ':' after) = true :=
      fun _ => List.any_eq_true.mpr ⟨.colon, hcolon, rfl⟩
    rw [hsplit, namedIn_word hword hends, startsName_numberedName, hmarks, writtenNames,
      namedIn_append_of_not_opensName
        (fun d hd => hpiece d ((List.dropWhile_suffix isNameChar).subset hd)), ih hfree]
    rfl

/-- The names in the text of a template, if no piece of it may give one itself. -/
theorem namedIn_rendered {styles : List Style} (hcolon : .colon ∈ styles)
    (hfree : ∀ piece ∈ first :: pieces, ∀ c ∈ piece, opensName c = false) :
    namedIn styles (first ++ numbered 0 pieces) = writtenNames 0 pieces := by
  obtain ⟨hfirst, hfree⟩ := List.forall_mem_cons.mp hfree
  rw [namedIn_append_of_not_opensName hfirst, namedIn_numbered hcolon hfree]

theorem length_writtenNames (index : Nat) (pieces : List (List Char)) :
    (writtenNames index pieces).length = pieces.length := by
  induction pieces generalizing index with
  | nil => rfl
  | cons piece pieces ih => rw [writtenNames, List.length_cons, ih, List.length_cons]

/-- The names are the numbered ones where no piece goes on with a name. -/
theorem writtenNames_eq_iff (index : Nat) (pieces : List (List Char)) :
    writtenNames index pieces = (List.range' index pieces.length).map numberedName ↔
      ∀ piece ∈ pieces, Ends isNameChar piece := by
  induction pieces generalizing index with
  | nil => exact iff_of_true rfl (List.forall_mem_nil _)
  | cons piece pieces ih =>
    have hhead : String.ofList ((numberedName index).toList ++ piece.takeWhile isNameChar) =
        numberedName index ↔ Ends isNameChar piece := by
      rw [Text.ends_iff_takeWhile_eq_nil, ← String.toList_inj, String.toList_ofList,
        List.append_right_eq_self]
    rw [writtenNames, List.length_cons, List.range'_succ, List.map_cons, List.cons.injEq, hhead,
      ih, List.forall_mem_cons]

end Names

/-! ## Names once each -/

section Distinct

variable {α : Type} [BEq α]

theorem eraseDups_sublist (xs : List α) : xs.eraseDups.Sublist xs := by
  induction hn : xs.length using Nat.strongRecOn generalizing xs with
  | ind n ih =>
    cases xs with
    | nil => exact List.Sublist.refl _
    | cons x xs =>
      rw [List.eraseDups_cons]
      refine .cons_cons x ((ih _ ?_ _ rfl).trans List.filter_sublist)
      rw [← hn, List.length_cons]
      exact Nat.lt_succ_of_le (List.length_filter_le _ _)

variable [LawfulBEq α]

theorem eraseDups_of_nodup {xs : List α} (h : xs.Nodup) : xs.eraseDups = xs := by
  induction xs with
  | nil => rfl
  | cons x xs ih =>
    obtain ⟨hx, hxs⟩ := List.nodup_cons.mp h
    have hkeep : xs.filter (fun y => !y == x) = xs := by
      refine List.filter_eq_self.mpr fun y hy => ?_
      rw [Bool.not_eq_true', beq_eq_false_iff_ne]
      rintro rfl
      exact hx hy
    rw [List.eraseDups_cons, hkeep, ih hxs]

/-- What is as long as a list without repetitions is it if it is so once each. -/
theorem eraseDups_eq_iff {xs ys : List α} (hys : ys.Nodup) (hlength : xs.length = ys.length) :
    xs.eraseDups = ys ↔ xs = ys := by
  constructor
  · rintro rfl
    exact ((eraseDups_sublist xs).eq_of_length hlength.symm).symm
  · rintro rfl
    exact eraseDups_of_nodup hys

end Distinct

/-! ## Paths of templates -/

/-- A template that starts with a slash, with no opening mark of a name in its
literal pieces, stands for a path. The path in normal form names one parameter for
each substitution, and they are the parameters of the path, each once. These are the
numbered ones exactly where no letter, digit or underscore follows a substitution. -/
theorem template_names_iff (source : List Char) {n : Node} (hkind : n.kind = .template)
    {first : List Char} {pieces : List (List Char)} (hliterals : literals source n = first :: pieces)
    (hslash : first.head? = some '/')
    (hfree : ∀ piece ∈ first :: pieces, ∀ c ∈ piece, opensName c = false) :
    ∃ path, pathOfArgument source n = some path ∧
      namedIn [.braces] (normalizePath path).toList = writtenNames 0 pieces ∧
      (pathParameters path).map (·.name) = (writtenNames 0 pieces).eraseDups ∧
      (namedIn [.braces] (normalizePath path).toList =
          (List.range (substitutions n).length).map numberedName ↔
        ∀ piece ∈ pieces, Ends isNameChar piece) ∧
      ((pathParameters path).map (·.name) =
          (List.range (substitutions n).length).map numberedName ↔
        ∀ piece ∈ pieces, Ends isNameChar piece) := by
  have hcount : pieces.length = (substitutions n).length :=
    Nat.succ.inj ((congrArg List.length hliterals).symm.trans (length_literalsFrom ..))
  have hpath : pathOfArgument source n = some (String.ofList (first ++ numbered 0 pieces)) := by
    have hhead : (first ++ numbered 0 pieces).head? = some '/' := by
      rw [List.head?_append, hslash]
      rfl
    rw [pathOfArgument, hkind]
    simp only [renderTemplate_eq hliterals, hhead, beq_self_eq_true, Bool.or_true, Bool.true_or,
      if_true]
  have hnamed : namedIn [.braces]
      (normalizePath (String.ofList (first ++ numbered 0 pieces))).toList =
        writtenNames 0 pieces := by
    rw [normalizePath, String.toList_ofList, String.toList_ofList, namedIn_normalizeList,
      namedIn_rendered (by decide) hfree]
  have hdeclared : (pathParameters (String.ofList (first ++ numbered 0 pieces))).map (·.name) =
      (writtenNames 0 pieces).eraseDups := by
    rw [map_name_pathParameters, String.toList_ofList, namedIn_rendered (by decide) hfree]
  have hnodup : ((List.range pieces.length).map numberedName).Nodup :=
    List.nodup_range.map fun _ _ => numberedName_inj
  have hnumbers : writtenNames 0 pieces = (List.range pieces.length).map numberedName ↔
      ∀ piece ∈ pieces, Ends isNameChar piece := by
    rw [List.range_eq_range', writtenNames_eq_iff]
  refine ⟨_, hpath, hnamed, hdeclared, ?_, ?_⟩
  · rw [hnamed, ← hcount, hnumbers]
  · rw [hdeclared, ← hcount, eraseDups_eq_iff hnodup (by simp [length_writtenNames]), hnumbers]

/-- A template with two substitutions. -/
def filesText : List Char := "`/files/$\x7bdir\x7d/$\x7bname\x7d.json`".toList

/-- Its node. -/
def filesTemplate : Node :=
  .mk .template .plain ⟨0, 28, 0, 0⟩
    [.mk .substitution .plain ⟨8, 14, 0, 0⟩ [], .mk .substitution .plain ⟨15, 22, 0, 0⟩ []]

theorem template_names_files :
    literals filesText filesTemplate = ["/files/".toList, ['/'], ".json".toList] ∧
      ∃ path, pathOfArgument filesText filesTemplate = some path ∧
        namedIn [.braces] (normalizePath path).toList = ["param0", "param1"] ∧
        (pathParameters path).map (·.name) = ["param0", "param1"] := by
  have hliterals : literals filesText filesTemplate =
      ["/files/".toList, ['/'], ".json".toList] := by decide
  have hquiet : (["/files/".toList, ['/'], ".json".toList].all fun piece =>
      piece.all (!opensName ·)) = true := by decide
  have hfree : ∀ piece ∈ ["/files/".toList, ['/'], ".json".toList], ∀ c ∈ piece,
      opensName c = false := fun piece hpiece c hc =>
    (Bool.not_eq_true' _).mp
      (List.all_eq_true.mp (List.all_eq_true.mp hquiet piece hpiece) c hc)
  have hends : ∀ piece ∈ [['/'], ".json".toList], Ends isNameChar piece := by
    simp only [List.forall_mem_cons]
    exact ⟨ends_cons.mpr (by decide), ends_cons.mpr (by decide), List.forall_mem_nil _⟩
  have hnumbers : (List.range (substitutions filesTemplate).length).map numberedName =
      ["param0", "param1"] := by decide
  obtain ⟨path, hpath, -, -, hnamed, hdeclared⟩ :=
    template_names_iff filesText rfl hliterals rfl hfree
  rw [hnumbers] at hnamed hdeclared
  exact ⟨hliterals, path, hpath, hnamed.mpr hends, hdeclared.mpr hends⟩

/-- A declaration with a literal right after a substitution. -/
def joinedText : List Char := "app.get(`/files/$\x7bname\x7d_v2`, handler);".toList

/-- The route declared there. -/
def joinedRoute : Route where
  method := "GET"
  path := "/files/:param0_v2"
  parameters := [{ name := "param0_v2" }]
  handlerName := some "handler"
  line := 1

/-- What stands right after a substitution becomes part of the name. -/
theorem absorbed_literal :
    (extractFrom joinedText "" (some ".js")).routes = [joinedRoute] ∧
      (pathParameters joinedRoute.path).map (·.name) = ["param0_v2"] ∧
      normalizePath joinedRoute.path = "/files/\x7bparam0_v2\x7d" := by
  refine ⟨?_, by decide, by decide⟩
  decide +kernel

end RouteDoc
