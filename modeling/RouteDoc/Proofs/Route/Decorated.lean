import RouteDoc.Proofs.Text.Lines
import RouteDoc.Proofs.Text.Rows
import RouteDoc.Proofs.Text.Stretch
import RouteDoc.Proofs.Text.Trimmed
import RouteDoc.Route.Comment

/-!
# Descriptions in decorated comments

The lines of a block comment may be written with stars before them or without. The
description is the same, unless the first description tag ends its line: then the
decoration of the line after it is taken for the text of the tag.

* `Layout`: block comments with stars and without;
* `firstTag`: the description tag that counts, and what follows it;
* `taggedLine_body`: the line of that tag, in either layout;
* `describe_layouts`: when both layouts give the same description, and when one with stars
  gives a star;
* `described_star`: a description that begins with a star.
-/

namespace RouteDoc

open Text (isSpace isBlank isBlank_iff trimList fed fed_cons IsTrimmed)

/-! ## Layouts -/

/-- How the lines of a block comment are set out. -/
inductive Layout
  | starred
  | plain

namespace Layout

/-- What stands on the line of the opening mark. -/
def opening : Layout → List Char
  | starred => ['*']
  | plain => []

/-- What stands before each line. -/
def mark : Layout → List Char
  | starred => [' ', '*', ' ']
  | plain => []

/-- What stands before the closing mark. -/
def closing : Layout → List Char
  | starred => [' ']
  | plain => []

/-- The lines below the opening mark. -/
def below (l : Layout) (lines : List (List Char)) : List Char :=
  fed (lines.map (l.mark ++ ·)) ++ l.closing

/-- What stands between the marks of a block comment. -/
def body (l : Layout) (lines : List (List Char)) : List Char := l.opening ++ '\n' :: l.below lines

/-- A block comment of lines. -/
def comment (l : Layout) (lines : List (List Char)) : String :=
  String.ofList ('/' :: '*' :: (l.body lines ++ ['*', '/']))

theorem below_cons (l : Layout) (line : List Char) (lines : List (List Char)) :
    l.below (line :: lines) = l.mark ++ (line ++ '\n' :: l.below lines) := by
  rw [below, List.map_cons, fed_cons, List.append_assoc, List.append_assoc]
  rfl

theorem below_plain (lines : List (List Char)) : plain.below lines = fed lines := by
  simp [below, mark, closing]

theorem commentBody_comment (l : Layout) (lines : List (List Char)) :
    commentBody (l.comment lines).toList = l.body lines := by
  have htrimmed : IsTrimmed ('/' :: '*' :: (l.body lines ++ ['*', '/'])) := by
    constructor
    · rintro c ⟨⟩
      decide
    · intro c hc
      have hconcat : '/' :: '*' :: (l.body lines ++ ['*', '/']) =
          '/' :: '*' :: (l.body lines ++ ['*']) ++ ['/'] := by simp
      rw [hconcat, List.getLast?_concat] at hc
      rw [← Option.some.inj hc]
      decide
  have hsuffix : ['*', '/'].isSuffixOf (l.body lines ++ ['*', '/']) = true :=
    List.isSuffixOf_iff_suffix.mpr (List.suffix_append ..)
  have hprefix : ['/', '*'].isPrefixOf ('/' :: '*' :: (l.body lines ++ ['*', '/'])) = true := rfl
  have hdrop : ('/' :: '*' :: (l.body lines ++ ['*', '/'])).drop 2 = l.body lines ++ ['*', '/'] :=
    rfl
  have hlast : (l.body lines ++ ['*', '/']).dropLast.dropLast = l.body lines := by
    rw [← List.singleton_append, ← List.append_assoc, List.dropLast_concat, List.dropLast_concat]
  rw [commentBody, comment, String.toList_ofList, htrimmed.trimList_eq, hprefix, if_pos rfl, hdrop,
    hsuffix, if_pos rfl, hlast]

end Layout

/-! ## The line after a tag -/

section AfterTag

variable {cs : List Char}

/-- After white space, the line of the first other character counts. -/
theorem afterTag_append {blanks more : List Char} {d : Char} (hne : blanks ≠ [])
    (hblanks : isBlank blanks = true) (hd : isSpace d = false) :
    afterTag (blanks ++ d :: more) = some ((d :: more).takeWhile (· != '\n')) := by
  have hspaces : (blanks ++ d :: more).takeWhile isSpace = blanks := by
    rw [List.takeWhile_append_of_pos (isBlank_iff.mp hblanks),
      List.takeWhile_cons_of_neg (by simp [hd]), List.append_nil]
  have hempty : blanks.isEmpty = false := by simpa using hne
  rw [afterTag, hspaces, List.drop_left, hempty]
  rfl

/-- If that line ends in a line feed, it is all that stands before it. -/
theorem afterTag_line {blanks more rest : List Char} {d : Char} (hne : blanks ≠ [])
    (hblanks : isBlank blanks = true) (hd : isSpace d = false) (hfeed : '\n' ∉ d :: more) :
    afterTag (blanks ++ d :: (more ++ '\n' :: rest)) = some (d :: more) := by
  have hkeep : ∀ c ∈ d :: more, (c != '\n') = true := fun c hc =>
    bne_iff_ne.mpr fun heq => hfeed (heq ▸ hc)
  rw [afterTag_append hne hblanks hd, ← List.cons_append, List.takeWhile_append_of_pos hkeep,
    List.takeWhile_cons_of_neg (by simp), List.append_nil]

theorem afterTag_of_isBlank (hblank : isBlank cs = true) :
    afterTag cs =
      if cs.isEmpty then none else ((cs.drop 1).reverse.dropWhile (· == '\n')).head?.map ([·]) := by
  have hspaces : cs.takeWhile isSpace = cs :=
    List.takeWhile_eq_self_iff.mpr (isBlank_iff.mp hblank)
  rw [afterTag, hspaces, List.drop_length]
  cases cs.isEmpty with
  | true => rfl
  | false =>
    cases ((cs.drop 1).reverse.dropWhile (· == '\n')) <;> rfl

/-- A blank at the end counts, unless it is the only one or a line feed. -/
theorem isSome_afterTag {c d : Char} (hblank : isBlank (c :: (cs ++ [d])) = true) (hd : d ≠ '\n') :
    (afterTag (c :: (cs ++ [d]))).isSome = true := by
  have hkeep : ((c :: (cs ++ [d])).drop 1).reverse.dropWhile (· == '\n') = d :: cs.reverse := by
    rw [List.drop_succ_cons, List.drop_zero, List.reverse_append, List.reverse_singleton,
      List.singleton_append, List.dropWhile_cons_of_neg (by simpa using hd)]
  rw [afterTag_of_isBlank hblank, hkeep]
  rfl

/-- Something counts unless no white space follows or nothing else does. -/
theorem isBlank_of_afterTag_eq_none (hnext : cs.head?.all isSpace = true)
    (h : afterTag cs = none) : isBlank cs = true := by
  refine Bool.of_not_eq_false fun hblank => ?_
  obtain ⟨blanks, d, more, rfl, hblanks, hd⟩ := Text.exists_of_not_isBlank hblank
  cases blanks with
  | nil => exact Bool.false_ne_true (hd.symm.trans hnext)
  | cons c blanks =>
    rw [afterTag_append (List.cons_ne_nil c blanks) hblanks hd] at h
    cases h

/-- The line after a tag is part of what follows the tag. -/
theorem mem_of_mem_afterTag {line : List Char} (h : afterTag cs = some line) :
    ∀ c ∈ line, c ∈ cs := by
  intro c hc
  cases hblank : isBlank cs with
  | true =>
    rw [afterTag_of_isBlank hblank] at h
    split at h
    · cases h
    · obtain ⟨d, hd, rfl⟩ := Option.map_eq_some_iff.mp h
      rw [List.mem_singleton.mp hc]
      exact List.mem_of_mem_drop (List.mem_reverse.mp
        ((List.dropWhile_sublist _).mem (List.mem_of_mem_head? hd)))
  | false =>
    obtain ⟨blanks, d, more, rfl, hblanks, hd⟩ := Text.exists_of_not_isBlank hblank
    have hne : blanks ≠ [] := by
      rintro rfl
      rw [afterTag, List.nil_append, List.takeWhile_cons_of_neg (by simp [hd])] at h
      cases h
    rw [afterTag_append hne hblanks hd] at h
    rw [← Option.some.inj h] at hc
    exact List.mem_append_right _ ((List.takeWhile_prefix _).subset hc)

/-- Where white space is all that follows, white space counts as the line, if anything. -/
theorem isBlank_of_afterTag {line : List Char} (hblank : isBlank cs = true)
    (h : afterTag cs = some line) : isBlank line = true :=
  isBlank_iff.mpr fun c hc => isBlank_iff.mp hblank c (mem_of_mem_afterTag h c hc)

end AfterTag

/-! ## Tags in lines -/

/-- What follows the first description tag of a line that white space or the end of the line
follows. -/
def tagInLine : List Char → Option (List Char)
  | [] => none
  | c :: cs =>
    let after := (c :: cs).drop descriptionTag.length
    if descriptionTag.isPrefixOf (c :: cs) && after.head?.all isSpace then some after
    else tagInLine cs

/-- What follows the first such tag on its line, and the lines after that. -/
def firstTag : List (List Char) → Option (List Char × List (List Char))
  | [] => none
  | line :: lines =>
    match tagInLine line with
    | some after => some (after, lines)
    | none => firstTag lines

/-- The tag that counts ends its line, and `later` are the lines after it. -/
def OpenTag (lines later : List (List Char)) : Prop :=
  ∃ after, firstTag lines = some (after, later) ∧ isBlank after = true

theorem descriptionTag_eq : descriptionTag = '@' :: "description".toList := by decide

theorem isPrefixOf_descriptionTag {c : Char} (hc : c ≠ '@') (cs : List Char) :
    descriptionTag.isPrefixOf (c :: cs) = false := by
  rw [descriptionTag_eq, List.isPrefixOf, beq_eq_false_iff_ne.mpr hc.symm]
  rfl

/-- Without an at sign there is no tag. -/
theorem taggedLine_append {cs : List Char} (h : '@' ∉ cs) (rest : List Char) :
    taggedLine (cs ++ rest) = taggedLine rest := by
  induction cs with
  | nil => rfl
  | cons c cs ih =>
    obtain ⟨hc, hcs⟩ := List.ne_and_not_mem_of_not_mem_cons h
    rw [List.cons_append, taggedLine, isPrefixOf_descriptionTag hc.symm]
    exact ih hcs

theorem taggedLine_of_not_mem {cs : List Char} (h : '@' ∉ cs) : taggedLine cs = none := by
  have hnil := taggedLine_append h []
  rwa [List.append_nil] at hnil

theorem not_mem_of_isBlank {c : Char} {cs : List Char} (hblank : isBlank cs = true)
    (hc : isSpace c = false) : c ∉ cs :=
  fun hmem => Bool.false_ne_true (hc.symm.trans (isBlank_iff.mp hblank c hmem))

/-- The first tag of a line decides, if it has one; else the text goes on. -/
theorem taggedLine_line {line : List Char} (hline : '\n' ∉ line) (rest : List Char) :
    taggedLine (line ++ '\n' :: rest) =
      match tagInLine line with
      | some after => afterTag (after ++ '\n' :: rest)
      | none => taggedLine rest := by
  induction line with
  | nil =>
    have hfeed : '@' ∉ ['\n'] := by decide
    exact taggedLine_append hfeed rest
  | cons c line ih =>
    obtain ⟨-, hline'⟩ := List.ne_and_not_mem_of_not_mem_cons hline
    have hprefix : descriptionTag.isPrefixOf (c :: (line ++ '\n' :: rest)) =
        descriptionTag.isPrefixOf (c :: line) :=
      Text.isPrefixOf_append_cons (by decide) (c :: line) rest
    rw [List.cons_append, taggedLine, tagInLine, hprefix]
    cases htag : descriptionTag.isPrefixOf (c :: line) with
    | false => exact ih hline'
    | true =>
      obtain ⟨after, hafter⟩ := List.isPrefixOf_iff_prefix.mp htag
      have hdrop : (c :: line).drop descriptionTag.length = after := by
        rw [← hafter, List.drop_left]
      have hdrop' : (c :: (line ++ '\n' :: rest)).drop descriptionTag.length =
          after ++ '\n' :: rest := by
        rw [← List.cons_append, ← hafter, List.append_assoc, List.drop_left]
      rw [hdrop, hdrop']
      cases hnext : after.head?.all isSpace with
      | true =>
        rw [if_pos rfl, if_pos (Bool.and_self true)]
        dsimp only
        cases hfound : afterTag (after ++ '\n' :: rest) with
        | some found => rfl
        | none =>
          -- Then nothing but white space follows, and no other tag.
          have hall : (after ++ '\n' :: rest).head?.all isSpace = true := by
            cases after with
            | nil => rfl
            | cons d after => exact hnext
          have hblank := isBlank_of_afterTag_eq_none hall hfound
          have htail : line = "description".toList ++ after := by
            rw [descriptionTag_eq] at hafter
            exact (List.cons.inj hafter).2.symm
          refine taggedLine_of_not_mem ?_
          rw [htail, List.append_assoc, List.mem_append, not_or]
          exact ⟨by decide, not_mem_of_isBlank hblank (by decide)⟩
      | false =>
        have hnone : afterTag (after ++ '\n' :: rest) = none := by
          cases after with
          | nil => cases hnext
          | cons d after =>
            have hd : isSpace d = false := hnext
            have hspaces : (d :: (after ++ '\n' :: rest)).takeWhile isSpace = [] :=
              List.takeWhile_cons_of_neg (by simp [hd])
            rw [List.cons_append, afterTag, hspaces]
            rfl
        rw [hnone]
        exact ih hline'

namespace Layout

theorem not_mem_mark (l : Layout) : '@' ∉ l.mark := by cases l <;> decide

theorem not_mem_closing (l : Layout) : '@' ∉ l.closing := by cases l <;> decide

theorem endsTextLine_mark (l : Layout) : ∀ c ∈ l.mark, Text.endsTextLine c = false := by
  have hall : l.mark.all (!Text.endsTextLine ·) = true := by cases l <;> decide
  intro c hc
  simpa using List.all_eq_true.mp hall c hc

/-- The tag that counts is the same in either layout; what follows it is set out in it. -/
theorem taggedLine_body (l : Layout) {lines : List (List Char)} (h : ∀ line ∈ lines, '\n' ∉ line) :
    taggedLine (l.body lines) =
      match firstTag lines with
      | some (after, later) => afterTag (after ++ '\n' :: l.below later)
      | none => none := by
  have hopening : '@' ∉ l.opening ++ ['\n'] := by cases l <;> decide
  have hbody : l.body lines = l.opening ++ ['\n'] ++ l.below lines := by
    rw [body, List.append_assoc]
    rfl
  rw [hbody, taggedLine_append hopening]
  clear hbody
  induction lines with
  | nil => exact taggedLine_of_not_mem l.not_mem_closing
  | cons line lines ih =>
    obtain ⟨hline, hlines⟩ := List.forall_mem_cons.mp h
    rw [l.below_cons, taggedLine_append l.not_mem_mark, taggedLine_line hline, firstTag]
    cases tagInLine line with
    | some after => rfl
    | none => exact ih hlines

end Layout

/-! ## Descriptions -/

/-- The description in the line of a tag. -/
def taggedDescription (line : List Char) : Option String :=
  let text := trimList (Text.dropEndWhile (· == '*') (trimList line))
  if text.isEmpty then none else some (String.ofList text)

/-- Whether a line can be a description without a tag. -/
def isDescription (line : List Char) : Bool := !line.isEmpty && line.head? != some '@'

theorem describe_eq (comment : String) :
    describe comment =
      match taggedLine (commentBody comment.toList) with
      | some line => taggedDescription line
      | none =>
        (((Text.lines (commentBody comment.toList)).map commentLine).find? isDescription).map
          String.ofList := by
  rw [describe]
  generalize taggedLine (commentBody comment.toList) = found
  cases found <;> rfl

section Lines

variable {line : List Char}

theorem dropEndWhile_stars (h : line.getLast? ≠ some '*') :
    Text.dropEndWhile (· == '*') line = line := by
  refine Text.dropEndWhile_eq_self.mpr fun c hc => beq_eq_false_iff_ne.mpr ?_
  rintro rfl
  exact h hc

theorem taggedDescription_of_isBlank (h : isBlank line = true) : taggedDescription line = none := by
  rw [taggedDescription, Text.trimList_eq_nil_iff_isBlank.mpr h]
  rfl

theorem mem_of_mem_trimList {c : Char} (h : c ∈ trimList line) : c ∈ line := by
  obtain ⟨front, back, hline, -, -⟩ := Text.exists_trimList line
  rw [hline]
  exact List.mem_append_right _ (List.mem_append_left _ h)

/-- A description is part of the line of its tag. -/
theorem mem_of_mem_taggedDescription {d : String} (h : taggedDescription line = some d) :
    ∀ c ∈ d.toList, c ∈ line := by
  intro c hc
  rw [taggedDescription] at h
  split at h
  · cases h
  · rw [← Option.some.inj h, String.toList_ofList] at hc
    exact mem_of_mem_trimList ((Text.dropEndWhile_prefix _ _).subset (mem_of_mem_trimList hc))

theorem trimList_ne_nil (h : isBlank line = false) : trimList line ≠ [] := by
  rw [Ne, Text.trimList_eq_nil_iff_isBlank, h]
  exact Bool.false_ne_true

/-- A line that ends in no star is its own description. -/
theorem taggedDescription_eq_some (h : isBlank line = false)
    (hlast : (trimList line).getLast? ≠ some '*') :
    taggedDescription line = some (String.ofList (trimList line)) := by
  rw [taggedDescription, dropEndWhile_stars hlast, Text.trimList_trimList]
  exact if_neg (by simpa using trimList_ne_nil h)

theorem trimList_getLast?_ne (h : '*' ∉ line) : (trimList line).getLast? ≠ some '*' :=
  fun hc => h (mem_of_mem_trimList (List.mem_of_getLast? hc))

theorem commentLine_of_not_mem (h : '*' ∉ line) : commentLine line = trimList line := by
  have hstars : (trimList line).dropWhile (· == '*') = trimList line := by
    cases hcs : trimList line with
    | nil => rfl
    | cons c cs =>
      refine List.dropWhile_cons_of_neg fun hc => h (mem_of_mem_trimList ?_)
      rw [hcs, ← beq_iff_eq.mp hc]
      exact List.mem_cons_self
  rw [commentLine, hstars, Text.trimList_trimList]

/-- A starred line that is not blank is trimmed to a star and its text. -/
theorem trimList_starred (h : isBlank line = false) : ∃ front, isBlank front = true ∧
    trimList (' ' :: '*' :: ' ' :: line) = '*' :: ' ' :: (front ++ trimList line) := by
  obtain ⟨front, back, hline, hfront, hback⟩ := Text.exists_trimList line
  have htrimmed : IsTrimmed ('*' :: ' ' :: (front ++ trimList line)) := by
    constructor
    · rintro c ⟨⟩
      decide
    · intro c hc
      have hlast : ('*' :: ' ' :: (front ++ trimList line)).getLast? = (trimList line).getLast? :=
        List.getLast?_append_of_ne_nil ('*' :: ' ' :: front) (trimList_ne_nil h)
      exact (Text.isTrimmed_trimList line).last c (hlast ▸ hc)
  refine ⟨front, hfront, ?_⟩
  have hsplit : ' ' :: '*' :: ' ' :: line =
      [' '] ++ ('*' :: ' ' :: (front ++ trimList line) ++ back) := by
    conv_lhs => rw [hline]
    simp
  rw [hsplit, Text.trimList_append (by decide) htrimmed hback]

theorem trimList_starred_of_isBlank (h : isBlank line = true) :
    trimList (' ' :: '*' :: ' ' :: line) = ['*'] := by
  have htrimmed : IsTrimmed ['*'] := by
    constructor
    · rintro c ⟨⟩
      decide
    · rintro c ⟨⟩
      decide
  have hback : isBlank ([' '] ++ line) = true := Text.isBlank_append.mpr ⟨by decide, h⟩
  have hfront : isBlank [' '] = true := by decide
  exact Text.trimList_append hfront htrimmed hback

/-- Stars before a line are left out. -/
theorem commentLine_mark (l : Layout) (h : '*' ∉ line) :
    commentLine (l.mark ++ line) = trimList line := by
  cases l with
  | plain => exact commentLine_of_not_mem h
  | starred =>
    change commentLine (' ' :: '*' :: ' ' :: line) = trimList line
    cases hblank : isBlank line with
    | true =>
      rw [commentLine, trimList_starred_of_isBlank hblank,
        Text.trimList_eq_nil_iff_isBlank.mpr hblank]
      rfl
    | false =>
      obtain ⟨front, hfront, htrim⟩ := trimList_starred hblank
      have hspace : isBlank ([' '] ++ front) = true :=
        Text.isBlank_append.mpr ⟨by decide, hfront⟩
      have hrest : trimList (' ' :: (front ++ trimList line)) = trimList line := by
        have happend : trimList ([' '] ++ front ++ (trimList line ++ [])) = trimList line :=
          Text.trimList_append hspace (Text.isTrimmed_trimList line) rfl
        rwa [List.append_nil] at happend
      rw [commentLine, htrim]
      exact hrest

end Lines

/-! ## Either layout -/

section Layouts

variable {lines : List (List Char)}

/-- The description that lines give without a tag. -/
def untagged (lines : List (List Char)) : Option String :=
  (((lines.flatMap fun line => Text.lines (line ++ ['\n'])).map trimList).find?
    isDescription).map String.ofList

/-- The first line that can be a description is the same in either layout. -/
theorem find?_lines_body (l : Layout) (h : ∀ line ∈ lines, '*' ∉ line ∧ '\n' ∉ line) :
    (((Text.lines (l.body lines)).map commentLine).find? isDescription).map String.ofList =
      untagged lines := by
  have hopening : Text.lines (l.body lines) = l.opening :: Text.lines (l.below lines) := by
    cases l with
    | plain => exact Text.linesFrom_feed [] _
    | starred => exact Text.linesFrom_feed ['*'] _
  have hskip : isDescription (commentLine l.opening) = false := by cases l <;> decide
  rw [hopening, List.map_cons, List.find?_cons_of_neg (by simp [hskip]), untagged]
  congr 1
  clear hopening
  induction lines with
  | nil => cases l <;> decide
  | cons line lines ih =>
    obtain ⟨⟨hstar, hfeed⟩, hlines⟩ := List.forall_mem_cons.mp h
    obtain ⟨first, more, hmem, hdivide⟩ := Text.exists_linesFrom hfeed
    have hbelow : Text.lines (l.below (line :: lines)) =
        (l.mark ++ first) :: (more ++ Text.lines (l.below lines)) := by
      rw [l.below_cons, Text.lines, Text.linesFrom_append l.endsTextLine_mark, List.append_nil,
        hdivide, List.reverse_reverse]
    have hline : Text.lines (line ++ ['\n']) = first :: more := by
      rw [Text.lines, hdivide]
      exact congrArg (first :: ·) (List.append_nil more)
    have htrim : (more.map commentLine) = more.map trimList :=
      List.map_congr_left fun part hpart => commentLine_of_not_mem fun hc =>
        hstar (hmem part (List.mem_cons_of_mem _ hpart) '*' hc)
    have hfirst : commentLine (l.mark ++ first) = trimList first :=
      commentLine_mark l fun hc => hstar (hmem first List.mem_cons_self '*' hc)
    rw [hbelow, List.flatMap_cons, hline, List.map_append, List.find?_append, ← ih hlines,
      List.map_cons, List.map_append, hfirst, htrim, ← List.cons_append, List.find?_append,
      List.map_cons]

/-- The description of a comment by its first tag. -/
theorem describe_comment (l : Layout) (h : ∀ line ∈ lines, '*' ∉ line ∧ '\n' ∉ line) :
    describe (l.comment lines) =
      match firstTag lines with
      | some (after, later) =>
        match afterTag (after ++ '\n' :: l.below later) with
        | some line => taggedDescription line
        | none => untagged lines
      | none => untagged lines := by
  rw [describe_eq, l.commentBody_comment, l.taggedLine_body fun line hline => (h line hline).2,
    find?_lines_body l h]
  cases firstTag lines <;> rfl

theorem tagInLine_suffix {line after : List Char} (h : tagInLine line = some after) :
    after <:+ line ∧ after.head?.all isSpace = true := by
  induction line with
  | nil => cases h
  | cons c line ih =>
    rw [tagInLine] at h
    split at h
    · rename_i hhere
      obtain rfl := Option.some.inj h
      exact ⟨List.drop_suffix _ _, ((Bool.and_eq_true _ _).mp hhere).2⟩
    · obtain ⟨hsuffix, hnext⟩ := ih h
      exact ⟨hsuffix.trans (List.suffix_cons c line), hnext⟩

theorem exists_of_firstTag {after : List Char} {later : List (List Char)}
    (h : firstTag lines = some (after, later)) :
    (∃ line ∈ lines, after <:+ line) ∧ after.head?.all isSpace = true ∧ later <:+ lines := by
  induction lines with
  | nil => cases h
  | cons line lines ih =>
    rw [firstTag] at h
    split at h
    · rename_i found hfound
      obtain ⟨rfl, rfl⟩ := Prod.mk.inj (Option.some.inj h)
      obtain ⟨hsuffix, hnext⟩ := tagInLine_suffix hfound
      exact ⟨⟨line, List.mem_cons_self, hsuffix⟩, hnext, List.suffix_cons ..⟩
    · obtain ⟨⟨line', hmem, hsuffix⟩, hnext, hlater⟩ := ih h
      exact ⟨⟨line', List.mem_cons_of_mem _ hmem, hsuffix⟩, hnext,
        hlater.trans (List.suffix_cons ..)⟩

section Tag

variable {after : List Char} {later : List (List Char)}

/-- Text on the line of the tag is the description in either layout. -/
theorem describe_of_text (h : ∀ line ∈ lines, '*' ∉ line ∧ '\n' ∉ line)
    (htag : firstTag lines = some (after, later)) (hafter : isBlank after = false) (l : Layout) :
    describe (l.comment lines) = taggedDescription (after.dropWhile isSpace) := by
  obtain ⟨⟨line, hline, hsuffix⟩, hnext, -⟩ := exists_of_firstTag htag
  have hfeed : '\n' ∉ after := fun hc => (h line hline).2 (hsuffix.subset hc)
  obtain ⟨blanks, d, more, rfl, hblanks, hd⟩ := Text.exists_of_not_isBlank hafter
  have hne : blanks ≠ [] := by
    rintro rfl
    exact Bool.false_ne_true (hd.symm.trans hnext)
  have hfound : afterTag (blanks ++ d :: more ++ '\n' :: l.below later) = some (d :: more) := by
    rw [List.append_assoc, List.cons_append]
    exact afterTag_line hne hblanks hd fun hc => hfeed (List.mem_append_right _ hc)
  have hdrop : (blanks ++ d :: more).dropWhile isSpace = d :: more := by
    rw [List.dropWhile_append_of_pos (isBlank_iff.mp hblanks),
      List.dropWhile_cons_of_neg (by simp [hd])]
  rw [describe_comment l h, htag, hdrop]
  simp only [hfound]

/-- After a tag that ends its line, the line after it counts with its star. -/
theorem describe_starred_cons {line : List Char} (h : ∀ line ∈ lines, '*' ∉ line ∧ '\n' ∉ line)
    (hopen : OpenTag lines (line :: later)) :
    describe (Layout.starred.comment lines) = taggedDescription ('*' :: ' ' :: line) := by
  obtain ⟨after, htag, hafter⟩ := hopen
  have hline : '\n' ∉ line :=
    (h line ((exists_of_firstTag htag).2.2.subset List.mem_cons_self)).2
  have hbelow : after ++ '\n' :: Layout.starred.below (line :: later) =
      after ++ ['\n', ' '] ++ '*' :: ' ' :: (line ++ '\n' :: Layout.starred.below later) := by
    rw [Layout.below_cons, List.append_assoc]
    rfl
  have hfound : afterTag (after ++ '\n' :: Layout.starred.below (line :: later)) =
      some ('*' :: ' ' :: line) := by
    have hblanks : isBlank (after ++ ['\n', ' ']) = true :=
      Text.isBlank_append.mpr ⟨hafter, by decide⟩
    have hfeed : '\n' ∉ '*' :: ' ' :: line := by simpa using hline
    rw [hbelow]
    exact afterTag_line (by simp) hblanks (by decide) hfeed
  rw [describe_comment .starred h, htag]
  simp only [hfound]

/-- After a tag that ends the last line nothing counts but white space. -/
theorem describe_starred_nil (h : ∀ line ∈ lines, '*' ∉ line ∧ '\n' ∉ line)
    (hopen : OpenTag lines []) : describe (Layout.starred.comment lines) = none := by
  obtain ⟨after, htag, hafter⟩ := hopen
  have hbelow : Layout.starred.below [] = [' '] := rfl
  have hblank : isBlank (after ++ ['\n', ' ']) = true :=
    Text.isBlank_append.mpr ⟨hafter, by decide⟩
  have hsome : (afterTag (after ++ ['\n', ' '])).isSome = true := by
    cases after with
    | nil => decide
    | cons c after =>
      have hsplit : c :: after ++ ['\n', ' '] = c :: (after ++ ['\n'] ++ [' ']) := by simp
      rw [hsplit] at hblank ⊢
      exact isSome_afterTag hblank (by decide)
  obtain ⟨line, hline⟩ := Option.isSome_iff_exists.mp hsome
  rw [describe_comment .starred h, htag]
  simp only [hbelow, hline]
  exact taggedDescription_of_isBlank (isBlank_of_afterTag hblank hline)

/-- What follows the tag in a comment without stars has none. -/
theorem star_not_mem_plain (h : ∀ line ∈ lines, '*' ∉ line ∧ '\n' ∉ line)
    (htag : firstTag lines = some (after, later)) :
    '*' ∉ after ++ '\n' :: Layout.plain.below later := by
  obtain ⟨⟨line, hline, hsuffix⟩, -, hlater⟩ := exists_of_firstTag htag
  rw [Layout.below_plain, List.mem_append, List.mem_cons, Text.mem_fed]
  rintro (hmem | heq | ⟨row, hrow, hmem | heq⟩)
  · exact (h line hline).1 (hsuffix.subset hmem)
  · exact absurd heq (by decide)
  · exact (h row (hlater.subset hrow)).1 hmem
  · exact absurd heq (by decide)

/-- Without stars, the first line that is not blank gives the description of a tag that ends
its line. -/
theorem isSome_describe_plain (h : ∀ line ∈ lines, '*' ∉ line ∧ '\n' ∉ line)
    (hopen : OpenTag lines later) (hlater : ∃ line ∈ later, isBlank line = false) :
    (describe (Layout.plain.comment lines)).isSome = true := by
  obtain ⟨after, htag, -⟩ := hopen
  obtain ⟨-, hnext, -⟩ := exists_of_firstTag htag
  have hstar := star_not_mem_plain h htag
  have hsome : isBlank (after ++ '\n' :: Layout.plain.below later) = false := by
    obtain ⟨line, hline, hblank⟩ := hlater
    obtain ⟨c, hc, hspace⟩ := List.all_eq_false.mp hblank
    refine List.all_eq_false.mpr ⟨c, ?_, hspace⟩
    rw [Layout.below_plain]
    exact List.mem_append_right _ (List.mem_cons_of_mem _ (Text.mem_fed.mpr ⟨line, hline, .inl hc⟩))
  obtain ⟨blanks, d, more, hsplit, hblanks, hd⟩ := Text.exists_of_not_isBlank hsome
  have hne : blanks ≠ [] := by
    rintro rfl
    cases after with
    | nil => exact absurd ((List.cons.inj hsplit).1 ▸ hd) (by decide)
    | cons c after =>
      obtain rfl := (List.cons.inj hsplit).1
      exact Bool.false_ne_true (hd.symm.trans hnext)
  have hfound : afterTag (after ++ '\n' :: Layout.plain.below later) =
      some ((d :: more).takeWhile (· != '\n')) := by
    rw [hsplit, afterTag_append hne hblanks hd]
  have hnot : isBlank ((d :: more).takeWhile (· != '\n')) = false := by
    have hfeed : d ≠ '\n' := by
      rintro rfl
      exact absurd hd (by decide)
    rw [List.takeWhile_cons, bne_iff_ne.mpr hfeed, if_pos rfl, isBlank, List.all_cons, hd]
    rfl
  have hdescribed := taggedDescription_eq_some hnot
    (trimList_getLast?_ne fun hc => hstar (mem_of_mem_afterTag hfound '*' hc))
  rw [describe_comment .plain h, htag]
  simp only [hfound, hdescribed, Option.isSome_some]

end Tag

/-- A comment without stars gives no description with a star. -/
theorem star_not_mem_describe_plain (h : ∀ line ∈ lines, '*' ∉ line ∧ '\n' ∉ line) {d : String}
    (hd : describe (Layout.plain.comment lines) = some d) : '*' ∉ d.toList := by
  have huntagged : untagged lines = some d → '*' ∉ d.toList := by
    intro hfound hc
    obtain ⟨line, hline, rfl⟩ := Option.map_eq_some_iff.mp hfound
    obtain ⟨part, hpart, rfl⟩ := List.mem_map.mp (List.mem_of_find?_eq_some hline)
    obtain ⟨row, hrow, hpart⟩ := List.mem_flatMap.mp hpart
    rw [String.toList_ofList] at hc
    have hmem := Text.mem_of_mem_lines hpart '*' (mem_of_mem_trimList hc)
    rcases List.mem_append.mp hmem with hc | hc
    · exact (h row hrow).1 hc
    · exact absurd (List.mem_singleton.mp hc) (by decide)
  rw [describe_comment .plain h] at hd
  split at hd
  · rename_i after later htag
    split at hd
    · rename_i line hline
      exact fun hc => star_not_mem_plain h htag
        (mem_of_mem_afterTag hline '*' (mem_of_mem_taggedDescription hd '*' hc))
    · exact huntagged hd
  · exact huntagged hd

/-- A line that is not blank, after its star, is described with the star. -/
theorem taggedDescription_star {line : List Char} (hstar : '*' ∉ line)
    (hblank : isBlank line = false) :
    ∃ d, taggedDescription ('*' :: ' ' :: line) = some d ∧ d.toList.head? = some '*' := by
  obtain ⟨front, -, htrim⟩ := trimList_starred hblank
  have htrim' : trimList ('*' :: ' ' :: line) = '*' :: ' ' :: (front ++ trimList line) := htrim
  have hlast : (trimList ('*' :: ' ' :: line)).getLast? ≠ some '*' := by
    rw [htrim', ← List.cons_append, ← List.cons_append,
      List.getLast?_append_of_ne_nil _ (trimList_ne_nil hblank)]
    exact trimList_getLast?_ne hstar
  refine ⟨_, taggedDescription_eq_some rfl hlast, ?_⟩
  rw [htrim', String.toList_ofList]
  rfl

theorem taggedDescription_star_of_isBlank {line : List Char} (hblank : isBlank line = true) :
    taggedDescription ('*' :: ' ' :: line) = none := by
  have htrim : trimList ('*' :: ' ' :: line) = ['*'] := trimList_starred_of_isBlank hblank
  rw [taggedDescription, htrim]
  rfl

/-- Without such a tag the layout makes no difference. -/
theorem describe_of_not_open (h : ∀ line ∈ lines, '*' ∉ line ∧ '\n' ∉ line)
    (hopen : ¬ ∃ later, OpenTag lines later) :
    describe (Layout.starred.comment lines) = describe (Layout.plain.comment lines) := by
  cases htag : firstTag lines with
  | none => rw [describe_comment .starred h, describe_comment .plain h, htag]
  | some tag =>
    have hafter : isBlank tag.1 = false :=
      Bool.eq_false_iff.mpr fun hblank => hopen ⟨tag.2, tag.1, htag, hblank⟩
    rw [describe_of_text h htag hafter .starred, describe_of_text h htag hafter .plain]

/-- After a tag that ends its line, a line that is blank but for its star gives nothing. -/
theorem describe_starred_of_blank {later : List (List Char)}
    (h : ∀ line ∈ lines, '*' ∉ line ∧ '\n' ∉ line) (hopen : OpenTag lines later)
    (hblank : ∀ line ∈ later.head?, isBlank line = true) :
    describe (Layout.starred.comment lines) = none := by
  cases later with
  | nil => exact describe_starred_nil h hopen
  | cons line later =>
    rw [describe_starred_cons h hopen]
    exact taggedDescription_star_of_isBlank (hblank line rfl)

/-- After a tag that ends its line, any other line is described with its star. -/
theorem describe_starred_of_text {line : List Char} {later : List (List Char)}
    (h : ∀ line ∈ lines, '*' ∉ line ∧ '\n' ∉ line) (hopen : OpenTag lines (line :: later))
    (hblank : isBlank line = false) :
    ∃ d, describe (Layout.starred.comment lines) = some d ∧ d.toList.head? = some '*' := by
  have hstar : '*' ∉ line := by
    obtain ⟨after, htag, -⟩ := hopen
    exact (h line ((exists_of_firstTag htag).2.2.subset List.mem_cons_self)).1
  rw [describe_starred_cons h hopen]
  exact taggedDescription_star hstar hblank

theorem isBlank_of_mem_head? {later : List (List Char)} (hopen : OpenTag lines later)
    (hno : ¬ ∃ line later, OpenTag lines (line :: later) ∧ isBlank line = false) :
    ∀ line ∈ later.head?, isBlank line = true := by
  cases later with
  | nil => nofun
  | cons line later =>
    rintro _ ⟨⟩
    exact Bool.of_not_eq_false fun hblank => hno ⟨line, later, hopen, hblank⟩

/-- The line after the tag decides whether a star begins the description. -/
theorem describe_starred_star_iff (h : ∀ line ∈ lines, '*' ∉ line ∧ '\n' ∉ line) :
    (∃ d, describe (Layout.starred.comment lines) = some d ∧ d.toList.head? = some '*') ↔
      ∃ line later, OpenTag lines (line :: later) ∧ isBlank line = false := by
  constructor
  · rintro ⟨d, hd, hhead⟩
    by_contra hno
    by_cases hopen : ∃ later, OpenTag lines later
    · obtain ⟨later, hopen⟩ := hopen
      rw [describe_starred_of_blank h hopen (isBlank_of_mem_head? hopen hno)] at hd
      cases hd
    · rw [describe_of_not_open h hopen] at hd
      exact star_not_mem_describe_plain h hd (List.mem_of_mem_head? hhead)
  · rintro ⟨line, later, hopen, hblank⟩
    exact describe_starred_of_text h hopen hblank

/-- The rest of the lines decides whether the layout makes a difference. -/
theorem describe_same_iff (h : ∀ line ∈ lines, '*' ∉ line ∧ '\n' ∉ line) :
    describe (Layout.starred.comment lines) = describe (Layout.plain.comment lines) ↔
      ∀ later, OpenTag lines later → (∀ line ∈ later, isBlank line = true) ∧
        describe (Layout.plain.comment lines) = none := by
  constructor
  · intro heq later hopen
    have hno : ¬ ∃ line later, OpenTag lines (line :: later) ∧ isBlank line = false := by
      rw [← describe_starred_star_iff h]
      rintro ⟨d, hd, hhead⟩
      exact star_not_mem_describe_plain h (heq ▸ hd) (List.mem_of_mem_head? hhead)
    have hnone : describe (Layout.plain.comment lines) = none := by
      rw [← heq]
      exact describe_starred_of_blank h hopen (isBlank_of_mem_head? hopen hno)
    refine ⟨fun line hline => Bool.of_not_eq_false fun hblank => ?_, hnone⟩
    have hsome := isSome_describe_plain h hopen ⟨line, hline, hblank⟩
    rw [hnone] at hsome
    cases hsome
  · intro hall
    by_cases hopen : ∃ later, OpenTag lines later
    · obtain ⟨later, hopen⟩ := hopen
      obtain ⟨hblank, hnone⟩ := hall later hopen
      rw [hnone]
      exact describe_starred_of_blank h hopen fun line hline =>
        hblank line (List.mem_of_mem_head? hline)
    · exact describe_of_not_open h hopen

/-- Lines without stars give the same description with stars set before them and without,
unless the tag that counts ends its line. Then they do only if the rest is blank and there is
no description without stars either. With stars, the description begins with one exactly if
the line after such a tag is not blank; without, it never has one. -/
theorem describe_layouts {lines : List (List Char)}
    (h : ∀ line ∈ lines, '*' ∉ line ∧ '\n' ∉ line) :
    (describe (Layout.starred.comment lines) = describe (Layout.plain.comment lines) ↔
        ∀ later, OpenTag lines later → (∀ line ∈ later, isBlank line = true) ∧
          describe (Layout.plain.comment lines) = none) ∧
      ((∃ d, describe (Layout.starred.comment lines) = some d ∧ d.toList.head? = some '*') ↔
        ∃ line later, OpenTag lines (line :: later) ∧ isBlank line = false) ∧
      ∀ d, describe (Layout.plain.comment lines) = some d → '*' ∉ d.toList :=
  ⟨describe_same_iff h, describe_starred_star_iff h, fun _ => star_not_mem_describe_plain h⟩

end Layouts

/-- Lines of which one holds a tag with text. -/
def taggedLines : List (List Char) :=
  ["Lists every user.".toList, [], "@description  Fetch all users".toList, "@returns users".toList]

theorem describe_layouts_tagged :
    (∀ line ∈ taggedLines, '*' ∉ line ∧ '\n' ∉ line) ∧
      Layout.starred.comment taggedLines =
        "/**\n * Lists every user.\n * \n * @description  Fetch all users\n * @returns users\n */" ∧
      describe (Layout.starred.comment taggedLines) = describe (Layout.plain.comment taggedLines) ∧
      describe (Layout.plain.comment taggedLines) = some "Fetch all users" := by
  have hlines : ∀ line ∈ taggedLines, '*' ∉ line ∧ '\n' ∉ line := by decide
  have htag : firstTag taggedLines =
      some ("  Fetch all users".toList, ["@returns users".toList]) := by decide
  have hclosed : ∀ later, OpenTag taggedLines later →
      (∀ line ∈ later, isBlank line = true) ∧
        describe (Layout.plain.comment taggedLines) = none := by
    rintro later ⟨after, hafter, hblank⟩
    obtain ⟨rfl, -⟩ := Prod.mk.inj (Option.some.inj (htag.symm.trans hafter))
    exact absurd hblank (by decide)
  refine ⟨hlines, by decide +kernel, (describe_layouts hlines).1.mpr hclosed, by decide +kernel⟩

/-- Lines of which the first is a tag, with its text on the second. -/
def openLines : List (List Char) := ["@description".toList, "Lists users".toList]

/-- The star before the text becomes part of the description. -/
theorem described_star :
    (∀ line ∈ openLines, '*' ∉ line ∧ '/' ∉ line ∧ '\n' ∉ line) ∧
      Layout.starred.comment openLines = "/**\n * @description\n * Lists users\n */" ∧
      describe (Layout.starred.comment openLines) = some "* Lists users" ∧
      describe (Layout.plain.comment openLines) = some "Lists users" := by
  decide +kernel

end RouteDoc
