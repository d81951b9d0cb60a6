import NetworkManager.Ifcfg.EscapeRoundTrip
import NetworkManager.Ifcfg.File

/-!
# A file that was written can be read back

Whatever text a file was opened from and however its variables were changed, the text that is
written gives the same variables when it is opened, and it is written again as it is.  The argument
goes line by line: each line is printed as lines that are read as themselves.  What is left is which
one of several assignments of a variable counts, and here it matters that no assignment survives in
front of one that was deleted.
-/

namespace NetworkManager.Shvar

open Bytes List Option

/-- A text without zeros and newlines. -/
def CleanText (text : List UInt8) : Prop := 0 ∉ text ∧ newline ∉ text

theorem CleanText.append {a b : List UInt8} (first : CleanText a) (second : CleanText b) :
    CleanText (a ++ b) := by
  constructor
  · rw [mem_append]
    exact fun mem => mem.elim first.1 second.1
  · rw [mem_append]
    exact fun mem => mem.elim first.2 second.2

theorem CleanText.of_subset {a b : List UInt8} (clean : CleanText b) (subset : a ⊆ b) :
    CleanText a :=
  ⟨fun mem => clean.1 (subset mem), fun mem => clean.2 (subset mem)⟩

theorem CleanText.cons {b : UInt8} {text : List UInt8} (not_nul : b ≠ 0) (not_newline : b ≠ newline)
    (clean : CleanText text) : CleanText (b :: text) := by
  constructor
  · rw [mem_cons, not_or]
    exact ⟨not_nul.symm, clean.1⟩
  · rw [mem_cons, not_or]
    exact ⟨not_newline.symm, clean.2⟩

theorem textLines_append {line : List UInt8} (one_line : newline ∉ line)
    (current text : List UInt8) :
    textLines current (line ++ newline :: text) = (current ++ line) :: textLines [] text := by
  induction line generalizing current with
  | nil => rw [nil_append, textLines, if_pos rfl, append_nil]
  | cons b line ih =>
    obtain ⟨b_ne, line_one⟩ := not_or.mp (mem_cons.not.mp one_line)
    rw [cons_append, textLines, if_neg (Ne.symm b_ne), ih line_one, append_assoc, singleton_append]

theorem textLines_terminated {lines : List (List UInt8)}
    (one_line : ∀ line ∈ lines, newline ∉ line) :
    textLines [] (lines.flatMap fun line => line ++ [newline]) = lines := by
  induction lines with
  | nil => rfl
  | cons line lines ih =>
    rw [flatMap_cons, append_assoc, singleton_append,
      textLines_append (one_line line mem_cons_self), nil_append,
      ih fun other mem => one_line other (mem_cons_of_mem line mem)]

theorem clean_of_mem_textLines {text current line : List UInt8} (clean : CleanText current)
    (no_nul : 0 ∉ text) (mem : line ∈ textLines current text) : CleanText line := by
  induction text generalizing current with
  | nil =>
    unfold textLines at mem
    split at mem
    · cases mem
    · rwa [mem_singleton.mp mem]
  | cons b text ih =>
    obtain ⟨b_ne, text_no_nul⟩ := not_or.mp (mem_cons.not.mp no_nul)
    unfold textLines at mem
    split at mem
    · rcases mem_cons.mp mem with rfl | mem
      · exact clean
      · exact ih ⟨not_mem_nil, not_mem_nil⟩ text_no_nul mem
    · rename_i not_newline
      refine ih (clean.append ?_) text_no_nul mem
      exact CleanText.cons (Ne.symm b_ne) not_newline ⟨not_mem_nil, not_mem_nil⟩

theorem takeAssignment_eq_some {text key line : List UInt8} :
    takeAssignment text = some (key, line) ↔
      text = key ++ equals :: line ∧ key.all isNameByte = true := by
  induction text generalizing key with
  | nil =>
    refine iff_of_false nofun ?_
    rintro ⟨absurd_eq, -⟩
    exact absurd absurd_eq.symm (append_ne_nil_of_right_ne_nil _ (cons_ne_nil _ _))
  | cons b text ih =>
    unfold takeAssignment
    cases key with
    | nil =>
      by_cases is_equals : b = equals
      · rw [if_pos is_equals, is_equals]
        simp
      · rw [if_neg is_equals]
        refine iff_of_false ?_ fun both => is_equals (List.cons.inj both.1).1
        intro found
        split at found
        · obtain ⟨inner, -, absurd_eq⟩ := map_eq_some_iff.mp found
          cases absurd_eq
        · cases found
    | cons c key =>
      by_cases is_equals : b = equals
      · rw [if_pos is_equals]
        refine iff_of_false nofun ?_
        rintro ⟨equal, names⟩
        obtain ⟨rfl, -⟩ := List.cons.inj equal
        rw [is_equals, all_cons] at names
        exact absurd names (by simp [show isNameByte equals = false by decide])
      · rw [if_neg is_equals]
        split
        · rename_i name_byte
          constructor
          · intro found
            obtain ⟨⟨rest, line⟩, inner, equal⟩ := map_eq_some_iff.mp found
            obtain ⟨key_eq, rfl⟩ := Prod.mk.inj equal
            obtain ⟨rfl, rfl⟩ := List.cons.inj key_eq
            obtain ⟨rfl, names⟩ := ih.mp inner
            exact ⟨rfl, by rw [all_cons, name_byte, names]; rfl⟩
          · rintro ⟨equal, names⟩
            obtain ⟨rfl, text_eq⟩ := List.cons.inj equal
            rw [all_cons, Bool.and_eq_true] at names
            rw [ih.mpr ⟨text_eq, names.2⟩]
            rfl
        · rename_i not_name
          refine iff_of_false nofun ?_
          rintro ⟨equal, names⟩
          obtain ⟨rfl, -⟩ := List.cons.inj equal
          rw [all_cons, Bool.and_eq_true] at names
          exact not_name names.1

theorem not_isSpace_of_isNameStart {b : UInt8} (start : isNameStart b = true) :
    isSpace b = false := by
  rw [Bool.eq_false_iff]
  intro is_space
  unfold isSpace at is_space
  simp only [decide_eq_true_eq, mem_cons, not_mem_nil, or_false] at is_space
  rcases is_space with rfl | rfl | rfl | rfl | rfl
  all_goals exact absurd start (by decide)

theorem lineNewParse_assignment {indent key : List UInt8} (spaces : ∀ b ∈ indent, isSpace b = true)
    (name : shellIsName key = true) (line : List UInt8) :
    lineNewParse (indent ++ key ++ equals :: line) = .assignment indent key (some line) := by
  cases key with
  | nil => cases name
  | cons b key =>
    unfold shellIsName at name
    rw [Bool.and_eq_true] at name
    obtain ⟨start, rest⟩ := name
    have stops := not_isSpace_of_isNameStart start
    have text_eq : indent ++ b :: key ++ equals :: line =
        indent ++ b :: (key ++ equals :: line) := by
      rw [append_assoc, cons_append]
    unfold lineNewParse
    rw [text_eq, dropWhile_append_of_pos spaces, takeWhile_append_of_pos spaces,
      dropWhile_cons_of_neg (by rw [stops]; decide), takeWhile_cons_of_neg (by rw [stops]; decide)]
    dsimp only
    rw [if_pos start, takeAssignment_eq_some.mpr ⟨rfl, rest⟩, append_nil]

theorem lineNewParse_comment (text : List UInt8) :
    lineNewParse (hash :: text) = .other (hash :: text) := by
  unfold lineNewParse
  rw [dropWhile_cons_of_neg (by decide)]
  dsimp only
  rw [if_neg (by decide)]

theorem lineNewParse_cases (value : List UInt8) :
    lineNewParse value = .other value ∨ ∃ indent key line,
      lineNewParse value = .assignment indent key (some line) ∧
      value = indent ++ key ++ equals :: line ∧ (∀ b ∈ indent, isSpace b = true) ∧
      shellIsName key = true := by
  unfold lineNewParse
  cases rest : value.dropWhile isSpace with
  | nil => exact .inl rfl
  | cons b text =>
    dsimp only
    by_cases start : isNameStart b = true
    · rw [if_pos start]
      cases found : takeAssignment text with
      | none => exact .inl rfl
      | some assignment =>
        obtain ⟨key, line⟩ := assignment
        obtain ⟨rfl, names⟩ := takeAssignment_eq_some.mp found
        refine .inr ⟨_, _, _, rfl, ?_, ?_, ?_⟩
        · calc
            value = value.takeWhile isSpace ++ value.dropWhile isSpace :=
              (takeWhile_append_dropWhile).symm
            _ = value.takeWhile isSpace ++ b :: key ++ equals :: line := by
              rw [rest, append_assoc, cons_append]
        · intro c mem
          exact mem_takeWhile_imp mem
        · show (isNameStart b && key.all isNameByte) = true
          rw [start, names]
          rfl
    · rw [if_neg start]
      exact .inl rfl

theorem clean_of_shellIsName {key : List UInt8} (name : shellIsName key = true) :
    CleanText key := by
  have name_bytes : ∀ b ∈ key, isNameByte b = true := by
    cases key with
    | nil => nofun
    | cons b key =>
      unfold shellIsName at name
      rw [Bool.and_eq_true, List.all_eq_true] at name
      refine forall_mem_cons.mpr ⟨?_, name.2⟩
      have start := name.1
      unfold isNameStart at start
      unfold isNameByte
      rw [Bool.or_eq_true] at start ⊢
      rw [Bool.or_eq_true]
      exact start.imp_left .inl
  constructor
  · intro mem
    exact absurd (name_bytes 0 mem) (by decide)
  · intro mem
    exact absurd (name_bytes newline mem) (by decide)

theorem clean_nmMark : CleanText nmMark := by
  constructor
  · decide
  · decide

/-- What `ASSERT_shvarLine` asserts of a line, and that it is a single line of a C string. -/
def ShvarLine.Valid : ShvarLine → Prop
  | .other line => CleanText line ∧ lineNewParse line = .other line
  | .assignment indent key line =>
    CleanText indent ∧ (∀ b ∈ indent, isSpace b = true) ∧ shellIsName key = true ∧
      ∀ value, line = some value → CleanText value

theorem lineNewParse_valid {value : List UInt8} (clean : CleanText value) :
    (lineNewParse value).Valid := by
  rcases lineNewParse_cases value with other | ⟨indent, key, line, assigned, rfl, spaces, name⟩
  · rw [other]
    exact ⟨clean, other⟩
  · rw [assigned]
    refine ⟨clean.of_subset fun b mem => ?_, spaces, name, ?_⟩
    · exact mem_append_left _ (mem_append_left _ mem)
    · rintro _ ⟨⟩
      exact clean.of_subset fun b mem => mem_append_right _ (mem_cons_of_mem _ mem)

namespace ShvarLine

variable {line : ShvarLine}

theorem Valid.clear (valid : line.Valid) : line.clear.Valid := by
  cases line with
  | other line => exact valid
  | assignment indent key line =>
    obtain ⟨clean, spaces, name, -⟩ := valid
    exact ⟨clean, spaces, name, nofun⟩

theorem clean_svEscape (sign : CharSign) (value : CString) : CleanText (svEscape sign value.1) :=
  ⟨nul_not_mem_svEscape sign value, newline_not_mem_svEscape sign value.1⟩

theorem valid_lineNewBuild (sign : CharSign) (key : Name) (value : CString) :
    (lineNewBuild sign key.1 value.1).Valid := by
  refine ⟨⟨not_mem_nil, not_mem_nil⟩, nofun, key.2, ?_⟩
  rintro _ ⟨⟩
  exact clean_svEscape sign value

theorem Valid.lineSet (valid : line.Valid) (sign : CharSign) (value : CString) :
    (lineSet sign value.1 line).1.Valid := by
  cases line with
  | other line => exact valid
  | assignment indent key line =>
    obtain ⟨-, -, name, -⟩ := valid
    exact valid_lineNewBuild sign ⟨key, name⟩ value

theorem print_comment (text : List UInt8) :
    (ShvarLine.other (hash :: text)).print = [hash :: text] := by
  have comment : (hash :: text).dropWhile isSpace = hash :: text :=
    dropWhile_cons_of_neg (by decide)
  rw [ShvarLine.print, comment]
  exact if_pos rfl

theorem print_other (line : List UInt8) :
    (ShvarLine.other line).print = [line] ∨ (ShvarLine.other line).print = [nmMark ++ line] := by
  rw [ShvarLine.print]
  split
  · exact .inl rfl
  · split
    · exact .inl rfl
    · exact .inr rfl

theorem print_assignment {line : List UInt8} (understood : (svUnescape line).isSome = true)
    (indent key : List UInt8) :
    (ShvarLine.assignment indent key (some line)).print = [indent ++ key ++ equals :: line] := by
  rw [ShvarLine.print]
  exact if_pos understood

theorem svUnescape_nil : svUnescape [] = some [] := svUnescapeLoop_plain [] nofun

theorem print_cases (valid : line.Valid) : (line.value = none ∧ line.print = []) ∨
    (line.value = none ∧ line.key = none ∧
      ∃ text, CleanText text ∧ line.print = [text] ∧ lineNewParse text = .other text ∧
        (ShvarLine.other text).print = [text]) ∨
    (∃ text value, CleanText text ∧ line.value = some value ∧
      (svUnescape value).isSome = true ∧ line.print = [text] ∧ lineNewParse text = line) ∨
    (∃ key value comment, line.key = some key ∧ line.value = some value ∧
      svUnescape value = none ∧ CleanText (key ++ [equals]) ∧ CleanText (hash :: comment) ∧
      line.print = [key ++ [equals], hash :: comment] ∧
      lineNewParse (key ++ [equals]) = .assignment [] key (some [])) := by
  cases line with
  | other line =>
    obtain ⟨clean, parsed⟩ := valid
    refine .inr (.inl ⟨rfl, rfl, ?_⟩)
    rcases print_other line with as_it_is | marked
    · exact ⟨line, clean, as_it_is, parsed, as_it_is⟩
    · exact ⟨nmMark ++ line, clean_nmMark.append clean, marked, lineNewParse_comment _,
        print_comment _⟩
  | assignment indent key line =>
    obtain ⟨indent_clean, spaces, name, value_clean⟩ := valid
    have key_clean := clean_of_shellIsName name
    cases line with
    | none => exact .inl ⟨rfl, rfl⟩
    | some value =>
      have text_clean : CleanText (indent ++ key ++ equals :: value) :=
        (indent_clean.append key_clean).append
          ((value_clean value rfl).cons (by decide) (by decide))
      by_cases understood : (svUnescape value).isSome = true
      · exact .inr (.inr (.inl ⟨_, value, text_clean, rfl, understood,
          print_assignment understood indent key, lineNewParse_assignment spaces name value⟩))
      · refine .inr (.inr (.inr ⟨key, value,
          literal "NM: " ++ (indent ++ key ++ equals :: value), rfl, rfl, ?_, ?_, ?_, ?_, ?_⟩))
        · exact not_isSome_iff_eq_none.mp understood
        · exact key_clean.append (CleanText.cons (by decide) (by decide) ⟨not_mem_nil, not_mem_nil⟩)
        · exact clean_nmMark.append text_clean
        · rw [ShvarLine.print, if_neg understood, append_assoc, append_assoc, append_assoc]
          rfl
        · have parsed : lineNewParse ([] ++ key ++ [equals]) = .assignment [] key (some []) :=
            lineNewParse_assignment (forall_mem_nil _) name []
          exact parsed

theorem print_clean (valid : line.Valid) : ∀ text ∈ line.print, CleanText text := by
  rcases print_cases valid with ⟨-, printed⟩ | ⟨-, -, text, clean, printed, -⟩ |
    ⟨text, value, clean, -, -, printed, -⟩ | ⟨key, value, comment, -, -, -, clean, comment_clean,
      printed, -⟩
  · rw [printed]
    exact forall_mem_nil _
  · rw [printed]
    exact forall_mem_singleton.mpr clean
  · rw [printed]
    exact forall_mem_singleton.mpr clean
  · rw [printed]
    exact forall_mem_cons.mpr ⟨clean, forall_mem_singleton.mpr comment_clean⟩

theorem print_reparsed (valid : line.Valid) :
    (line.print.map lineNewParse).flatMap ShvarLine.print = line.print := by
  rcases print_cases valid with ⟨-, printed⟩ | ⟨-, -, text, -, printed, parsed, again⟩ |
    ⟨text, value, -, -, -, printed, parsed⟩ | ⟨key, value, comment, -, -, -, -, -, printed, parsed⟩
  · rw [printed]
    rfl
  · rw [printed, map_singleton, parsed, flatMap_singleton, again]
  · rw [printed, map_singleton, parsed, flatMap_singleton, printed]
  · have understood : (svUnescape []).isSome = true := by
      rw [svUnescape_nil]
      rfl
    rw [printed, map_cons, map_singleton, parsed, lineNewParse_comment, flatMap_cons,
      flatMap_singleton, print_comment, print_assignment understood]
    rfl

/-- The value of a line as `svGetValue` returns it. -/
def content (line : ShvarLine) : Option (List UInt8) :=
  line.value.map fun value => (svUnescape value).getD []

/-- What a line is parsed as after it was printed assigns the same variable, and a value that is not
understood is replaced by the empty one. -/
theorem filter_reparsed (valid : line.Valid) (key : List UInt8) :
    (line.hasKey key = true ∧ ∃ value, line.value = some value ∧ ∃ again,
      (line.print.map lineNewParse).filter (hasKey key) = [again] ∧ again.content = line.content) ∨
    ((line.hasKey key = false ∨ line.value = none) ∧
      (line.print.map lineNewParse).filter (hasKey key) = []) := by
  rcases print_cases valid with ⟨deleted, printed⟩ | ⟨no_value, no_key, text, -, printed, parsed, -⟩ |
    ⟨text, value, -, assigned, -, printed, parsed⟩ |
    ⟨name, value, comment, named, assigned, failed, -, -, printed, parsed⟩
  · rw [printed]
    exact .inr ⟨.inr deleted, rfl⟩
  · rw [printed, map_singleton, parsed]
    exact .inr ⟨.inr no_value, rfl⟩
  · rw [printed, map_singleton, parsed]
    by_cases same : line.hasKey key = true
    · refine .inl ⟨same, value, assigned, line, ?_, rfl⟩
      exact filter_cons_of_pos same
    · refine .inr ⟨.inl (Bool.eq_false_iff.mpr same), ?_⟩
      exact filter_cons_of_neg same
  · rw [printed, map_cons, map_singleton, parsed, lineNewParse_comment]
    have no_comment : [ShvarLine.other (hash :: comment)].filter (hasKey key) = [] := rfl
    have same_key : line.hasKey key = (ShvarLine.assignment [] name (some [])).hasKey key := by
      unfold hasKey
      rw [named]
      rfl
    by_cases same : line.hasKey key = true
    · refine .inl ⟨same, value, assigned, .assignment [] name (some []), ?_, ?_⟩
      · rw [filter_cons_of_pos (same_key ▸ same), no_comment]
      · unfold content
        rw [assigned, map_some, failed]
        show some ((svUnescape []).getD []) = _
        rw [svUnescape_nil]
        rfl
    · refine .inr ⟨.inl (Bool.eq_false_iff.mpr same), ?_⟩
      rw [filter_cons_of_neg (same_key ▸ same), no_comment]

end ShvarLine

/-- Assignments of a variable are deleted together. -/
def DeletedTogether (lines : List ShvarLine) : Prop :=
  ∀ a ∈ lines, ∀ b ∈ lines, a.key = b.key → a.value = none → b.value = none

/-- The lines are valid, and assignments of a variable are deleted together. -/
structure ShvarFile.Valid (file : ShvarFile) : Prop where
  lines : ∀ line ∈ file.lines, line.Valid
  deleted : DeletedTogether file.lines

namespace ShvarFile

variable {file : ShvarFile} {line : ShvarLine}

section

variable (valid : ∀ line ∈ file.lines, line.Valid)

include valid

theorem textLines_print :
    textLines [] (file.print.takeWhile (· ≠ 0)) = file.lines.flatMap ShvarLine.print := by
  have clean : ∀ text ∈ file.lines.flatMap ShvarLine.print, CleanText text := by
    intro text mem
    obtain ⟨line, line_mem, text_mem⟩ := mem_flatMap.mp mem
    exact ShvarLine.print_clean (valid line line_mem) text text_mem
  have no_nul : 0 ∉ file.print := by
    unfold print
    intro mem
    obtain ⟨text, text_mem, in_text⟩ := mem_flatMap.mp mem
    rcases mem_append.mp in_text with in_text | in_text
    · exact (clean text text_mem).1 in_text
    · exact absurd (mem_singleton.mp in_text) (by decide)
  have whole : file.print.takeWhile (· ≠ 0) = file.print := by
    refine takeWhile_eq_self_iff.mpr fun b mem => decide_eq_true ?_
    rintro rfl
    exact no_nul mem
  rw [whole]
  unfold print
  exact textLines_terminated fun text mem => (clean text mem).2

theorem lines_svOpenFile_print :
    (svOpenFile file.print).lines = (file.lines.flatMap ShvarLine.print).map lineNewParse := by
  unfold svOpenFile
  dsimp only
  rw [textLines_print valid]

theorem print_svOpenFile_print : (svOpenFile file.print).print = file.print := by
  unfold print
  have again : (svOpenFile file.print).lines.flatMap ShvarLine.print =
      file.lines.flatMap ShvarLine.print := by
    rw [lines_svOpenFile_print valid, map_flatMap, flatMap_assoc]
    exact flatMap_congr fun line mem => ShvarLine.print_reparsed (valid line mem)
  unfold print at again
  rw [again]

end

theorem svGetValue_eq (file : ShvarFile) (key : List UInt8) :
    file.svGetValue key =
      ((file.lines.filter (ShvarLine.hasKey key)).getLast?).bind ShvarLine.content := by
  unfold svGetValue
  cases (file.lines.filter (ShvarLine.hasKey key)).getLast? with
  | none => rfl
  | some line => rfl

variable {lines : List ShvarLine}

theorem filter_reparsed_lines (valid : ∀ line ∈ lines, line.Valid) (key : List UInt8) :
    ((lines.flatMap ShvarLine.print).map lineNewParse).filter (ShvarLine.hasKey key) =
      (lines.filter (ShvarLine.hasKey key)).flatMap fun line =>
        (line.print.map lineNewParse).filter (ShvarLine.hasKey key) := by
  induction lines with
  | nil => rfl
  | cons line lines ih =>
    obtain ⟨line_valid, lines_valid⟩ := forall_mem_cons.mp valid
    rw [flatMap_cons, map_append, filter_append, ih lines_valid]
    by_cases has : line.hasKey key = true
    · rw [filter_cons_of_pos has, flatMap_cons]
    · rcases ShvarLine.filter_reparsed line_valid key with ⟨same, -⟩ | ⟨-, nothing⟩
      · exact absurd same has
      · rw [filter_cons_of_neg has, nothing, nil_append]

theorem svGetValue_svOpenFile_print (valid : file.Valid) (key : List UInt8) :
    (svOpenFile file.print).svGetValue key = file.svGetValue key := by
  rw [svGetValue_eq, svGetValue_eq, lines_svOpenFile_print valid.lines,
    filter_reparsed_lines valid.lines]
  cases last : (file.lines.filter (ShvarLine.hasKey key)).getLast? with
  | none =>
    rw [getLast?_eq_none_iff.mp last]
    rfl
  | some line =>
    obtain ⟨before, filtered⟩ := getLast?_eq_some_iff.mp last
    have line_mem : line ∈ file.lines.filter (ShvarLine.hasKey key) := by
      rw [filtered]
      exact mem_append_right _ (mem_singleton.mpr rfl)
    obtain ⟨line_mem, line_has⟩ := mem_filter.mp line_mem
    rcases ShvarLine.filter_reparsed (valid.lines line line_mem) key with
      ⟨-, -, -, again, again_eq, same⟩ | ⟨unset, -⟩
    · rw [filtered, flatMap_append, flatMap_singleton, again_eq,
        getLast?_concat, bind_some, bind_some, same]
    · -- The last assignment is deleted, and so are the ones before it.
      have deleted : line.value = none := by
        rcases unset with different | deleted
        · rw [line_has] at different
          cases different
        · exact deleted
      have nothing : ((file.lines.filter (ShvarLine.hasKey key)).flatMap fun line =>
          (line.print.map lineNewParse).filter (ShvarLine.hasKey key)) = [] := by
        refine flatMap_eq_nil_iff.mpr fun other other_mem => ?_
        obtain ⟨other_mem, other_has⟩ := mem_filter.mp other_mem
        have same_key : line.key = other.key :=
          (of_decide_eq_true line_has).trans (of_decide_eq_true other_has).symm
        rcases ShvarLine.filter_reparsed (valid.lines other other_mem) key with
          ⟨-, value, assigned, -⟩ | ⟨-, nothing⟩
        · rw [valid.deleted line line_mem other other_mem same_key deleted] at assigned
          cases assigned
        · exact nothing
      rw [nothing]
      show none = line.value.map _
      rw [deleted]
      rfl

theorem valid_svOpenFile (arena : List UInt8) : (svOpenFile arena).Valid where
  lines := by
    intro line mem
    obtain ⟨text, text_mem, rfl⟩ := List.mem_map.mp mem
    refine lineNewParse_valid (clean_of_mem_textLines ⟨not_mem_nil, not_mem_nil⟩ ?_ text_mem)
    intro in_arena
    have not_nul := mem_takeWhile_imp in_arena
    exact of_decide_eq_true not_nul rfl
  deleted := by
    intro a a_mem b b_mem same_key a_deleted
    obtain ⟨text, -, rfl⟩ := List.mem_map.mp a_mem
    obtain ⟨other, -, rfl⟩ := List.mem_map.mp b_mem
    rcases lineNewParse_cases text with parsed | ⟨indent, key, line, parsed, -⟩
    · rcases lineNewParse_cases other with other_parsed | ⟨_, _, _, other_parsed, -⟩
      · rw [other_parsed]
        rfl
      · rw [parsed, other_parsed] at same_key
        cases same_key
    · rw [parsed] at a_deleted
      cases a_deleted

theorem dropDuplicates_sublist (key : List UInt8) (lines : List ShvarLine) :
    (dropDuplicates key lines).Sublist lines := by
  induction lines with
  | nil => exact .slnil
  | cons line lines ih =>
    unfold dropDuplicates
    split
    · exact ih.cons line
    · exact ih.cons_cons line

theorem Valid.update (selects : Option (List UInt8) → Bool) (valid : ∀ line ∈ lines, line.Valid)
    (deleted : DeletedTogether lines) {change : ShvarLine → ShvarLine}
    (change_valid : ∀ line : ShvarLine, line.Valid → (change line).Valid)
    (change_key : ∀ line, (change line).key = line.key)
    (change_value : ∀ a b : ShvarLine, selects a.key = true → a.key = b.key →
      (change a).value = none → (change b).value = none) (modified : Bool) :
    Valid ⟨lines.map fun line => if selects line.key then change line else line, modified⟩ where
  lines := by
    intro line mem
    obtain ⟨old, old_mem, rfl⟩ := List.mem_map.mp mem
    split
    · exact change_valid old (valid old old_mem)
    · exact valid old old_mem
  deleted := by
    intro new_a new_a_mem new_b new_b_mem same_key a_deleted
    obtain ⟨a, a_mem, rfl⟩ := List.mem_map.mp new_a_mem
    obtain ⟨b, b_mem, rfl⟩ := List.mem_map.mp new_b_mem
    have key_eq : ∀ line : ShvarLine,
        (if selects line.key then change line else line).key = line.key := by
      intro line
      split
      · exact change_key line
      · rfl
    rw [key_eq, key_eq] at same_key
    by_cases selected : selects a.key = true
    · rw [if_pos selected] at a_deleted
      rw [if_pos (same_key ▸ selected)]
      exact change_value a b selected same_key a_deleted
    · rw [if_neg selected] at a_deleted
      rw [if_neg (same_key ▸ selected)]
      exact deleted a a_mem b b_mem same_key a_deleted

theorem key_clear (line : ShvarLine) : line.clear.key = line.key := by
  cases line with
  | other line => rfl
  | assignment indent key line => rfl

theorem value_clear (line : ShvarLine) : line.clear.value = none := by
  cases line with
  | other line => rfl
  | assignment indent key line => rfl

theorem key_lineSet (sign : CharSign) (value : List UInt8) (line : ShvarLine) :
    (lineSet sign value line).1.key = line.key := by
  cases line with
  | other line => rfl
  | assignment indent key line => rfl

theorem value_lineSet {sign : CharSign} {value : List UInt8}
    (deleted : (lineSet sign value line).1.value = none) : line.key = none := by
  cases line with
  | other line => rfl
  | assignment indent key line => cases deleted

variable {file : ShvarFile} {sign : CharSign}

theorem Valid.svSetValue (valid : file.Valid) (key : Name) (value : Option CString) :
    (file.svSetValue sign key value).1.Valid := by
  have kept : dropDuplicates key.1 file.lines ⊆ file.lines :=
    (dropDuplicates_sublist key.1 file.lines).subset
  have kept_valid : ∀ line ∈ dropDuplicates key.1 file.lines, line.Valid :=
    fun line mem => valid.lines line (kept mem)
  have kept_deleted : DeletedTogether (dropDuplicates key.1 file.lines) :=
    fun a a_mem b b_mem => valid.deleted a (kept a_mem) b (kept b_mem)
  unfold ShvarFile.svSetValue
  cases value with
  | none =>
    exact Valid.update (fun name => decide (name = some key.1)) kept_valid kept_deleted
      (fun _ => ShvarLine.Valid.clear) key_clear (fun _ b _ _ _ => value_clear b) _
  | some value =>
    dsimp only
    split
    · refine Valid.update (fun name => decide (name = some key.1)) kept_valid kept_deleted
        (fun _ line_valid => line_valid.lineSet sign value) (key_lineSet sign value.1) ?_ _
      intro a b selected same_key a_deleted
      have no_key := value_lineSet a_deleted
      rw [of_decide_eq_true selected] at no_key
      cases no_key
    · rename_i absent
      have new_valid := ShvarLine.valid_lineNewBuild sign key value
      refine ⟨?_, ?_⟩
      · intro line mem
        rcases mem_append.mp mem with mem | mem
        · exact kept_valid line mem
        · rwa [mem_singleton.mp mem]
      · intro a a_mem b b_mem same_key a_deleted
        rcases mem_append.mp a_mem with a_mem | a_mem
        · rcases mem_append.mp b_mem with b_mem | b_mem
          · exact kept_deleted a a_mem b b_mem same_key a_deleted
          · rw [mem_singleton.mp b_mem] at same_key
            exact absurd (List.any_eq_true.mpr ⟨a, a_mem, decide_eq_true same_key⟩) absent
        · rw [mem_singleton.mp a_mem] at a_deleted
          cases a_deleted

theorem Valid.call (valid : file.Valid) (call : Call) : (file.call sign call).Valid := by
  cases call with
  | setValue key value => exact valid.svSetValue key value
  | unsetValue key => exact valid.svSetValue key none
  | unsetAll match_key_type =>
    exact Valid.update (fun name => name.any fun key => svKeyMatchesType key match_key_type)
      valid.lines valid.deleted (fun _ => ShvarLine.Valid.clear) key_clear
      (fun _ b _ _ _ => value_clear b) _

theorem Valid.run (valid : file.Valid) (calls : List Call) :
    (calls.foldl (ShvarFile.call sign) file).Valid := by
  induction calls generalizing file with
  | nil => exact valid
  | cons call calls ih => exact ih (valid.call call)

theorem clear_of_deleted (deleted : line.value = none) : line.clear = line := by
  cases line with
  | other line => rfl
  | assignment indent key line =>
    obtain rfl : line = none := deleted
    rfl

theorem lineSet_of_unchanged {value : List UInt8} (unchanged : (lineSet sign value line).2 = false) :
    (lineSet sign value line).1 = line := by
  cases line with
  | other line => rfl
  | assignment indent key line =>
    have same := of_decide_eq_false unchanged
    rw [not_or, not_ne_iff, not_ne_iff] at same
    obtain ⟨rfl, rfl⟩ := same
    rfl

theorem map_update_eq_self {selects : ShvarLine → Bool} {change : ShvarLine → ShvarLine}
    {changed : ShvarLine → Bool}
    (unchanged : (lines.any fun line => selects line && changed line) = false)
    (change_eq : ∀ line, changed line = false → change line = line) :
    (lines.map fun line => if selects line then change line else line) = lines := by
  rw [List.any_eq_false] at unchanged
  refine (map_congr_left fun line mem => ?_).trans (List.map_id lines)
  show (if selects line then change line else line) = line
  by_cases selected : selects line = true
  · rw [if_pos selected]
    refine change_eq line (Bool.eq_false_iff.mpr fun line_changed => unchanged line mem ?_)
    rw [selected, line_changed]
    rfl
  · rw [if_neg selected]

/-- The lines after `svSetValue` if it reports no change. -/
theorem svSetValue_of_unchanged {key : Name} {value : Option CString}
    (unchanged : (file.svSetValue sign key value).2 = false) :
    (file.svSetValue sign key value).1.lines = file.lines := by
  have no_duplicates : decide ((dropDuplicates key.1 file.lines).length ≠ file.lines.length) = false →
      dropDuplicates key.1 file.lines = file.lines := by
    intro same_length
    exact (dropDuplicates_sublist key.1 file.lines).eq_of_length
      (not_ne_iff.mp (of_decide_eq_false same_length))
  unfold ShvarFile.svSetValue at unchanged ⊢
  cases value with
  | none =>
    obtain ⟨not_dropped, not_changed⟩ := Bool.or_eq_false_iff.mp unchanged
    refine (map_update_eq_self not_changed fun line no_value => ?_).trans
      (no_duplicates not_dropped)
    exact clear_of_deleted (not_isSome_iff_eq_none.mp (Bool.eq_false_iff.mp no_value))
  | some value =>
    dsimp only at unchanged ⊢
    split
    · rename_i there
      rw [if_pos there] at unchanged
      obtain ⟨not_dropped, not_changed⟩ := Bool.or_eq_false_iff.mp unchanged
      exact (map_update_eq_self not_changed fun line => lineSet_of_unchanged).trans
        (no_duplicates not_dropped)
    · rename_i absent
      rw [if_neg absent] at unchanged
      cases unchanged

theorem eq_of_unmodified {changed : Bool} (same : changed = false → lines = file.lines)
    (unmodified : (file.modified || changed) = false) :
    (⟨lines, file.modified || changed⟩ : ShvarFile) = file := by
  rw [Bool.or_eq_false_iff] at unmodified
  obtain ⟨not_before, not_changed⟩ := unmodified
  rw [same not_changed, not_before, not_changed]
  cases file
  cases not_before
  rfl

theorem svSetValue_fst (file : ShvarFile) (key : Name) (value : Option CString) :
    (file.svSetValue sign key value).1 =
      ⟨(file.svSetValue sign key value).1.lines,
        file.modified || (file.svSetValue sign key value).2⟩ := by
  unfold ShvarFile.svSetValue
  cases value with
  | none => rfl
  | some value =>
    dsimp only
    split
    · rfl
    · rfl

theorem call_of_unmodified {call : Call} (unmodified : (file.call sign call).modified = false) :
    file.call sign call = file := by
  have set_value : ∀ key value, (file.svSetValue sign key value).1.modified = false →
      (file.svSetValue sign key value).1 = file := by
    intro key value not_modified
    rw [svSetValue_fst] at not_modified ⊢
    exact eq_of_unmodified svSetValue_of_unchanged not_modified
  cases call with
  | setValue key value => exact set_value key value unmodified
  | unsetValue key => exact set_value key none unmodified
  | unsetAll match_key_type =>
    refine eq_of_unmodified (fun not_changed => ?_) unmodified
    refine map_update_eq_self not_changed fun line no_value => ?_
    exact clear_of_deleted (not_isSome_iff_eq_none.mp (Bool.eq_false_iff.mp no_value))

theorem run_of_unmodified {calls : List Call}
    (unmodified : (calls.foldl (ShvarFile.call sign) file).modified = false) :
    calls.foldl (ShvarFile.call sign) file = file := by
  induction calls generalizing file with
  | nil => rfl
  | cons call calls ih =>
    have rest : calls.foldl (ShvarFile.call sign) (file.call sign call) = file.call sign call :=
      ih unmodified
    rw [foldl_cons] at unmodified ⊢
    rw [rest] at unmodified ⊢
    exact call_of_unmodified unmodified

end ShvarFile

/-- However a file is changed after it was opened, the text that is printed for it gives the same
variables when it is opened, and is printed again as it is.  The same holds of the file on disk
after it was written, which happens only if the file was modified. -/
theorem svOpenFile_svWriteFile (sign : CharSign) (text : List UInt8) (calls : List Call) :
    let file := calls.foldl (ShvarFile.call sign) (svOpenFile text)
    ((∀ key, (svOpenFile file.print).svGetValue key = file.svGetValue key) ∧
      (svOpenFile file.print).print = file.print) ∧
    ((∀ key, (svOpenFile (file.svWriteFile text)).svGetValue key = file.svGetValue key) ∧
      (svOpenFile (file.svWriteFile text)).svWriteFile (file.svWriteFile text) =
        file.svWriteFile text) := by
  intro file
  have valid : file.Valid := (ShvarFile.valid_svOpenFile text).run calls
  refine ⟨⟨ShvarFile.svGetValue_svOpenFile_print valid,
    ShvarFile.print_svOpenFile_print valid.lines⟩, ?_, rfl⟩
  intro key
  unfold ShvarFile.svWriteFile
  by_cases modified : file.modified = true
  · rw [if_pos modified]
    exact ShvarFile.svGetValue_svOpenFile_print valid key
  · rw [if_neg modified]
    have unchanged : file = svOpenFile text :=
      ShvarFile.run_of_unmodified (Bool.eq_false_iff.mpr modified)
    rw [unchanged]

end NetworkManager.Shvar
