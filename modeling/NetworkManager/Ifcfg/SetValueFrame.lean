import Mathlib.Data.List.Forall2
import NetworkManager.Ifcfg.FileRoundTrip

/-!
# What setting a variable changes

`svSetValue` works on one line of a file: it drops the other assignments of the variable and leaves
every other line as it is.  What it reports tells whether the text that is written changes.
-/

namespace NetworkManager.Shvar

open Bytes List Option

/-- The lines of a text, which is handled as a C string. -/
def fileLines (text : List UInt8) : List (List UInt8) := textLines [] (text.takeWhile (· ≠ 0))

def assignmentLines (key text : List UInt8) : List (List UInt8) :=
  (fileLines text).filter fun line => (lineNewParse line).hasKey key

/-- Whether the line assigns a variable and is not deleted. -/
def ShvarLine.assigns (key : List UInt8) (line : ShvarLine) : Bool :=
  line.hasKey key && line.value.isSome

def ShvarLine.unassigned : ShvarLine → Option (List UInt8)
  | .other line => some line
  | .assignment _ _ _ => none

/-- The comments, the empty lines and the lines that are not understood. -/
def ShvarFile.unassigned (file : ShvarFile) : List (List UInt8) :=
  file.lines.filterMap ShvarLine.unassigned

def Comment (line : List UInt8) : Prop :=
  line.dropWhile isSpace = [] ∨ ∃ text, line.dropWhile isSpace = hash :: text

/-- How a line that is no assignment is carried into the text of a file: as it is, or, where it is
not understood, behind a mark that makes it a comment. -/
def Carried (line written : List UInt8) : Prop :=
  written = line ∨ (¬ Comment line ∧ written = nmMark ++ line)

namespace ShvarLine

theorem print_unassigned (line : List UInt8) :
    ∃ written, (ShvarLine.other line).print = [written] ∧ Carried line written := by
  rw [ShvarLine.print]
  split
  · exact ⟨line, rfl, .inl rfl⟩
  · rename_i b text shown
    split
    · exact ⟨line, rfl, .inl rfl⟩
    · rename_i no_hash
      refine ⟨nmMark ++ line, rfl, .inr ⟨?_, rfl⟩⟩
      rintro (blank | ⟨text, comment⟩)
      · rw [blank] at shown
        cases shown
      · rw [comment] at shown
        exact no_hash (List.cons.inj shown).1.symm

theorem carried_print (lines : List ShvarLine) :
    ∃ carried, List.Forall₂ Carried (lines.filterMap ShvarLine.unassigned) carried ∧
      carried.Sublist (lines.flatMap ShvarLine.print) := by
  induction lines with
  | nil => exact ⟨[], .nil, .slnil⟩
  | cons line lines ih =>
    obtain ⟨carried, each, within⟩ := ih
    rw [flatMap_cons]
    cases line with
    | other line =>
      obtain ⟨written, printed, as_line⟩ := print_unassigned line
      rw [printed]
      exact ⟨written :: carried, .cons as_line each, within.cons_cons written⟩
    | assignment indent key line =>
      exact ⟨carried, each, within.trans (sublist_append_right _ _)⟩

theorem unassigned_lineNewParse (value : List UInt8) :
    (lineNewParse value).unassigned = none ∨ (lineNewParse value).unassigned = some value := by
  rcases lineNewParse_cases value with other | ⟨indent, key, line, assigned, -⟩
  · rw [other]
    exact .inr rfl
  · rw [assigned]
    exact .inl rfl

theorem unassigned_parsed (texts : List (List UInt8)) :
    ((texts.map lineNewParse).filterMap ShvarLine.unassigned).Sublist texts := by
  induction texts with
  | nil => exact .slnil
  | cons text texts ih =>
    rw [map_cons]
    rcases unassigned_lineNewParse text with assigned | other
    · rw [filterMap_cons_none assigned]
      exact ih.cons text
    · rw [filterMap_cons_some other]
      exact ih.cons_cons text

theorem value_lineNewParse {value key : List UInt8}
    (named : (lineNewParse value).hasKey key = true) : (lineNewParse value).value.isSome = true := by
  rcases lineNewParse_cases value with other | ⟨indent, key, line, assigned, -⟩
  · rw [other] at named
    cases named
  · rw [assigned]
    rfl

end ShvarLine

namespace ShvarFile

variable {file : ShvarFile} {sign : CharSign}

/-- The assignments of a variable that are not deleted. -/
def assignments (file : ShvarFile) (key : List UInt8) : List ShvarLine :=
  file.lines.filter (ShvarLine.assigns key)

theorem length_reparsed {lines : List ShvarLine} (valid : ∀ line ∈ lines, line.Valid)
    (key : List UInt8) :
    ((lines.filter (ShvarLine.hasKey key)).flatMap fun line =>
        (line.print.map lineNewParse).filter (ShvarLine.hasKey key)).length =
      (lines.filter (ShvarLine.assigns key)).length := by
  induction lines with
  | nil => rfl
  | cons line lines ih =>
    obtain ⟨line_valid, lines_valid⟩ := forall_mem_cons.mp valid
    rcases ShvarLine.filter_reparsed line_valid key with
      ⟨named, value, assigned, again, reparsed, -⟩ | ⟨unnamed | deleted, reparsed⟩
    · have counted : line.assigns key = true := by
        unfold ShvarLine.assigns
        rw [named, assigned]
        rfl
      rw [filter_cons_of_pos named, flatMap_cons, reparsed,
        filter_cons_of_pos counted, length_append, ih lines_valid, length_cons]
      exact Nat.add_comm _ _
    · have not_counted : ¬ line.assigns key = true := by
        unfold ShvarLine.assigns
        rw [unnamed]
        exact Bool.false_ne_true
      rw [filter_cons_of_neg (Bool.eq_false_iff.mp unnamed),
        filter_cons_of_neg not_counted, ih lines_valid]
    · have not_counted : ¬ line.assigns key = true := by
        unfold ShvarLine.assigns
        rw [deleted, isSome_none, Bool.and_false]
        exact Bool.false_ne_true
      rw [filter_cons_of_neg not_counted, ← ih lines_valid]
      by_cases named : line.hasKey key = true
      · rw [filter_cons_of_pos named, flatMap_cons, reparsed, nil_append]
      · rw [filter_cons_of_neg named]

theorem length_assignmentLines_print (valid : ∀ line ∈ file.lines, line.Valid) (key : List UInt8) :
    (assignmentLines key file.print).length = (file.assignments key).length := by
  have parsed : (assignmentLines key file.print).length =
      (((file.lines.flatMap ShvarLine.print).map lineNewParse).filter
        (ShvarLine.hasKey key)).length := by
    rw [assignmentLines, fileLines, textLines_print valid, List.filter_map, length_map]
    rfl
  rw [parsed, filter_reparsed_lines valid]
  exact length_reparsed valid key

theorem length_assignmentLines_text (text key : List UInt8) :
    (assignmentLines key text).length = ((svOpenFile text).assignments key).length := by
  have same : ((svOpenFile text).assignments key) =
      (svOpenFile text).lines.filter (ShvarLine.hasKey key) := by
    refine filter_congr fun line mem => ?_
    obtain ⟨value, -, rfl⟩ := List.mem_map.mp mem
    unfold ShvarLine.assigns
    by_cases named : (lineNewParse value).hasKey key = true
    · rw [named, ShvarLine.value_lineNewParse named]
      rfl
    · rw [Bool.eq_false_iff.mpr named]
      rfl
  rw [same, svOpenFile, List.filter_map, length_map]
  rfl

theorem filter_dropDuplicates (key : List UInt8) (lines : List ShvarLine) :
    (dropDuplicates key lines).filter (ShvarLine.hasKey key) =
      ((lines.filter (ShvarLine.hasKey key)).getLast?).toList := by
  induction lines with
  | nil => rfl
  | cons line lines ih =>
    rw [dropDuplicates]
    by_cases named : line.hasKey key = true
    · rw [filter_cons_of_pos named, named, Bool.true_and]
      by_cases again : lines.any (ShvarLine.hasKey key) = true
      · obtain ⟨other, mem, other_named⟩ := List.any_eq_true.mp again
        have later : lines.filter (ShvarLine.hasKey key) ≠ [] :=
          ne_nil_of_mem (mem_filter.mpr ⟨mem, other_named⟩)
        rw [if_pos again, ih, getLast?_cons_of_ne_nil later]
      · have none_later : lines.filter (ShvarLine.hasKey key) = [] :=
          filter_eq_nil_iff.mpr fun other mem other_named =>
            again (List.any_eq_true.mpr ⟨other, mem, other_named⟩)
        rw [if_neg again, filter_cons_of_pos named, ih, none_later]
        rfl
    · rw [filter_cons_of_neg named, Bool.eq_false_iff.mpr named, Bool.false_and,
        if_neg Bool.false_ne_true, filter_cons_of_neg named, ih]

theorem filter_dropDuplicates_other {key : List UInt8} {select : ShvarLine → Bool}
    (others : ∀ line : ShvarLine, line.hasKey key = true → select line = false)
    (lines : List ShvarLine) :
    (dropDuplicates key lines).filter select = lines.filter select := by
  induction lines with
  | nil => rfl
  | cons line lines ih =>
    rw [dropDuplicates]
    split
    · rename_i dropped
      obtain ⟨named, -⟩ := Bool.and_eq_true_iff.mp dropped
      rw [filter_cons_of_neg (Bool.eq_false_iff.mp (others line named)), ih]
    · rw [filter_cons, filter_cons, ih]

section

variable {key : List UInt8} {change : ShvarLine → ShvarLine}

theorem filter_update (change_key : ∀ line, (change line).key = line.key) (lines : List ShvarLine) :
    (lines.map fun line => if line.hasKey key then change line else line).filter
        (ShvarLine.hasKey key) =
      (lines.filter (ShvarLine.hasKey key)).map change := by
  have still_named : (ShvarLine.hasKey key ∘ fun line =>
      if line.hasKey key then change line else line) = ShvarLine.hasKey key := by
    funext line
    rw [Function.comp_apply, ShvarLine.hasKey, apply_ite ShvarLine.key, change_key, ite_self]
    rfl
  rw [List.filter_map, still_named]
  exact map_congr_left fun line mem => if_pos (of_mem_filter mem)

theorem filter_update_other {select : ShvarLine → Bool}
    (others : ∀ line : ShvarLine, line.hasKey key = true → select line = false)
    (change_key : ∀ line, (change line).key = line.key) (lines : List ShvarLine) :
    (lines.map fun line => if line.hasKey key then change line else line).filter select =
      lines.filter select := by
  have still_selected : (select ∘ fun line =>
      if line.hasKey key then change line else line) = select := by
    funext line
    rw [Function.comp_apply]
    by_cases named : line.hasKey key = true
    · have still_named : (change line).hasKey key = true := by
        rw [ShvarLine.hasKey, change_key]
        exact named
      rw [if_pos named, others _ still_named, others _ named]
    · rw [if_neg named]
  rw [List.filter_map, still_selected]
  have unnamed : ∀ line ∈ lines.filter select, ¬ line.hasKey key = true := by
    intro line mem named
    have selected := of_mem_filter mem
    rw [others line named] at selected
    cases selected
  exact (map_congr_left fun line mem => if_neg (unnamed line mem)).trans (List.map_id' _)

end

theorem filter_svSetValue_other {key : Name} {select : ShvarLine → Bool}
    (others : ∀ line : ShvarLine, line.hasKey key.1 = true → select line = false)
    (value : Option CString) :
    (file.svSetValue sign key value).1.lines.filter select = file.lines.filter select := by
  have kept := filter_dropDuplicates_other others file.lines
  cases value with
  | none => exact (filter_update_other others key_clear _).trans kept
  | some value =>
    rw [svSetValue]
    split
    · exact (filter_update_other others (key_lineSet sign value.1) _).trans kept
    · have no_match : select (lineNewBuild sign key.1 value.1) = false :=
        others _ (decide_eq_true rfl)
      change filter select (_ ++ [_]) = _
      rw [filter_append, filter_cons_of_neg (Bool.eq_false_iff.mp no_match), filter_nil, append_nil]
      exact kept

theorem filter_svSetValue_none (key : Name) :
    ∀ line ∈ (file.svSetValue sign key none).1.lines.filter (ShvarLine.hasKey key.1),
      line.value = none := by
  have cleared : (file.svSetValue sign key none).1.lines.filter (ShvarLine.hasKey key.1) =
      ((dropDuplicates key.1 file.lines).filter (ShvarLine.hasKey key.1)).map ShvarLine.clear :=
    filter_update key_clear _
  rw [cleared]
  intro line mem
  obtain ⟨before, -, rfl⟩ := List.mem_map.mp mem
  exact value_clear before

variable (file sign) in
theorem filter_svSetValue_some (key : Name) (value : CString) :
    ∃ line, (file.svSetValue sign key (some value)).1.lines.filter (ShvarLine.hasKey key.1) =
        [line] ∧ line.value = some (svEscape sign value.1) := by
  have left := filter_dropDuplicates key.1 file.lines
  rw [svSetValue]
  split
  · rename_i there
    obtain ⟨line, mem, named⟩ := List.any_eq_true.mp there
    have in_filter := mem_filter.mpr ⟨mem, named⟩
    cases last : (file.lines.filter (ShvarLine.hasKey key.1)).getLast? with
    | none =>
      rw [left, last] at in_filter
      cases in_filter
    | some final =>
      have final_named := (mem_filter.mp (mem_of_getLast? last)).2
      refine ⟨(lineSet sign value.1 final).1, ?_, ?_⟩
      · refine (filter_update (key_lineSet sign value.1) _).trans ?_
        rw [left, last]
        rfl
      · cases final with
        | other line => cases final_named
        | assignment indent name line => rfl
  · rename_i absent
    have none_left : (dropDuplicates key.1 file.lines).filter (ShvarLine.hasKey key.1) = [] :=
      filter_eq_nil_iff.mpr fun other mem named =>
        absent (List.any_eq_true.mpr ⟨other, mem, named⟩)
    refine ⟨lineNewBuild sign key.1 value.1, ?_, rfl⟩
    change filter (ShvarLine.hasKey key.1) (_ ++ [_]) = _
    rw [filter_append, none_left, nil_append]
    exact filter_cons_of_pos (decide_eq_true rfl)

theorem svGetValue_svSetValue (file : ShvarFile) (sign : CharSign) (key : Name)
    (value : Option CString) :
    (file.svSetValue sign key value).1.svGetValue key.1 = value.map Subtype.val := by
  rw [svGetValue_eq]
  cases value with
  | none =>
    cases last : ((file.svSetValue sign key none).1.lines.filter
        (ShvarLine.hasKey key.1)).getLast? with
    | none => rfl
    | some line =>
      have deleted := filter_svSetValue_none key line (mem_of_getLast? last)
      rw [bind_some, ShvarLine.content, deleted]
      rfl
  | some value =>
    obtain ⟨line, only, written⟩ := filter_svSetValue_some file sign key value
    rw [only, getLast?_singleton, bind_some, ShvarLine.content, written,
      map_some, svUnescape_of_svEscape]
    rfl

theorem svGetValue_svSetValue_other (file : ShvarFile) (sign : CharSign) {key : Name}
    {other : List UInt8} (ne : other ≠ key.1) (value : Option CString) :
    (file.svSetValue sign key value).1.svGetValue other = file.svGetValue other := by
  have others : ∀ line : ShvarLine, line.hasKey key.1 = true → line.hasKey other = false := by
    intro line named
    have key_eq : line.key = some key.1 := of_decide_eq_true named
    refine decide_eq_false fun other_eq => ne ?_
    exact Option.some.inj (other_eq.symm.trans key_eq)
  rw [svGetValue_eq, svGetValue_eq, filter_svSetValue_other others]

theorem svGetValue_svUnsetAll (match_key_type : SvKeyType) (key : List UInt8) :
    (file.svUnsetAll match_key_type).1.svGetValue key =
      if svKeyMatchesType key match_key_type then none else file.svGetValue key := by
  have named : (file.svUnsetAll match_key_type).1.lines.filter (ShvarLine.hasKey key) =
      (file.lines.filter (ShvarLine.hasKey key)).map fun line =>
        if svKeyMatchesType key match_key_type then line.clear else line := by
    rw [svUnsetAll, changedTo, List.filter_map]
    have still_named : (ShvarLine.hasKey key ∘ fun line => if line.key.any fun key =>
        svKeyMatchesType key match_key_type then line.clear else line) = ShvarLine.hasKey key := by
      funext line
      rw [Function.comp_apply, ShvarLine.hasKey, apply_ite ShvarLine.key, key_clear, ite_self]
      rfl
    rw [still_named]
    refine map_congr_left fun line mem => ?_
    have key_eq : line.key = some key := of_decide_eq_true (mem_filter.mp mem).2
    simp only [key_eq, any_some]
  rw [svGetValue_eq, svGetValue_eq, named, getLast?_map]
  split
  · cases (file.lines.filter (ShvarLine.hasKey key)).getLast? with
    | none => rfl
    | some line => rw [map_some, bind_some, ShvarLine.content, value_clear, map_none]
  · rw [Option.map_id']

theorem unassigned_svSetValue (file : ShvarFile) (sign : CharSign) (key : Name)
    (value : Option CString) :
    (file.svSetValue sign key value).1.unassigned = file.unassigned := by
  have by_filter (lines : List ShvarLine) : lines.filterMap ShvarLine.unassigned =
      (lines.filter fun line => line.key.isNone).filterMap ShvarLine.unassigned := by
    rw [filterMap_filter]
    refine filterMap_congr fun line _ => ?_
    cases line with
    | other line => rfl
    | assignment indent key line => rfl
  have others : ∀ line : ShvarLine, line.hasKey key.1 = true → line.key.isNone = false := by
    intro line named
    rw [show line.key = some key.1 from of_decide_eq_true named]
    rfl
  unfold unassigned
  rw [by_filter, filter_svSetValue_other others, ← by_filter]

theorem length_assignments_svSetValue (file : ShvarFile) (sign : CharSign) (key : Name)
    (value : Option CString) :
    ((file.svSetValue sign key value).1.assignments key.1).length =
      if value.isSome then 1 else 0 := by
  have by_filter (lines : List ShvarLine) : lines.filter (ShvarLine.assigns key.1) =
      (lines.filter (ShvarLine.hasKey key.1)).filter fun line => line.value.isSome := by
    rw [List.filter_filter]
    exact filter_congr fun line _ => Bool.and_comm _ _
  unfold assignments
  rw [by_filter]
  cases value with
  | none =>
    refine length_eq_zero_iff.mpr (filter_eq_nil_iff.mpr fun line mem => ?_)
    rw [filter_svSetValue_none key line mem]
    exact Bool.false_ne_true
  | some value =>
    obtain ⟨line, only, written⟩ := filter_svSetValue_some file sign key value
    have assigned : line.value.isSome = true := by
      rw [written]
      rfl
    have counted : [line].filter (fun line => line.value.isSome) = [line] :=
      filter_cons_of_pos assigned
    rw [only, counted]
    rfl

theorem length_assignmentLines_svWriteFile {text : List UInt8}
    (valid : ∀ line ∈ file.lines, line.Valid)
    (unmodified : file.modified = false → file = svOpenFile text) (key : List UInt8) :
    (assignmentLines key (file.svWriteFile text)).length = (file.assignments key).length := by
  unfold svWriteFile
  split
  · exact length_assignmentLines_print valid key
  · rename_i not_modified
    rw [unmodified (Bool.eq_false_iff.mpr not_modified)]
    exact length_assignmentLines_text text key

theorem carried_svWriteFile {text : List UInt8} (valid : ∀ line ∈ file.lines, line.Valid)
    (unmodified : file.modified = false → file = svOpenFile text) :
    ∃ carried, List.Forall₂ Carried file.unassigned carried ∧
      carried.Sublist (fileLines (file.svWriteFile text)) := by
  unfold svWriteFile
  split
  · rw [fileLines, textLines_print valid]
    exact ShvarLine.carried_print file.lines
  · rename_i not_modified
    rw [unmodified (Bool.eq_false_iff.mpr not_modified)]
    refine ⟨(svOpenFile text).unassigned, ?_, ShvarLine.unassigned_parsed (fileLines text)⟩
    exact forall₂_same.mpr fun line _ => .inl rfl

end ShvarFile

/-- A variable is set in a file that was opened, and perhaps changed before.  It has the new value
then, and the other variables have their values.  The text that is written has one line that assigns
the variable, or none if it was deleted, and it has the comments and the lines that are not
understood in their order.  If no change is reported, the text is the one that would be written
anyway. -/
theorem svSetValue_frame (sign : CharSign) (text : List UInt8) (calls : List Call) (key : Name)
    (value : Option CString) :
    let file := calls.foldl (ShvarFile.call sign) (svOpenFile text)
    let after := file.svSetValue sign key value
    after.1.svGetValue key.1 = value.map Subtype.val ∧
      (∀ other, other ≠ key.1 → after.1.svGetValue other = file.svGetValue other) ∧
      (assignmentLines key.1 (after.1.svWriteFile text)).length = (if value.isSome then 1 else 0) ∧
      after.1.unassigned = file.unassigned ∧
      (∃ carried, Forall₂ Carried file.unassigned carried ∧
        carried.Sublist (fileLines (after.1.svWriteFile text))) ∧
      (after.2 = false →
        after.1.print = file.print ∧ after.1.svWriteFile text = file.svWriteFile text) := by
  intro file after
  have run_eq : (calls ++ [Call.setValue key value]).foldl (ShvarFile.call sign) (svOpenFile text) =
      after.1 := foldl_append
  have valid : after.1.Valid := by
    rw [← run_eq]
    exact (ShvarFile.valid_svOpenFile text).run _
  have unmodified : after.1.modified = false → after.1 = svOpenFile text := by
    rw [← run_eq]
    exact ShvarFile.run_of_unmodified
  have kept : after.1.unassigned = file.unassigned :=
    ShvarFile.unassigned_svSetValue file sign key value
  refine ⟨ShvarFile.svGetValue_svSetValue file sign key value,
    fun other ne => ShvarFile.svGetValue_svSetValue_other file sign ne value, ?_, kept, ?_, ?_⟩
  · rw [ShvarFile.length_assignmentLines_svWriteFile valid.lines unmodified]
    exact ShvarFile.length_assignments_svSetValue file sign key value
  · rw [← kept]
    exact ShvarFile.carried_svWriteFile valid.lines unmodified
  · intro unchanged
    have same : after.1 = file := by
      have lines_eq : after.1.lines = file.lines := ShvarFile.svSetValue_of_unchanged unchanged
      have shape : after.1 = ⟨after.1.lines, file.modified || after.2⟩ :=
        ShvarFile.svSetValue_fst file key value
      rw [shape, lines_eq, unchanged, Bool.or_false]
    rw [same]
    exact ⟨rfl, rfl⟩

/-- What a call makes of the value of a variable. -/
def Call.assign (key : List UInt8) (value : Option (List UInt8)) : Call → Option (List UInt8)
  | .setValue name new => if key = name.1 then new.map Subtype.val else value
  | .unsetValue name => if key = name.1 then none else value
  | .unsetAll match_key_type => if svKeyMatchesType key match_key_type then none else value

/-- The file on disk after it was opened, changed and written. -/
def session (sign : CharSign) (onDisk : List UInt8) (calls : List Call) : List UInt8 :=
  (calls.foldl (ShvarFile.call sign) (svOpenFile onDisk)).svWriteFile onDisk

variable {sign : CharSign}

theorem svGetValue_call (file : ShvarFile) (call : Call) (key : List UInt8) :
    (file.call sign call).svGetValue key = call.assign key (file.svGetValue key) := by
  have set : ∀ (name : Name) value, (file.svSetValue sign name value).1.svGetValue key =
      if key = name.1 then value.map Subtype.val else file.svGetValue key := by
    intro name value
    split
    · rename_i same
      rw [same, ShvarFile.svGetValue_svSetValue]
    · rename_i ne
      exact ShvarFile.svGetValue_svSetValue_other file sign ne value
  cases call with
  | setValue name value => exact set name value
  | unsetValue name => exact set name none
  | unsetAll match_key_type => exact ShvarFile.svGetValue_svUnsetAll match_key_type key

theorem svGetValue_session (onDisk : List UInt8) (calls : List Call) (key : List UInt8) :
    (svOpenFile (session sign onDisk calls)).svGetValue key =
      calls.foldl (Call.assign key) ((svOpenFile onDisk).svGetValue key) := by
  have run : ∀ file : ShvarFile, (calls.foldl (ShvarFile.call sign) file).svGetValue key =
      calls.foldl (Call.assign key) (file.svGetValue key) := fun file =>
    (foldl_hom (ShvarFile.svGetValue · key) fun file call =>
      (svGetValue_call file call key).symm).symm
  rw [← run, session, ShvarFile.svWriteFile]
  split
  · exact ShvarFile.svGetValue_svOpenFile_print ((ShvarFile.valid_svOpenFile onDisk).run calls) key
  · rename_i unmodified
    rw [ShvarFile.run_of_unmodified (Bool.eq_false_iff.mpr unmodified)]

/-- However often a file is opened, changed and written, it has the values of a map that the calls
change one after the other. -/
theorem sessions_assign (sign : CharSign) (onDisk : List UInt8) (sessions : List (List Call))
    (key : List UInt8) :
    (svOpenFile (sessions.foldl (session sign) onDisk)).svGetValue key =
      sessions.flatten.foldl (Call.assign key) ((svOpenFile onDisk).svGetValue key) := by
  induction sessions generalizing onDisk with
  | nil => rfl
  | cons calls sessions ih => rw [foldl_cons, ih, svGetValue_session, flatten_cons, foldl_append]

end NetworkManager.Shvar
