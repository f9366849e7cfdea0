import RandomC.Proofs.Association
import RandomC.Proofs.Plain

/-!
# Reading what was written

A document of plain names and values is read as it was written.  The reader is followed from line to line: each line
of the text adds to the groups that have been read what the line was written for.
-/

namespace RandomC.Ini

/-- Groups with their entries. -/
abbrev Groups := List (String × Entries)

/-! ## The state of the reader -/

/-- The groups that have been read, with the values as they are if nothing follows. -/
structure Reading.Has (reading : Reading) (groups : Groups) : Prop where
  same : reading.groups.map (fun group => (group.name, group.values)) = groups
  noneShared : reading.shared.values = []
  inGroups : reading.inShared = false
  wellFormed : reading.malformed = []

theorem Reading.Has.initial : Reading.initial.Has [] := ⟨rfl, rfl, rfl, rfl⟩

theorem Reading.Has.finish {reading : Reading} {groups : Groups} (has : reading.Has groups) (source : String) :
    reading.finish source = .ok ⟨[], groups⟩ := by
  rw [Reading.finish, has.wellFormed, has.noneShared, has.same]
  rfl

theorem Reading.Has.keys {reading : Reading} {groups : Groups} (has : reading.Has groups) :
    reading.groups.map (·.name) = groups.map Prod.fst := by
  rw [← has.same, List.map_map]
  rfl

theorem modify_last {α : Type} (list : List α) (last : α) (f : α → α) :
    (list ++ [last]).modify ((list ++ [last]).length - 1) f = list ++ [f last] := by
  have here : (list ++ [last]).modify list.length f = list ++ [f last] := by
    induction list with
    | nil => rfl
    | cons first rest ih => simp [ih]
  rwa [List.length_append, List.length_singleton, Nat.add_sub_cancel]

theorem map_modify_of_same {α β : Type} {f : α → α} {g : α → β} (same : ∀ element, g (f element) = g element)
    (place : Nat) (list : List α) : (list.modify place f).map g = list.map g := by
  induction list generalizing place with
  | nil => simp
  | cons first rest ih => cases place <;> simp [same, ih]

/-- The last group that has been read. -/
theorem Reading.Has.current {reading : Reading} {groups : Groups} {name : String} {entries : Entries}
    (has : reading.Has (groups ++ [(name, entries)])) :
    ∃ before group, reading.groups = before ++ [group] ∧ group.name = name ∧ group.values = entries ∧
      before.map (fun group => (group.name, group.values)) = groups := by
  obtain ⟨before, last, same, start, finish⟩ := List.map_eq_append_iff.mp has.same
  obtain ⟨group, rfl, made⟩ := List.map_eq_singleton_iff.mp finish
  obtain ⟨rfl, rfl⟩ := Prod.mk.inj made
  exact ⟨before, group, same, rfl, rfl, start⟩

theorem RawGroup.keys (group : RawGroup) : group.values.map Prod.fst = group.entries.map (·.key) := by
  rw [RawGroup.values, List.map_map]
  rfl

/-! ## Texts -/

/-- Having read the groups before, the reader has the groups after when it has come through the text. -/
def Reads (source text : String) (before after : Groups) : Prop :=
  ∀ (number : Nat) (reading : Reading) (rest : List Char), reading.Has before →
    ∃ (number' : Nat) (reading' : Reading), reading'.Has after ∧
      readLines source number (linesWithEnds [] (text.toList ++ rest)) reading =
        readLines source number' (linesWithEnds [] rest) reading'

variable {source : String} {groups : Groups}

theorem Reads.empty : Reads source "" groups groups :=
  fun number reading _ has => ⟨number, reading, has, rfl⟩

theorem Reads.append {first second : String} {before between after : Groups} (start : Reads source first before between)
    (finish : Reads source second between after) : Reads source (first ++ second) before after := by
  intro number reading rest has
  obtain ⟨number', reading', has', through⟩ := start number reading (second.toList ++ rest) has
  obtain ⟨number'', reading'', has'', further⟩ := finish number' reading' rest has'
  refine ⟨number'', reading'', has'', ?_⟩
  rw [String.toList_append, List.append_assoc, through, further]

theorem linesWithEnds_append {cs : List Char} (oneLine : '\n' ∉ cs) (line rest : List Char) :
    linesWithEnds line (cs ++ '\n' :: rest) =
      String.ofList (line.reverse ++ cs ++ ['\n']) :: linesWithEnds [] rest := by
  induction cs generalizing line with
  | nil => simp [linesWithEnds]
  | cons c tail ih =>
      have other : c ≠ '\n' := fun same => oneLine (same ▸ List.mem_cons_self)
      have step : linesWithEnds line (c :: (tail ++ '\n' :: rest)) = linesWithEnds (c :: line) (tail ++ '\n' :: rest) := by
        rw [linesWithEnds.eq_def]
        split
        · next same => cases same
        · next same => exact absurd (List.cons.inj same).1 other
        · next same =>
            obtain ⟨rfl, rfl⟩ := List.cons.inj same
            rfl
      rw [List.cons_append, step, ih fun member => oneLine (List.mem_cons_of_mem _ member)]
      simp

/-- A line is read in one step. -/
theorem Reads.line {line : String} {before after : Groups} (oneLine : '\n' ∉ line.toList)
    (step : ∀ (number : Nat) (reading : Reading), reading.Has before →
      ∃ reading', reading'.Has after ∧ readLine source number (line ++ "\n") reading = .ok reading') :
    Reads source (line ++ "\n") before after := by
  intro number reading rest has
  obtain ⟨reading', has', reads⟩ := step number reading has
  refine ⟨number + 1, reading', has', ?_⟩
  have split : linesWithEnds [] ((line ++ "\n").toList ++ rest) = (line ++ "\n") :: linesWithEnds [] rest := by
    have feed : (line ++ "\n").toList = line.toList ++ ['\n'] := by simp
    have lines := linesWithEnds_append oneLine [] rest
    rw [List.reverse_nil, List.nil_append, ← feed, String.ofList_toList] at lines
    rw [feed, List.append_assoc]
    exact lines
  rw [split, readLines, reads]
  rfl

/-! ## Lines -/

theorem stripEnd_blankLine (lines : List String) :
    Text.stripEnd ("\n".intercalate (lines ++ [""])) = Text.stripEnd ("\n".intercalate lines) := by
  cases lines with
  | nil => rfl
  | cons first rest =>
      rw [String.intercalate_append_of_ne_nil (by simp) (by simp), String.intercalate_singleton, String.append_empty,
        Text.stripEnd, String.toList_append]
      exact congrArg String.ofList (Text.trimEnd_concat (by decide) _)

/-- A line without content makes no difference to the value that it goes on with. -/
theorem Reading.Has.addBlank {reading : Reading} (has : reading.Has groups) : (reading.addLine "").Has groups := by
  have changed : reading.addLine "" =
      { reading with
        groups := reading.groups.modify (reading.groups.length - 1) fun group =>
          { group with
            entries := group.entries.modify (group.entries.length - 1) fun entry =>
              { entry with lines := entry.lines ++ [""] } } } := by
    rw [Reading.addLine, Reading.modifyCurrent, has.inGroups]
    rfl
  rw [changed]
  refine ⟨?_, has.noneShared, has.inGroups, has.wellFormed⟩
  rw [← has.same]
  refine map_modify_of_same ?_ _ _
  intro group
  refine Prod.ext rfl (map_modify_of_same ?_ _ _)
  intro entry
  exact Prod.ext rfl (stripEnd_blankLine entry.lines)

/-- A line without content makes no difference. -/
theorem reads_blank : Reads source "\n" groups groups := by
  have content : Text.trim ("" ++ "\n").toList = [] := by decide
  have reads : Reads source ("" ++ "\n") groups groups := by
    refine Reads.line (by simp) fun number reading has =>
      ⟨if reading.continuing then reading.addLine "" else reading, ?_, by rw [readLine, content]⟩
    split
    · exact has.addBlank
    · exact has
  rwa [String.empty_append] at reads

/-- A comment makes no difference. -/
theorem reads_comment {comment : String} (oneLine : '\n' ∉ comment.toList) :
    Reads source ("#" ++ comment ++ "\n") groups groups := by
  refine Reads.line (by simpa using oneLine) fun number reading has => ⟨reading, has, ?_⟩
  have content : Text.trim ("#" ++ comment ++ "\n").toList = '#' :: Text.trimEnd (comment.toList ++ ['\n']) := by
    have written : ("#" ++ comment ++ "\n").toList = '#' :: (comment.toList ++ ['\n']) := by simp
    rw [written, Text.trim_of_start (by simp; decide)]
    exact Text.trimEnd_append (by decide) [] _
  rw [readLine, content]
  rfl

/-- A line that neither is indented nor begins with a mark of a comment does not go on with a value. -/
theorem readLine_of_start {line : String} {c : Char} {rest : List Char} {number : Nat} {reading : Reading}
    (start : line.toList.head? = some c) (solid : Text.isBlank c = false) (content : Text.trim line.toList = c :: rest)
    (noComment : c ≠ '#' ∧ c ≠ ';') :
    readLine source number line reading = readEntry source number line { reading with indent := 0 } := by
  have notIndented : line.toList.takeWhile Text.isBlank = [] := by
    cases written : line.toList with
    | nil => rfl
    | cons first tail =>
        rw [written] at start
        cases start
        exact List.takeWhile_cons_of_neg (by simp [solid])
  rw [readLine, content, notIndented]
  split
  · next same => cases same
  · next same => exact absurd (List.cons.inj same).1 noComment.1
  · next same => exact absurd (List.cons.inj same).1 noComment.2
  · rw [List.length_nil, decide_eq_false (Nat.not_lt_zero _), Bool.and_false, if_neg Bool.false_ne_true]

/-! ### Headers -/

theorem headerName?_bracketed {cs : List Char} (notEmpty : cs ≠ []) :
    headerName? ('[' :: (cs ++ [']'])) = some (String.ofList cs) := by
  simp [headerName?, notEmpty]

theorem readEntry_header {line name : String} {number : Nat} {reading : Reading}
    (header : headerName? (Text.trim line.toList) = some name) (fresh : name ∉ reading.groups.map (·.name))
    (notShared : name ≠ sharedName) :
    readEntry source number line reading =
      .ok { reading with continuing := false, inShared := false, groups := reading.groups ++ [⟨name, []⟩] } := by
  have unknown : reading.groups.any (·.name == name) = false := by
    simpa using fresh
  rw [readEntry, header]
  dsimp only
  rw [unknown, if_neg Bool.false_ne_true, if_neg notShared]
  rfl

/-- A header begins a group. -/
theorem reads_header {name : String} (plain : isPlainName name) (fresh : name ∉ groups.map Prod.fst) :
    Reads source ("[" ++ name ++ "]" ++ "\n") groups (groups ++ [(name, [])]) := by
  obtain ⟨first, tail, written, -⟩ := exists_cons_of_isPlainName plain
  have oneLine : '\n' ∉ ("[" ++ name ++ "]").toList := by
    have inName : '\n' ∉ name.toList := fun member => by cases isNameChar_of_mem plain member
    simpa using inName
  have line : ("[" ++ name ++ "]" ++ "\n").toList = '[' :: (name.toList ++ [']', '\n']) := by simp
  have content : Text.trim ("[" ++ name ++ "]" ++ "\n").toList = '[' :: (name.toList ++ [']']) := by
    rw [line, Text.trim_of_start (by simp; decide)]
    exact Text.trimEnd_append (by decide) ('[' :: name.toList) ['\n']
  have notShared : name ≠ sharedName := by
    rintro rfl
    revert plain
    decide
  refine Reads.line oneLine fun number reading has => ?_
  have header : headerName? (Text.trim ("[" ++ name ++ "]" ++ "\n").toList) = some name := by
    rw [content, headerName?_bracketed (by simp [written]), String.ofList_toList]
  rw [readLine_of_start (by rw [line]; rfl) (by decide) content (by decide),
    readEntry_header header (has.keys ▸ fresh) notShared]
  refine ⟨_, ?_, rfl⟩
  refine ⟨?_, has.noneShared, rfl, has.wellFormed⟩
  rw [List.map_append, has.same]
  rfl

/-! ### Entries -/

theorem keyValue?_of_name {cs rest : List Char} (names : ∀ c ∈ cs, isNameChar c) :
    keyValue? (cs ++ ' ' :: '=' :: rest) = some (Text.lower (String.ofList cs), String.ofList (Text.trim rest)) := by
  have before : ∀ c ∈ cs ++ [' '], (! isDelimiter c) := by
    intro c member
    rcases List.mem_append.mp member with inName | space
    · simp [isDelimiter_of_isNameChar (names c inName)]
    · rw [List.mem_singleton.mp space]
      decide
  have start : cs ++ ' ' :: '=' :: rest = (cs ++ [' ']) ++ '=' :: rest := by simp
  have key : Text.trimEnd (cs ++ [' ']) = cs := by
    rw [Text.trimEnd_concat (by decide)]
    exact Text.trimEnd_of_finish fun c last => isBlank_of_isNameChar (names c (List.mem_of_getLast? last))
  rw [keyValue?, start, List.dropWhile_append_of_pos before, List.takeWhile_append_of_pos before,
    List.dropWhile_cons_of_neg (by decide), List.takeWhile_cons_of_neg (by decide), List.append_nil, key]

/-- What is read for a value is the value, without the blank before it and the line feed behind it. -/
theorem trim_written {cs : List Char} (trimmed : Text.Trimmed cs) :
    Text.trim (Text.trimEnd (' ' :: (cs ++ ['\n']))) = cs := by
  rw [← List.cons_append, Text.trimEnd_concat (by decide)]
  cases cs with
  | nil => decide
  | cons c rest =>
      rw [Text.trimEnd_of_finish (by simpa using trimmed.finish)]
      exact trimmed.trim

theorem readEntry_entry {line key value : String} {number : Nat} {reading : Reading} {group : RawGroup}
    (noHeader : headerName? (Text.trim line.toList) = none) (current : reading.current? = some group)
    (given : keyValue? (Text.trim line.toList) = some (key, value)) (notEmpty : key.isEmpty = false)
    (fresh : key ∉ group.entries.map (·.key)) :
    readEntry source number line reading = .ok (reading.addEntry key value) := by
  have unknown : group.entries.any (·.key == key) = false := by simpa using fresh
  rw [readEntry, noHeader, current, given]
  simp only [notEmpty, unknown, Bool.false_eq_true, if_false]
  rfl

theorem Reading.Has.atIndent {reading : Reading} (has : reading.Has groups) (indent : Nat) :
    Reading.Has { reading with indent } groups := ⟨has.same, has.noneShared, has.inGroups, has.wellFormed⟩

theorem Reading.Has.addEntry {reading : Reading} {name key value : String} {entries : Entries}
    (has : reading.Has (groups ++ [(name, entries)])) (stripped : Text.stripEnd value = value) :
    (reading.addEntry key value).Has (groups ++ [(name, entries ++ [(key, value)])]) := by
  obtain ⟨before, group, same, rfl, rfl, start⟩ := has.current
  have changed : reading.addEntry key value =
      { reading with
        groups := before ++ [{ group with entries := group.entries ++ [⟨key, [value]⟩] }]
        continuing := ! key.isEmpty } := by
    rw [Reading.addEntry, Reading.modifyCurrent, has.inGroups, if_neg Bool.false_ne_true, same, modify_last]
  have values : RawGroup.values { group with entries := group.entries ++ [⟨key, [value]⟩] } =
      group.values ++ [(key, value)] := by
    rw [RawGroup.values, List.map_append, List.map_singleton, String.intercalate_singleton, stripped]
    rfl
  rw [changed]
  refine ⟨?_, has.noneShared, has.inGroups, has.wellFormed⟩
  rw [List.map_append, start, List.map_singleton, values]

/-- A key gets its value. -/
theorem reads_entry {name key value : String} {entries : Entries} (plain : isPlainName key) (plainValue : PlainValue value)
    (fresh : key ∉ entries.map Prod.fst) :
    Reads source (key ++ " = " ++ value ++ "\n") (groups ++ [(name, entries)])
      (groups ++ [(name, entries ++ [(key, value)])]) := by
  obtain ⟨first, tail, written, isName⟩ := exists_cons_of_isPlainName plain
  have oneLine : '\n' ∉ (key ++ " = " ++ value).toList := by
    have inKey : '\n' ∉ key.toList := fun member => by cases isNameChar_of_mem plain member
    simpa [inKey] using plainValue.noLineFeed
  have line : (key ++ " = " ++ value ++ "\n").toList = key.toList ++ ' ' :: '=' :: ' ' :: (value.toList ++ ['\n']) := by
    simp
  have content : Text.trim (key ++ " = " ++ value ++ "\n").toList =
      key.toList ++ ' ' :: '=' :: Text.trimEnd (' ' :: (value.toList ++ ['\n'])) := by
    rw [line, Text.trim_of_start (by simp [written, isBlank_of_isNameChar isName])]
    have kept := Text.trimEnd_append (show Text.isBlank '=' = false by decide) (key.toList ++ [' '])
      (' ' :: (value.toList ++ ['\n']))
    simpa using kept
  have starts : Text.trim (key ++ " = " ++ value ++ "\n").toList =
      first :: (tail ++ ' ' :: '=' :: Text.trimEnd (' ' :: (value.toList ++ ['\n']))) := by
    rw [content, written, List.cons_append]
  have noHeader : headerName? (Text.trim (key ++ " = " ++ value ++ "\n").toList) = none := by
    rw [starts]
    unfold headerName?
    split
    · next same => cases (List.cons.inj same).1 ▸ isName
    · rfl
  have given : keyValue? (Text.trim (key ++ " = " ++ value ++ "\n").toList) = some (key, value) := by
    rw [content, keyValue?_of_name fun _ => isNameChar_of_mem plain, String.ofList_toList, lower_of_isPlainName plain,
      trim_written plainValue.trimmed, String.ofList_toList]
  have notEmpty : key.isEmpty = false := by
    cases empty : key.isEmpty with
    | false => rfl
    | true =>
        rw [String.isEmpty_iff.mp empty] at written
        cases written
  refine Reads.line oneLine fun number reading has => ?_
  obtain ⟨before, group, same, -, rfl, -⟩ := has.current
  have current : Reading.current? { reading with indent := 0 } = some group := by
    rw [Reading.current?, has.inGroups, same]
    simp
  rw [readLine_of_start (by simp [line, written]) (isBlank_of_isNameChar isName) starts
      ⟨ne_of_isNameChar isName (by decide), ne_of_isNameChar isName (by decide)⟩,
    readEntry_entry noHeader current given notEmpty (group.keys ▸ fresh)]
  exact ⟨_, (has.atIndent 0).addEntry (Text.stripEnd_of_trimmed plainValue.trimmed), rfl⟩

/-! ## Groups and documents -/

theorem entriesText_cons {key value : String} (oneLine : '\n' ∉ value.toList) (rest : Entries) :
    Document.entriesText ((key, value) :: rest) = key ++ " = " ++ value ++ "\n" ++ Document.entriesText rest := by
  have same : Text.replace "\n" "\n\t" value = value := Text.replace_of_absent rfl oneLine _
  rw [Document.entriesText, List.map_cons, String.join_cons]
  dsimp only
  rw [same]
  rfl

theorem reads_entries {name : String} {before entries : Entries} (plain : Entries.Plain (before ++ entries)) :
    Reads source (Document.entriesText entries) (groups ++ [(name, before)]) (groups ++ [(name, before ++ entries)]) := by
  induction entries generalizing before with
  | nil =>
      rw [List.append_nil]
      exact Reads.empty
  | cons entry rest ih =>
      obtain ⟨key, value⟩ := entry
      have member : (key, value) ∈ before ++ (key, value) :: rest := by simp
      have fresh : key ∉ before.map Prod.fst := fresh_of_nodup_keys plain.once
      have plainKey := plain.keys (key, value) member
      have plainValue := plain.values (key, value) member
      have here : Reads source (key ++ " = " ++ value ++ "\n") (groups ++ [(name, before)])
          (groups ++ [(name, before ++ [(key, value)])]) :=
        reads_entry plainKey plainValue fresh
      have shifted : before ++ (key, value) :: rest = before ++ [(key, value)] ++ rest := by simp
      rw [entriesText_cons plainValue.noLineFeed, shifted]
      exact here.append (ih (shifted ▸ plain))

/-- A group is read with its entries. -/
theorem reads_group {name : String} {entries : Entries} (plainName : isPlainName name) (plain : entries.Plain)
    (fresh : name ∉ groups.map Prod.fst) :
    Reads source (Document.groupText name entries) groups (groups ++ [(name, entries)]) := by
  have text : Document.groupText name entries =
      "[" ++ name ++ "]" ++ "\n" ++ Document.entriesText entries ++ "\n" := by
    have written : Document.groupText name entries =
        "[" ++ name ++ ("]" ++ "\n") ++ Document.entriesText entries ++ "\n" := rfl
    rw [written, ← String.append_assoc]
  rw [text]
  exact ((reads_header plainName fresh).append (reads_entries (List.nil_append entries ▸ plain))).append reads_blank

theorem reads_groups {before after : Groups} (names : ∀ group ∈ after, isPlainName group.1)
    (plain : ∀ group ∈ after, Entries.Plain group.2) (once : ((before ++ after).map Prod.fst).Nodup) :
    Reads source (String.join (after.map fun (name, entries) => Document.groupText name entries)) before
      (before ++ after) := by
  induction after generalizing before with
  | nil =>
      rw [List.append_nil]
      exact Reads.empty
  | cons group rest ih =>
      obtain ⟨name, entries⟩ := group
      rw [List.forall_mem_cons] at names plain
      have fresh : name ∉ before.map Prod.fst := fresh_of_nodup_keys once
      have shifted : before ++ (name, entries) :: rest = before ++ [(name, entries)] ++ rest := by simp
      rw [List.map_cons, String.join_cons, shifted]
      exact (reads_group names.1 plain.1 fresh).append (ih names.2 plain.2 (shifted ▸ once))

/-- A plain document is read as it was written, also with a comment in front. -/
theorem read_text {document : Document} (plain : document.Plain) {comment : String} (oneLine : '\n' ∉ comment.toList) :
    ∃ reading, Ini.read source ("#" ++ comment ++ "\n\n" ++ document.text) = .ok reading ∧
      reading.finish source = .ok document := by
  have body : Reads source document.text [] document.groups := by
    have text : document.text =
        String.join (document.groups.map fun (name, entries) => Document.groupText name entries) := by
      rw [Document.text, plain.noneShared]
      exact String.empty_append
    rw [text]
    exact reads_groups plain.names plain.entries plain.once
  have start : Reads source ("#" ++ comment ++ "\n" ++ "\n") [] [] := (reads_comment oneLine).append reads_blank
  obtain ⟨number, reading, has, reads⟩ := start.append body 1 .initial [] .initial
  have joined : "#" ++ comment ++ "\n\n" = "#" ++ comment ++ "\n" ++ "\n" := by
    have twice : "\n\n" = "\n" ++ "\n" := rfl
    rw [twice, ← String.append_assoc]
  refine ⟨reading, ?_, ?_⟩
  · rw [Ini.read, joined]
    rw [List.append_nil] at reads
    exact reads
  · rw [has.finish, ← plain.noneShared]

end RandomC.Ini
