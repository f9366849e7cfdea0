import Mathlib.Data.List.Basic
import RandomC.Generation.Program
import RandomC.Proofs.Names

/-!
# Sheets of items

The text of a program is put together from the entries of its sheet.  Every entry ends with a line end, so
the names of the text are those of its items, line by line, and the header brings none.
-/

namespace RandomC

/-- The content of an entry that is no empty line nor text that was laid out already. -/
def Text.Entry.content? {α : Type} : Text.Entry α → Option α
  | item _ content => some content
  | blank | raw _ => none

/-- What is written on a sheet. -/
def Text.Sheet.contents {α : Type} (sheet : Text.Sheet α) : List α :=
  sheet.entries.toList.filterMap Text.Entry.content?

section

variable {α : Type} {sheet : Text.Sheet α}

@[simp] theorem Text.Sheet.contents_empty : (Text.Sheet.empty : Text.Sheet α).contents = [] := rfl

@[simp] theorem Text.Sheet.contents_write {offset : Int} {content : α} :
    (sheet.write offset content).contents = sheet.contents ++ [content] := by
  simp [Text.Sheet.contents, Text.Entry.content?, Text.Sheet.write]

@[simp] theorem Text.Sheet.contents_blankLine : sheet.blankLine.contents = sheet.contents := by
  simp [Text.Sheet.contents, Text.Entry.content?, Text.Sheet.blankLine]

@[simp] theorem Text.Sheet.contents_writeRaw {text : String} :
    (sheet.writeRaw text).contents = sheet.contents := by
  simp [Text.Sheet.contents, Text.Entry.content?, Text.Sheet.writeRaw]

end

/-! ## Joined texts -/

theorem endsOpen_append {left right : String} (leftClosed : endsOpen left = false)
    (rightClosed : endsOpen right = false) : endsOpen (left ++ right) = false := by
  simp only [endsOpen, String.toList_append] at *
  rcases List.eq_nil_or_concat right.toList with none | ⟨start, last, some⟩
  · simpa [none] using leftClosed
  · rw [some] at rightClosed ⊢
    simpa using rightClosed

/-- The end of a text that is not empty decides. -/
theorem endsOpen_append_right {left right : String} (notEmpty : right ≠ "")
    (rightClosed : endsOpen right = false) : endsOpen (left ++ right) = false := by
  simp only [endsOpen, String.toList_append] at *
  rcases List.eq_nil_or_concat right.toList with none | ⟨start, last, some⟩
  · exact absurd (String.toList_eq_nil_iff.mp none) notEmpty
  · rw [some] at rightClosed ⊢
    simpa using rightClosed

/-- Texts of which no word runs into the next text may be put together. -/
theorem names_foldl_append {texts : List String} (closed : ∀ text ∈ texts, endsOpen text = false)
    {start : String} (startClosed : endsOpen start = false) :
    names (texts.foldl (· ++ ·) start) = names start ++ texts.flatMap names ∧
      endsOpen (texts.foldl (· ++ ·) start) = false := by
  induction texts generalizing start with
  | nil => simpa using startClosed
  | cons text rest ih =>
      have textClosed := closed text (by simp)
      have both := endsOpen_append startClosed textClosed
      have tail := ih (fun other member => closed other (List.mem_cons_of_mem _ member)) both
      rw [names_append_left startClosed, List.append_assoc] at tail
      exact tail

theorem names_join {texts : List String} (closed : ∀ text ∈ texts, endsOpen text = false) :
    names (String.join texts) = texts.flatMap names ∧ endsOpen (String.join texts) = false := by
  have joined := names_foldl_append closed (show endsOpen "" = false by decide)
  rwa [names_empty, List.nil_append] at joined

theorem endsOpen_line (text : String) : endsOpen (text ++ "\n") = false := by
  simp [endsOpen, isWordChar]

theorem names_indentedLine (level : Int) (text : String) :
    names (Text.indentedLine level text) = names text := by
  have lineEnd : names "\n" = [] := by decide
  rw [Text.indentedLine, names_append_right (by decide), lineEnd, List.append_nil, Text.indentation,
    names_replicate (by decide)]

/-- The names in the lines of an item. -/
def Item.names (item : Item) : List String := item.lines.flatMap fun line => RandomC.names line.text

theorem names_layout (level : Int) (item : Item) :
    names (item.layout level) = item.names ∧ endsOpen (item.layout level) = false := by
  have lines : ∀ text ∈ item.lines.map fun line => Text.indentedLine (level + line.level) line.text,
      endsOpen text = false := by
    intro text member
    obtain ⟨line, -, rfl⟩ := List.mem_map.mp member
    exact endsOpen_line _
  obtain ⟨written, closed⟩ := names_join lines
  refine ⟨?_, closed⟩
  rw [Item.layout, written, List.flatMap_map, Item.names]
  simp only [names_indentedLine]

/-- The entry ends with a line end, and if it is text that was laid out already, it contains no names. -/
def Quiet : Text.Entry Item → Prop
  | .item .. | .blank => True
  | .raw text => endsOpen text = false ∧ names text = []

/-- The names in the text of a sheet are those of its items, in order. -/
theorem names_sheet {sheet : Text.Sheet Item} (quiet : ∀ entry ∈ sheet.entries.toList, Quiet entry) :
    names (sheet.text Item.layout) = sheet.contents.flatMap Item.names := by
  have entry (entry : Text.Entry Item) (quiet : Quiet entry) :
      names (entry.text Item.layout) = entry.content?.toList.flatMap Item.names ∧
        endsOpen (entry.text Item.layout) = false := by
    cases entry with
    | item level content => simpa [Text.Entry.content?, Text.Entry.text] using names_layout level content
    | blank => exact ⟨names_eq_nil (by decide), by decide⟩
    | raw text => exact ⟨quiet.2, quiet.1⟩
  have closed : ∀ text ∈ sheet.entries.toList.map (Text.Entry.text Item.layout), endsOpen text = false := by
    intro text member
    obtain ⟨other, present, rfl⟩ := List.mem_map.mp member
    exact (entry other (quiet other present)).2
  rw [Text.Sheet.text, (names_join closed).1, List.flatMap_map, Text.Sheet.contents,
    List.filterMap_eq_flatMap_toList, List.flatMap_assoc]
  exact List.flatMap_congr fun other present => (entry other (quiet other present)).1

/-! ## The header -/

/-- The header with everything but the number filled in. -/
def unnumberedHeader : Text.Template :=
  (header.fill "generator" generatorName).fill "revision" generatorRevision

/-- What the header consists of around its two places for the number. -/
def headerPieces : List (List Char) :=
  Text.pieces (Text.Template.place "seed").toList 0 [] unnumberedHeader.chars

theorem text_fill (template : Text.Template) (name value : String) :
    (template.fill name value).text = String.ofList (value.toList.intercalate
      (Text.pieces (Text.Template.place name).toList 0 [] template.chars)) := rfl

theorem headerText_eq (seed : Int) :
    headerText seed = String.ofList ((toString seed).toList.intercalate headerPieces) := by
  rw [headerText, Text.Template.render, List.foldl_cons, List.foldl_cons, List.foldl_cons, List.foldl_nil,
    text_fill]
  rfl

/-- The lines of the header above those with the seed. -/
def headerStart : String :=
  "/*\n * This is a RANDOMLY GENERATED PROGRAM.\n *\n * Generator: csmith 2.3.0\n * Git version: 30dccd7\n"

/-- The lines of the header with the seed. -/
def seedLines (seed : Int) : String :=
  " * Options:   --seed " ++ toString seed ++ "\n * Seed:      " ++ toString seed ++ "\n"

/-- The lines of the header below those with the seed. -/
def headerEnd : String := " */\n\n#include \"csmith.h\"\n\nstatic long __undefined;\n"

theorem headerPieces_eq : headerPieces.map String.ofList =
    [headerStart ++ " * Options:   --seed ", "\n * Seed:      ", "\n" ++ headerEnd] := by
  decide +kernel

theorem headerPieces_length : headerPieces.length = 3 := by
  rw [← List.length_map, headerPieces_eq]
  rfl

/-- The seed is in two lines of the header. -/
theorem headerText_lines (seed : Int) : headerText seed = headerStart ++ seedLines seed ++ headerEnd := by
  have text := headerText_eq seed
  have written := headerPieces_eq
  have length := headerPieces_length
  generalize headerPieces = pieces at text written length
  obtain ⟨start, middle, rest, rfl⟩ := List.length_eq_three.mp length
  have joined : headerText seed = String.ofList start ++ (toString seed ++
      (String.ofList middle ++ (toString seed ++ String.ofList rest))) := by
    rw [text]
    simp [List.intercalate, String.ofList_append]
  simp only [List.map_cons, List.map_nil, List.cons.injEq, and_true] at written
  rw [joined, written.1, written.2.1, written.2.2]
  have regrouped (a b c d e number : String) :
      a ++ b ++ (number ++ (c ++ (number ++ (d ++ e)))) = a ++ (b ++ number ++ c ++ number ++ d) ++ e := by
    simp only [String.append_assoc]
  exact regrouped _ _ _ _ _ _

/-- A piece that contains no names, and with which no word runs into another piece. -/
def closedPiece (chars : List Char) : Bool :=
  ((chars.splitOnP (! isWordChar ·)).all fun word => (nameKind? word).isNone) &&
    chars.head?.any (! isWordChar ·) && chars.getLast?.any (! isWordChar ·)

theorem headerPieces_closed : headerPieces.length = 3 ∧ headerPieces.all closedPiece := by
  have closed : ∀ text ∈ headerPieces.map String.ofList, closedPiece text.toList := by
    rw [headerPieces_eq]
    decide +kernel
  refine ⟨headerPieces_length, List.all_eq_true.mpr fun piece member => ?_⟩
  simpa using closed _ (List.mem_map_of_mem member)

theorem closedPiece_quiet {chars : List Char} (closed : closedPiece chars) :
    names (String.ofList chars) = [] ∧ String.ofList chars ≠ "" ∧ startsOpen (String.ofList chars) = false ∧
      endsOpen (String.ofList chars) = false := by
  simp only [closedPiece, Bool.and_eq_true, List.all_eq_true] at closed
  rcases closed with ⟨⟨words, start⟩, last⟩
  refine ⟨?_, ?_, ?_, ?_⟩
  · rw [names_ofList, List.map_eq_nil_iff, List.filter_eq_nil_iff]
    intro word member
    have none := words word member
    simpa using none
  · intro empty
    rw [String.ofList_eq_empty_iff] at empty
    rw [empty] at start
    cases start
  · cases chars with
    | nil => rfl
    | cons c rest => simpa [startsOpen] using start
  · cases last_eq : chars.getLast? with
    | none =>
        rw [last_eq] at last
        cases last
    | some c =>
        rw [last_eq] at last
        simpa [endsOpen, last_eq] using last

/-- The header contains no names, and ends with a line end. -/
theorem headerText_quiet (seed : Int) : Quiet (.raw (headerText seed)) := by
  rcases headerPieces_closed with ⟨length, closed⟩
  rw [headerText_eq]
  generalize headerPieces = pieces at length closed
  match pieces, length with
  | [start, middle, rest], _ =>
      simp only [List.all_cons, List.all_nil, Bool.and_true, Bool.and_eq_true] at closed
      obtain ⟨startNames, -, -, startClosed⟩ := closedPiece_quiet closed.1
      obtain ⟨middleNames, middleSome, middleStart, middleClosed⟩ := closedPiece_quiet closed.2.1
      obtain ⟨restNames, restSome, restStart, restClosed⟩ := closedPiece_quiet closed.2.2
      have text : String.ofList ((toString seed).toList.intercalate [start, middle, rest]) =
          String.ofList start ++ (seed.repr ++ (String.ofList middle ++ (seed.repr ++ String.ofList rest))) := by
        simp [List.intercalate, String.ofList_append]
      constructor
      · rw [text, ← String.append_assoc, ← String.append_assoc, ← String.append_assoc]
        exact endsOpen_append_right restSome restClosed
      · rw [text, names_append_left startClosed, names_append_middle middleSome middleStart,
          names_append_left middleClosed, names_append_right restStart, names_int, startNames,
          middleNames, restNames]
        rfl

end RandomC
