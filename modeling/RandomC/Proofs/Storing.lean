import Mathlib.Data.List.Basic
import RandomC.CommandLine.Parser
import RandomC.Proofs.Numerals
import RandomC.Proofs.Results

/-!
# Storing values

A number can be stored unless it has too many digits, words can be stored unless a percent sign stands alone in
them, and a switch can always be stored.  Values are stored one after the other, and the first one that cannot be
stored ends this.
-/

namespace RandomC

/-! ## Texts without a character -/

namespace Text

theorem pieces_of_absent {c : Char} {rest cs : List Char} (absent : c ∉ cs) (piece : List Char) :
    pieces (c :: rest) 0 piece cs = [piece.reverse ++ cs] := by
  induction cs generalizing piece with
  | nil => simp [pieces]
  | cons other tail ih =>
      have apart : c ≠ other := fun same => absent (same ▸ List.mem_cons_self)
      have later : c ∉ tail := fun member => absent (List.mem_cons_of_mem _ member)
      simp [pieces, List.isPrefixOf, apart, ih later]

/-- Nothing is replaced in a text without the character that the pattern begins with. -/
theorem replace_of_absent {c : Char} {rest : List Char} {pattern text : String} (starts : pattern.toList = c :: rest)
    (absent : c ∉ text.toList) (replacement : String) : replace pattern replacement text = text := by
  rw [replace, starts, pieces_of_absent absent]
  simp [List.intercalate]

end Text

/-! ## Values that can be stored -/

namespace Ini

theorem dropReferences_of_absent {cs : List Char} (absent : '%' ∉ cs) : dropReferences 0 cs = cs := by
  induction cs with
  | nil => rfl
  | cons c rest ih =>
      have apart : c ≠ '%' := fun same => absent (same ▸ List.mem_cons_self)
      have later : '%' ∉ rest := fun member => absent (List.mem_cons_of_mem _ member)
      have none : reference? (c :: rest) = none := by
        unfold reference?
        split <;> simp_all
      simp [dropReferences, none, ih later]

theorem storable_of_absent {value : String} (absent : '%' ∉ value.toList) : storable value = .ok value := by
  have same : Text.replace "%%" "" value = value := Text.replace_of_absent rfl absent ""
  simp only [storable, same, dropReferences_of_absent absent]
  simpa using absent

/-- What is stored is the value itself. -/
theorem storable_eq (value : String) :
    storable value = .ok value ∨ ∃ position, storable value = .error (.unstorable value position) := by
  unfold storable
  dsimp only
  split
  · exact .inr ⟨_, rfl⟩
  · exact .inl rfl

end Ini

namespace Settings

/-- What keeps a value from being stored. -/
def Value.obstacle? : Value → Option Problem
  | .number amount => if Text.hasDecimalText amount then none else some .unwritableNumber
  | .flag _ => none
  | .words text =>
    match Ini.storable text with
    | .ok _ => none
    | .error error => some (.ini error)

theorem percent_toString (number : Int) : '%' ∉ (toString number).toList := by
  intro member
  rcases Text.mem_toString_int member with same | digit
  · cases same
  · cases digit

/-- A value is put into the document unless something keeps it from being stored. -/
theorem Value.store_eq (group key : String) (value : Value) (document : Ini.Document) :
    value.store group key document =
      match value.obstacle? with
      | some problem => .error problem
      | none => .ok (document.put group key value.text) := by
  have put {text : String} (same : Ini.storable text = .ok text) :
      (document.store group key text).mapError Problem.ini = .ok (document.put group key text) := by
    rw [Ini.Document.store, same]
    rfl
  cases value with
  | number amount =>
      have stored := put (Ini.storable_of_absent (percent_toString amount))
      unfold Value.store Value.obstacle?
      dsimp only
      generalize Text.hasDecimalText amount = writable
      cases writable with
      | false => rfl
      | true => exact stored
  | flag isOn =>
      have absent : '%' ∉ (Value.text (.flag isOn)).toList := by cases isOn <;> decide
      have stored := put (Ini.storable_of_absent absent)
      unfold Value.store Value.obstacle?
      exact stored
  | words text =>
      unfold Value.store Value.obstacle?
      dsimp only
      rcases Ini.storable_eq text with same | ⟨position, failed⟩
      · rw [same]
        exact put same
      · rw [failed, Ini.Document.store, Value.text, failed]
        rfl

/-- A value with the group and the key under which it is stored. -/
abbrev Row := String × String × Value

namespace Row

/-- The document with the value of a row in its place. -/
def put (document : Ini.Document) (row : Row) : Ini.Document := document.put row.1 row.2.1 row.2.2.text

/-- What keeps rows from being stored: the obstacle of the first one that has one. -/
def obstacleIn? (rows : List Row) : Option Problem := rows.findSome? fun row => row.2.2.obstacle?

/-- Rows are stored one after the other until one of them cannot be stored. -/
theorem foldlM_store (rows : List Row) (document : Ini.Document) :
    rows.foldlM (fun document row => row.2.2.store row.1 row.2.1 document) document =
      match obstacleIn? rows with
      | some problem => .error problem
      | none => .ok (rows.foldl put document) := by
  induction rows generalizing document with
  | nil => rfl
  | cons row rest ih =>
      rw [List.foldlM_cons, Value.store_eq, obstacleIn?, List.findSome?_cons]
      cases row.2.2.obstacle? with
      | some problem => rfl
      | none => exact ih _

end Row

/-! ## Settings and options -/

/-- The rows of the document in which settings are stored. -/
def rows (settings : Settings) : List Row :=
  table.map fun setting => (setting.group.name, setting.key, setting.get settings)

theorem toDocument_eq (settings : Settings) :
    settings.toDocument =
      match Row.obstacleIn? settings.rows with
      | some problem => .error problem
      | none => .ok (settings.rows.foldl Row.put .empty) := by
  rw [← Row.foldlM_store, rows, List.foldlM_map, toDocument]

theorem fileText_eq (settings : Settings) :
    settings.fileText =
      match Row.obstacleIn? settings.rows with
      | some problem => .error problem
      | none => .ok ("# cfuzz configuration file\n\n" ++ (settings.rows.foldl Row.put .empty).text) := by
  rw [fileText, toDocument_eq]
  cases Row.obstacleIn? settings.rows <;> rfl

/-- The only words among the settings are the path of the descriptor. -/
theorem get_words {settings : Settings} :
    ∀ setting ∈ table, ∀ text, setting.get settings = .words text → settings.platformInfo = text := by
  simp only [table, List.forall_mem_cons, Setting.get, Value.words.injEq, reduceCtorEq, false_implies, implies_true,
    true_and, imp_self, List.not_mem_nil]

theorem platformInfo_mem_rows (settings : Settings) :
    ("general", "platform_info", .words settings.platformInfo) ∈ settings.rows := by
  simp [rows, table, Setting.get, Group.name]

theorem Value.obstacle?_number {number : Int} :
    (Value.number number).obstacle? = none ↔ Text.hasDecimalText number := by
  unfold Value.obstacle?
  dsimp only
  generalize Text.hasDecimalText number = writable
  cases writable <;> simp

theorem Value.obstacle?_words {text : String} :
    (Value.words text).obstacle? = none ↔ (Ini.storable text).isOk := by
  unfold Value.obstacle?
  dsimp only
  cases Ini.storable text <;> simp [Except.isOk, Except.toBool]

/-- A value cannot be stored if it is a number with too many digits, or words with a lone percent sign. -/
theorem Value.obstacle?_ne_none {value : Value} :
    value.obstacle? ≠ none ↔
      (∃ number, value = .number number ∧ ¬ Text.hasDecimalText number) ∨
        ∃ text error, value = .words text ∧ Ini.storable text = .error error := by
  cases value with
  | number number => simp [obstacle?_number]
  | flag isOn => simp [obstacle?]
  | words text =>
      rw [ne_eq, obstacle?_words]
      cases stores : Ini.storable text <;> simp [Except.isOk, Except.toBool, stores]

/-- Settings can be stored if and only if all numbers and the path of the descriptor can. -/
theorem obstacleIn?_rows {settings : Settings} :
    Row.obstacleIn? settings.rows = none ↔
      (∀ setting ∈ table, ∀ number, setting.get settings = .number number → Text.hasDecimalText number) ∧
        (Ini.storable settings.platformInfo).isOk := by
  rw [Row.obstacleIn?, List.findSome?_eq_none_iff]
  constructor
  · intro free
    constructor
    · intro setting member number same
      have here := free _ (List.mem_map_of_mem member)
      dsimp only at here
      rwa [same, Value.obstacle?_number] at here
    · have here := free _ settings.platformInfo_mem_rows
      dsimp only at here
      rwa [Value.obstacle?_words] at here
  · rintro ⟨numbers, words⟩ row present
    obtain ⟨setting, member, rfl⟩ := List.mem_map.mp present
    dsimp only
    cases value : setting.get settings with
    | number number => exact Value.obstacle?_number.mpr (numbers setting member number value)
    | flag isOn => rfl
    | words text => exact Value.obstacle?_words.mpr (get_words setting member text value ▸ words)

end Settings

/-- The rows of the document in which recorded values are stored. -/
def CommandLine.Values.rows (values : Values) : List Settings.Row :=
  keyGroups.filterMap fun (key, group) => (values.lookup key).map (group, key, ·)

theorem CommandLine.Values.toDocument_eq (values : Values) :
    values.toDocument =
      match Settings.Row.obstacleIn? values.rows with
      | some problem => .error problem
      | none => .ok (values.rows.foldl Settings.Row.put .empty) := by
  rw [← Settings.Row.foldlM_store, rows, List.foldlM_filterMap, toDocument]
  generalize keyGroups = list
  congr
  funext document ⟨key, group⟩
  dsimp only
  cases values.lookup key <;> rfl

/-- Recorded values can be stored if and only if each of them can. -/
theorem CommandLine.Values.obstacleIn?_rows {values : Values} :
    Settings.Row.obstacleIn? values.rows = none ↔
      ∀ place ∈ keyGroups, ∀ value, values.lookup place.1 = some value → value.obstacle? = none := by
  rw [Settings.Row.obstacleIn?, List.findSome?_eq_none_iff]
  constructor
  · intro free place member value found
    have made : (values.lookup place.1).map (place.2, place.1, ·) = some (place.2, place.1, value) := by
      rw [found]
      rfl
    have here := free (place.2, place.1, value) (List.mem_filterMap.mpr ⟨place, member, made⟩)
    exact here
  · intro free row present
    obtain ⟨place, member, made⟩ := List.mem_filterMap.mp present
    obtain ⟨value, found, rfl⟩ := Option.map_eq_some_iff.mp made
    exact free place member value found

theorem CommandLine.Values.exists_problem {values : Values} :
    (∃ problem, values.toDocument = .error problem) ↔ Settings.Row.obstacleIn? values.rows ≠ none := by
  rw [toDocument_eq]
  cases Settings.Row.obstacleIn? values.rows <;> simp

end RandomC
