import RandomC.Proofs.Documents
import RandomC.Proofs.Overriding
import RandomC.Proofs.Writing

/-!
# Layers of settings

Settings that have been written are read back as they were, unless one of the numbers cannot be written.  A value that
is given on a call stands above the stored one, and that above the default.
-/

namespace RandomC

open Files (Content FileError FileTree)

namespace Settings

/-! ## Values that are read as they are written -/

/-- Printable ASCII without percent signs, which neither begins nor ends with a blank. -/
def isPlainWords (text : String) : Bool :=
  text.toList.all (fun c => 0x20 ≤ c.toNat && c.toNat ≤ 0x7E && c != '%') &&
    text.toList.head? != some ' ' && text.toList.getLast? != some ' '

/-- The value is of the kind that the setting holds, and if it is words they are plain. -/
def Setting.takes (setting : Setting) (value : Value) : Bool :=
  match setting.access, value with
  | .number .., .number _ | .flag .., .flag _ => true
  | .words .., .words text => isPlainWords text
  | _, _ => false

variable {setting : Setting} {value : Value}

/-- What a setting can take. -/
theorem Setting.takes_cases (takes : setting.takes value) :
    (∃ get set number, setting.access = .number get set ∧ value = .number number) ∨
      (∃ get set isOn, setting.access = .flag get set ∧ value = .flag isOn) ∨
        ∃ get set text, setting.access = .words get set ∧ value = .words text ∧ isPlainWords text := by
  obtain ⟨group, key, access⟩ := setting
  cases access with
  | number get set =>
      cases value with
      | number number => exact .inl ⟨get, set, number, rfl, rfl⟩
      | _ => cases takes
  | flag get set =>
      cases value with
      | flag isOn => exact .inr (.inl ⟨get, set, isOn, rfl, rfl⟩)
      | _ => cases takes
  | words get set =>
      cases value with
      | words text => exact .inr (.inr ⟨get, set, text, rfl, rfl, takes⟩)
      | _ => cases takes

theorem Setting.holds_of_takes (takes : setting.takes value) : setting.Holds value := by
  rcases takes_cases takes with ⟨get, set, number, access, rfl⟩ | ⟨get, set, isOn, access, rfl⟩ |
    ⟨get, set, text, access, rfl, -⟩ <;> simp [Holds, access]

theorem plainValue_of_isPlainWords {text : String} (plain : isPlainWords text) : Ini.PlainValue text := by
  simp only [isPlainWords, Bool.and_eq_true, List.all_eq_true, decide_eq_true_eq, bne_iff_ne, ne_eq] at plain
  obtain ⟨⟨chars, start⟩, finish⟩ := plain
  have solid {c : Char} (member : c ∈ text.toList) (noSpace : c ≠ ' ') : Text.isBlank c = false := by
    obtain ⟨⟨least, most⟩, -⟩ := chars c member
    have apart : c.toNat ≠ 0x20 := fun same => noSpace (Char.toNat_inj.mp same)
    simp only [Text.isBlank, Bool.or_eq_false_iff, Bool.and_eq_false_iff, decide_eq_false_iff_not, beq_eq_false_iff_ne]
    omega
  refine ⟨fun member => ?_, fun member => ?_, fun member => ?_, fun c head => ?_, fun c last => ?_⟩
  · exact absurd (chars _ member).1.1 (by decide)
  · exact absurd (chars _ member).1.1 (by decide)
  · exact (chars _ member).2 rfl
  · exact solid (List.mem_of_head? head) fun same => start (same ▸ head)
  · exact solid (List.mem_of_getLast? last) fun same => finish (same ▸ last)

theorem plainValue_toString (number : Int) : Ini.PlainValue (toString number) := by
  have solid {c : Char} (member : c ∈ (toString number).toList) : Text.isBlank c = false := by
    rcases Text.mem_toString_int member with rfl | digit
    · decide
    · exact Ini.isBlank_of_isNameChar (by simp [Ini.isNameChar, digit])
  refine ⟨fun member => ?_, fun member => ?_, percent_toString number, fun c head => ?_, fun c last => ?_⟩
  · cases solid member
  · cases solid member
  · exact solid (List.mem_of_head? head)
  · exact solid (List.mem_of_getLast? last)

theorem plainValue_flag (isOn : Bool) : Ini.PlainValue (Value.flag isOn).text :=
  plainValue_of_isPlainWords (by cases isOn <;> decide)

theorem plainValue_text (takes : setting.takes value) : Ini.PlainValue value.text := by
  rcases Setting.takes_cases takes with ⟨-, -, number, -, rfl⟩ | ⟨-, -, isOn, -, rfl⟩ | ⟨-, -, text, -, rfl, plain⟩
  · exact plainValue_toString number
  · exact plainValue_flag isOn
  · exact plainValue_of_isPlainWords plain

theorem readSwitch?_text (isOn : Bool) : Ini.readSwitch? (Value.flag isOn).text = some isOn := by
  cases isOn <;> decide

/-- A value is read as it was written. -/
theorem stored_of_written {document : Ini.Document} (takes : setting.takes value) (plainKey : Ini.isPlainName setting.key)
    (writable : ∀ number, value = .number number → Text.hasDecimalText number)
    (written : document.written? setting.group.name setting.key = some value.text) :
    setting.stored document = .ok (some value) := by
  have plain := plainValue_text takes
  have found := Ini.Document.find_of_written written plainKey plain.noPercent
  unfold Setting.stored
  rcases Setting.takes_cases takes with ⟨get, set, number, access, rfl⟩ | ⟨get, set, isOn, access, rfl⟩ |
    ⟨get, set, text, access, rfl, -⟩
  · have read := Text.readInteger_toString (writable number rfl)
    have number : document.number setting.group.name setting.key = .ok (some number) := by
      rw [Ini.Document.number, found]
      simp only [bind, Except.bind, Value.text, read]
      rfl
    rw [access]
    dsimp only
    rw [number]
    rfl
  · have flag : document.flag setting.group.name setting.key = .ok (some isOn) := by
      rw [Ini.Document.flag, found]
      simp only [bind, Except.bind, readSwitch?_text]
      rfl
    rw [access]
    dsimp only
    rw [flag]
    rfl
  · have words : document.words setting.group.name setting.key = .ok (some text) := by
      rw [Ini.Document.words, found]
      exact congrArg (fun text => Except.ok (some text)) (Text.strip_of_trimmed plain.trimmed)
    rw [access]
    dsimp only
    rw [words]
    rfl

/-! ## Documents of rows -/

namespace Row

variable {rows : List Row} {row : Row}

theorem written?_foldl_of_absent {document : Ini.Document} {group key : String} (absent : key ∉ rows.map (·.2.1)) :
    (rows.foldl put document).written? group key = document.written? group key := by
  induction rows generalizing document with
  | nil => rfl
  | cons first rest ih =>
      rw [List.map_cons, List.mem_cons, not_or] at absent
      rw [List.foldl_cons, ih absent.2, put, Ini.Document.written?_put, if_neg fun both => absent.1 both.2]

/-- Where no key comes twice, each row has its value in the document. -/
theorem written?_foldl (document : Ini.Document) (once : (rows.map (·.2.1)).Nodup) (member : row ∈ rows) :
    (rows.foldl put document).written? row.1 row.2.1 = some row.2.2.text := by
  induction rows generalizing document with
  | nil => cases member
  | cons first rest ih =>
      rw [List.map_cons, List.nodup_cons] at once
      rw [List.foldl_cons]
      rcases List.mem_cons.mp member with rfl | later
      · rw [written?_foldl_of_absent once.1, put, Ini.Document.written?_put, if_pos ⟨rfl, rfl⟩]
      · exact ih _ once.2 later

/-- The names and the value of a row are read as they are written. -/
structure Plain (row : Row) : Prop where
  group : Ini.isPlainName row.1
  key : Ini.isPlainName row.2.1
  value : Ini.PlainValue row.2.2.text

theorem plain_foldl {document : Ini.Document} (plain : document.Plain) (plainRows : ∀ row ∈ rows, row.Plain) :
    (rows.foldl put document).Plain := by
  induction rows generalizing document with
  | nil => exact plain
  | cons first rest ih =>
      rw [List.forall_mem_cons] at plainRows
      obtain ⟨here, later⟩ := plainRows
      exact ih (plain.put here.group here.key here.value) later

end Row

/-! ## Settings that are read as they were written -/

/-- Each setting has a value that it takes. -/
def Plain (settings : Settings) : Prop := ∀ setting ∈ table, setting.takes (setting.get settings)

theorem plain_names : ∀ setting ∈ table, Ini.isPlainName setting.group.name ∧ Ini.isPlainName setting.key := by
  decide +kernel

/-- The document in which settings are stored, if they can be. -/
def document (settings : Settings) : Ini.Document := settings.rows.foldl Row.put .empty

variable {settings : Settings}

theorem Plain.document (plain : settings.Plain) : settings.document.Plain := by
  refine Row.plain_foldl .empty fun row member => ?_
  obtain ⟨setting, known, rfl⟩ := List.mem_map.mp member
  obtain ⟨group, key⟩ := plain_names setting known
  exact ⟨group, key, plainValue_text (plain setting known)⟩

theorem written?_document (member : setting ∈ table) :
    settings.document.written? setting.group.name setting.key = some (setting.get settings).text := by
  have once : (settings.rows.map (·.2.1)).Nodup := by
    rw [rows, List.map_map]
    exact nodup_keys
  have present : (setting.group.name, setting.key, setting.get settings) ∈ settings.rows := List.mem_map_of_mem member
  have found := Row.written?_foldl .empty once present
  exact found

/-- Settings whose numbers can be written are loaded as they were stored. -/
theorem Plain.load_document (plain : settings.Plain)
    (writable : ∀ setting ∈ table, ∀ number, setting.get settings = .number number → Text.hasDecimalText number) :
    ∃ loaded, load settings.document = .ok loaded ∧ ∀ setting ∈ table, setting.get loaded = setting.get settings := by
  refine get_load (fun setting member => ?_) fun setting member => Setting.holds_of_takes (plain setting member)
  exact stored_of_written (plain setting member) (plain_names setting member).2 (writable setting member)
    (written?_document member)

/-! ## Values that are given -/

/-- Values given for some of the settings, each one that its setting takes. -/
structure Offer (given : List (String × Value)) : Prop where
  once : (given.map Prod.fst).Nodup
  taken : ∀ entry ∈ given, ∃ setting ∈ table, setting.key = entry.1 ∧ setting.takes entry.2

variable {given : List (String × Value)}

theorem Offer.takes (offer : Offer given) (known : setting ∈ table) (member : (setting.key, value) ∈ given) :
    setting.takes value := by
  obtain ⟨other, also, same, takes⟩ := offer.taken _ member
  exact eq_of_key known also same ▸ takes

/-- A setting has the value given for it, or the one it had. -/
theorem Offer.get_override (offer : Offer given) (known : setting ∈ table) :
    setting.get (settings.override given) = (given.lookup setting.key).getD (setting.get settings) :=
  Settings.get_override offer.once
    (fun _ known _ member => Setting.holds_of_takes (offer.takes known member)) known settings

theorem plain_default : Plain {} := by
  unfold Plain
  decide +kernel

theorem Offer.plain_override (offer : Offer given) (plain : settings.Plain) : (settings.override given).Plain := by
  intro setting known
  rw [offer.get_override known]
  cases found : given.lookup setting.key with
  | none => exact plain setting known
  | some value => exact offer.takes known (mem_of_lookup found)

/-- The numbers among the values can be written. -/
def Writable (given : List (String × Value)) : Prop :=
  ∀ key number, (key, .number number) ∈ given → Text.hasDecimalText number

theorem writable_default : ∀ setting ∈ table, ∀ number, setting.get {} = .number number → Text.hasDecimalText number := by
  have short : ∀ setting ∈ table, ∀ number, setting.get {} = .number number → number.natAbs < 100 := by
    simp [table, Setting.get]
  exact fun setting known number same => Text.hasDecimalText_of_lt (short setting known number same)

theorem load_empty : load .empty = .ok {} := by rfl

/-- The numbers that a call is to store can be written if the values given for it can. -/
theorem Offer.writable_iff (offer : Offer given) :
    Writable given ↔
      ∀ setting ∈ table, ∀ number, setting.get (override given {}) = .number number → Text.hasDecimalText number := by
  constructor
  · intro writable setting known number same
    rw [offer.get_override known] at same
    cases found : given.lookup setting.key with
    | none =>
        rw [found] at same
        exact writable_default setting known number same
    | some value =>
        rw [found, Option.getD_some] at same
        exact writable setting.key number (same ▸ mem_of_lookup found)
  · intro writable key number member
    obtain ⟨setting, known, same, -⟩ := offer.taken _ member
    dsimp only at same
    subst same
    refine writable setting known number ?_
    rw [offer.get_override known, lookup_of_mem offer.once member, Option.getD_some]

/-- Only a number with too many digits keeps a value from being stored. -/
theorem obstacle?_of_takes (takes : setting.takes value) :
    value.obstacle? = none ∨ value.obstacle? = some .unwritableNumber := by
  have absent := (plainValue_text takes).noPercent
  cases value with
  | number number =>
      unfold Value.obstacle?
      dsimp only
      generalize Text.hasDecimalText number = writable
      cases writable with
      | true => exact .inl rfl
      | false => exact .inr rfl
  | flag isOn => exact .inl rfl
  | words text =>
      have stores : Ini.storable text = .ok text := Ini.storable_of_absent absent
      refine .inl (Value.obstacle?_words.mpr ?_)
      rw [stores]
      rfl

theorem Plain.obstacleIn? (plain : settings.Plain) :
    Row.obstacleIn? settings.rows = none ∨ Row.obstacleIn? settings.rows = some .unwritableNumber := by
  cases met : Row.obstacleIn? settings.rows with
  | none => exact .inl rfl
  | some problem =>
      obtain ⟨row, member, obstacle⟩ := List.exists_of_findSome?_eq_some met
      obtain ⟨setting, known, rfl⟩ := List.mem_map.mp member
      have only := obstacle?_of_takes (plain setting known)
      dsimp only at obstacle
      rw [obstacle] at only
      rcases only with none | same
      · cases none
      · exact .inr same

/-- Plain settings can be stored if all numbers can be written. -/
theorem Plain.fileText (plain : settings.Plain)
    (writable : ∀ setting ∈ table, ∀ number, setting.get settings = .number number → Text.hasDecimalText number) :
    settings.fileText = .ok ("# cfuzz configuration file\n\n" ++ settings.document.text) := by
  have free : Row.obstacleIn? settings.rows = none := by
    refine obstacleIn?_rows.mpr ⟨writable, ?_⟩
    obtain ⟨setting, known, same⟩ := List.mem_map.mp settings.platformInfo_mem_rows
    have value : setting.get settings = .words settings.platformInfo := (Prod.mk.inj (Prod.mk.inj same).2).2
    have takes := plain setting known
    rw [value] at takes
    have stores : Ini.storable settings.platformInfo = .ok settings.platformInfo :=
      Ini.storable_of_absent (plainValue_text takes).noPercent
    rw [stores]
    rfl
  rw [fileText_eq, free]
  rfl

/-- Plain settings with a number that cannot be written cannot be stored. -/
theorem Plain.fileText_error (plain : settings.Plain)
    (unwritable : ¬ ∀ setting ∈ table, ∀ number, setting.get settings = .number number → Text.hasDecimalText number) :
    settings.fileText = .error .unwritableNumber := by
  rw [fileText_eq]
  rcases plain.obstacleIn? with free | met
  · exact absurd (obstacleIn?_rows.mp free).1 unwritable
  · rw [met]

/-- Settings are the same if all of them have the same values. -/
theorem eq_of_get {one other : Settings} (same : ∀ setting ∈ table, setting.get one = setting.get other) : one = other := by
  cases one
  cases other
  simp only [table, List.forall_mem_cons, Setting.get, Value.number.injEq, Value.flag.injEq, Value.words.injEq,
    List.not_mem_nil, false_implies, implies_true, and_true] at same
  simpa only [Settings.mk.injEq] using same

end Settings

theorem documentOf_text {document : Ini.Document} (plain : document.Plain) (path : String) :
    documentOf path (.ok (.text ("# cfuzz configuration file\n\n" ++ document.text))) = .ok document := by
  have front : "# cfuzz configuration file\n\n" = "#" ++ " cfuzz configuration file" ++ "\n\n" := rfl
  obtain ⟨reading, read, finish⟩ := Ini.read_text plain (show '\n' ∉ " cfuzz configuration file".toList by decide)
  have noReturn : '\r' ∉ ("# cfuzz configuration file\n\n" ++ document.text).toList := by
    rw [String.toList_append, List.mem_append, not_or]
    exact ⟨by decide, plain.noReturn⟩
  rw [documentOf, Content.lineByLine, Text.normalizeLineEnds_of_absent noReturn]
  dsimp only
  rw [front, read]
  dsimp only
  rw [finish]
  rfl

/-! ## Two calls -/

section

variable {tree : FileTree} {directories : HomeDirectories} {file : ConfigFile} {given : List (String × Settings.Value)}
  {path : String} {way : List String}

/-- What a call does that writes the values given to it and the defaults. -/
theorem configure_writing (noReading : file.read = false) (writes : file.write = true)
    (settles : configPath directories file.name file.directory = .ok path)
    (target : tree.Writable (Files.plainPath path) way) :
    configure FileTree.system directories file given tree =
      match (Settings.override given {}).fileText with
      | .error problem => ((writingNotice path, .error problem), tree.put way (.text ""))
      | .ok text =>
        ((writingNotice path, .ok ⟨Settings.override given {}, .empty, some path⟩), tree.put way (.text text)) := by
  have made : toWrite tree directories file given = .ok (path, ⟨Settings.override given {}, .empty, some path⟩) := by
    rw [toWrite, settles, noReading]
    simp only [Bool.false_eq_true, if_false]
    rw [Except.bind, configuredFrom, Settings.load_empty]
    rfl
  rw [configure_tree tree directories file given writes, made]
  dsimp only
  rw [writeSettings_tree, target.write]
  dsimp only
  cases (Settings.override given {}).fileText with
  | error problem => rfl
  | ok text =>
      dsimp only
      rw [(target.put _).write, FileTree.put_put]
      rfl

end

/-- Settings are written with some values given, and read from the file with other values given.  A setting then has the
value given for reading, or else the one given for writing, or else the default.  If a number among those given for
writing has too many digits, the settings are not stored, and the file stays empty. -/
theorem written_settings_read_back {tree : FileTree} {directories : HomeDirectories} {writing reading : ConfigFile}
    {path back : String} {way : List String} {stored given : List (String × Settings.Value)}
    (writes : writing.read = false ∧ writing.write = true) (reads : reading.read = true ∧ reading.write = false)
    (settles : configPath directories writing.name writing.directory = .ok path)
    (settlesBack : configPath directories reading.name reading.directory = .ok back)
    (target : tree.Writable (Files.plainPath path) way) (source : tree.Writable back way)
    (storedOffer : Settings.Offer stored) (givenOffer : Settings.Offer given) :
    let outcome := configure FileTree.system directories writing stored tree
    (Settings.Writable stored →
      ∃ configured loaded, outcome.1 = (writingNotice path, .ok configured) ∧
        configure FileTree.system directories reading given outcome.2 = (("", .ok loaded), outcome.2) ∧
        loaded.settings = configured.settings.override given ∧
        ∀ setting ∈ Settings.table, setting.get loaded.settings =
          ((given.lookup setting.key).or (stored.lookup setting.key)).getD (setting.get {})) ∧
    (¬ Settings.Writable stored →
      outcome.1 = (writingNotice path, .error .unwritableNumber) ∧ outcome.2.file? way = some (.text "")) := by
  have plain := storedOffer.plain_override Settings.plain_default
  intro outcome
  have ends : outcome = _ := configure_writing writes.1 writes.2 settles target
  clear_value outcome
  constructor
  · intro writable
    have numbers := storedOffer.writable_iff.mp writable
    rw [plain.fileText numbers] at ends
    subst ends
    obtain ⟨loaded, loads, same⟩ := plain.load_document numbers
    obtain rfl := Settings.eq_of_get same
    rw [configure_reading _ _ _ _ reads.1 reads.2 settlesBack, source.read_put, documentOf_text plain.document, Except.bind,
      configuredFrom, loads]
    refine ⟨_, _, rfl, rfl, rfl, fun setting known => ?_⟩
    dsimp only
    rw [givenOffer.get_override known, storedOffer.get_override known]
    cases given.lookup setting.key <;> rfl
  · intro unwritable
    have numbers := mt storedOffer.writable_iff.mpr unwritable
    rw [plain.fileText_error numbers] at ends
    subst ends
    exact ⟨rfl, FileTree.file?_put_self ..⟩

/-- A call reads settings from the file `c.conf`. -/
def readingFile : ConfigFile := ⟨some "c.conf", some "", true, false⟩

theorem settles_writingFile : configPath ⟨none, none⟩ writingFile.name writingFile.directory = .ok "c.conf" := by
  have joined : Files.joinPath "" "c.conf" = "c.conf" := by decide +kernel
  exact congrArg Except.ok joined

theorem settles_readingFile : configPath ⟨none, none⟩ readingFile.name readingFile.directory = .ok "c.conf" :=
  settles_writingFile

theorem writable_empty : FileTree.empty.Writable "c.conf" ["c.conf"] := by
  constructor <;> decide +kernel

theorem writable_empty_plainPath : FileTree.empty.Writable (Files.plainPath "c.conf") ["c.conf"] := by
  have plain : Files.plainPath "c.conf" = "c.conf" := by decide +kernel
  rw [plain]
  exact writable_empty

/-- Values that are written: words with marks that mean something in a document, a number of many digits, and a
switch. -/
def awkwardValues : List (String × Settings.Value) :=
  [("platform_info", .words "#a = b: [c; d"), ("seed", .number (-18446744073709551617)), ("arrays", .flag false)]

/-- The words and the switch are read back, and another seed is given. -/
theorem written_settings_read_back_awkward :
    (writingFile.read = false ∧ writingFile.write = true) ∧ (readingFile.read = true ∧ readingFile.write = false) ∧
      FileTree.empty.Writable (Files.plainPath "c.conf") ["c.conf"] ∧ FileTree.empty.Writable "c.conf" ["c.conf"] ∧
      Settings.Offer awkwardValues ∧ Settings.Offer [("seed", .number 7)] ∧ Settings.Writable awkwardValues ∧
      ∃ loaded,
        (configure FileTree.system ⟨none, none⟩ readingFile [("seed", .number 7)]
          (configure FileTree.system ⟨none, none⟩ writingFile awkwardValues .empty).2).1 = ("", .ok loaded) ∧
        loaded.settings.platformInfo = "#a = b: [c; d" ∧ loaded.settings.seed = 7 ∧ loaded.settings.arrays = false ∧
        loaded.settings.unions = true := by
  have stored : Settings.Offer awkwardValues := by
    constructor <;> decide +kernel
  have given : Settings.Offer [("seed", .number 7)] := by
    constructor <;> decide +kernel
  have writable : Settings.Writable awkwardValues := by
    have all : awkwardValues.all fun entry => entry.2.obstacle?.isNone := by decide +kernel
    intro key number member
    have here := List.all_eq_true.mp all _ member
    exact Settings.Value.obstacle?_number.mp (Option.isNone_iff_eq_none.mp here)
  obtain ⟨configured, loaded, -, reads, -, values⟩ :=
    (written_settings_read_back ⟨rfl, rfl⟩ ⟨rfl, rfl⟩ settles_writingFile settles_readingFile writable_empty_plainPath
      writable_empty stored given).1 writable
  have value {key : String} {setting : Settings.Setting} (found : Settings.find? key = some setting) :=
    values setting (List.mem_of_find?_eq_some found)
  refine ⟨⟨rfl, rfl⟩, ⟨rfl, rfl⟩, writable_empty_plainPath, writable_empty, stored, given, writable, loaded,
    congrArg Prod.fst reads, ?_, ?_, ?_, ?_⟩
  · exact Settings.Value.words.inj (value (show Settings.find? "platform_info" = some _ from rfl))
  · exact Settings.Value.number.inj (value (show Settings.find? "seed" = some _ from rfl))
  · exact Settings.Value.flag.inj (value (show Settings.find? "arrays" = some _ from rfl))
  · exact Settings.Value.flag.inj (value (show Settings.find? "unions" = some _ from rfl))

/-- A seed that has too many digits is given. -/
def lengthySeed : List (String × Settings.Value) := [("seed", .number Text.decimalLimit)]

/-- The seed is not read back, since the file is empty. -/
theorem lengthy_seed_not_read_back :
    ¬ ∀ stored given : List (String × Settings.Value), Settings.Offer stored → Settings.Offer given →
      ∃ loaded,
        (configure FileTree.system ⟨none, none⟩ readingFile given
          (configure FileTree.system ⟨none, none⟩ writingFile stored .empty).2).1 = ("", .ok loaded) ∧
        ∀ setting ∈ Settings.table, setting.get loaded.settings =
          ((given.lookup setting.key).or (stored.lookup setting.key)).getD (setting.get {}) := by
  intro layered
  have stored : Settings.Offer lengthySeed := by
    constructor <;> decide +kernel
  have given : Settings.Offer [] := ⟨by simp, by simp⟩
  obtain ⟨loaded, reads, values⟩ := layered lengthySeed [] stored given
  have unwritable : ¬ Settings.Writable lengthySeed := fun writable => by
    have here : Text.hasDecimalText Text.decimalLimit := writable "seed" Text.decimalLimit List.mem_cons_self
    revert here
    decide +kernel
  have fails := (stored.plain_override Settings.plain_default).fileText_error (mt stored.writable_iff.mpr unwritable)
  have nothing : documentOf "c.conf" (.ok (.text "")) = .ok .empty := rfl
  rw [configure_writing rfl rfl settles_writingFile writable_empty_plainPath, fails,
    configure_reading _ _ _ _ rfl rfl settles_readingFile, writable_empty.read_put, nothing, Except.bind, configuredFrom,
    Settings.load_empty] at reads
  cases (Prod.mk.inj reads).2
  have found : Settings.find? "seed" = some _ := rfl
  have seed : (0 : Int) = Text.decimalLimit :=
    Settings.Value.number.inj (values _ (List.mem_of_find?_eq_some found))
  revert seed
  decide +kernel

end RandomC
