import RandomC.Proofs.Storing
import RandomC.Proofs.Trees

/-!
# Writing settings

The file for settings is emptied before the settings are stored.  Where they cannot be stored, what the file had held
is lost.
-/

namespace RandomC

open Files (Content FileError FileTree)

namespace Files.FileTree

variable (tree : FileTree) (path text : String)

theorem bind_apply {α β : Type} (action : StateM FileTree α) (next : α → StateM FileTree β) :
    (action >>= next) tree = next (action tree).1 (action tree).2 := rfl

theorem system_write :
    system.write path text tree =
      match tree.write path text with
      | .ok written => (.ok (), written)
      | .error failure => (.error failure, tree) := by
  have written : system.write path text tree = (match tree.write path text with
      | .ok tree => do
        set tree
        return .ok ()
      | .error failure => return .error failure : StateM FileTree (Except FileError Unit)) tree := rfl
  rw [written]
  cases tree.write path text <;> rfl

end Files.FileTree

/-- The document in a file that was read. -/
def documentOf (path : String) : Except FileError Content → Except Problem Ini.Document
  | .error _ => .ok .empty
  | .ok content =>
    let lines := content.lineByLine
    match Ini.read path lines.text, lines.error with
    | .error error, _ => .error (.ini error)
    | .ok _, some error => .error (.encoding error)
    | .ok reading, none => (reading.finish path).mapError .ini

theorem readDocument_eq {m : Type → Type} [Monad m] [LawfulMonad m] (files : Files.FileSystem m) (path : String) :
    readDocument files path = documentOf path <$> files.read path := by
  rw [readDocument, map_eq_pure_bind]
  refine bind_congr fun found => ?_
  cases found with
  | error failure => rfl
  | ok content =>
      dsimp only [documentOf]
      cases Ini.read path content.lineByLine.text with
      | error error => rfl
      | ok reading => cases content.lineByLine.error <;> rfl

section

variable (tree : FileTree) (directories : HomeDirectories) (file : ConfigFile) (given : List (String × Settings.Value))
  (path : String) (settings : Settings)

theorem readDocument_tree :
    readDocument FileTree.system path tree = (documentOf path (tree.read path), tree) := by
  rw [readDocument_eq]
  rfl

/-- The settings that a call makes of a document and the values given for some keys. -/
def configuredFrom (document : Ini.Document) : Except Problem Configured :=
  (Settings.load document).map fun loaded => ⟨loaded.override given, document, some path⟩

/-- What a call that writes settings is about to write, and where. -/
def toWrite : Except Problem (String × Configured) :=
  match configPath directories file.name file.directory with
  | .error error => .error (.config error)
  | .ok path =>
    let document := if file.read then documentOf path (tree.read path) else .ok .empty
    (document.bind (configuredFrom given path)).map (path, ·)

theorem writeSettings_tree :
    writeSettings FileTree.system path settings tree =
      match tree.write (Files.plainPath path) "" with
      | .error failure => (.error (.file failure), tree)
      | .ok emptied =>
        match settings.fileText with
        | .error problem => (.error problem, emptied)
        | .ok text =>
          match emptied.write (Files.plainPath path) text with
          | .ok written => (.ok (), written)
          | .error failure => (.error (.file failure), emptied) := by
  rw [writeSettings, FileTree.bind_apply, FileTree.system_write]
  cases tree.write (Files.plainPath path) "" with
  | error failure => rfl
  | ok emptied =>
      dsimp only
      cases settings.fileText with
      | error problem => rfl
      | ok text =>
          dsimp only
          rw [FileTree.bind_apply, FileTree.system_write]
          cases emptied.write (Files.plainPath path) text <;> rfl

theorem settle_eq (document : Ini.Document) :
    (do return ⟨(← Settings.load document).override given, document, some path⟩ : Except Problem Configured) =
      configuredFrom given path document := by
  rw [configuredFrom]
  cases Settings.load document <;> rfl

/-- A call that only reads settings changes no file. -/
theorem configure_reading {path : String} (reads : file.read = true) (noWriting : file.write = false)
    (settles : configPath directories file.name file.directory = .ok path) :
    configure FileTree.system directories file given tree =
      (("", (documentOf path (tree.read path)).bind (configuredFrom given path)), tree) := by
  unfold configure
  rw [reads, noWriting, settles]
  simp only [settle_eq, Bool.not_true, Bool.not_false, Bool.false_and, Bool.false_eq_true, if_false, if_true]
  rw [FileTree.bind_apply, readDocument_tree]
  dsimp only
  cases (documentOf path (tree.read path)).bind (configuredFrom given path) <;> rfl

/-- The rest of a call that writes settings, once the document has been read. -/
theorem configure_rest (document : Except Problem Ini.Document) :
    (match document.bind fun document => configuredFrom given path document with
      | .error problem => pure ("", .error problem)
      | .ok configured => do
        let written ← writeSettings FileTree.system path configured.settings
        pure (writingNotice path, written.map fun () => configured) :
          StateM FileTree (String × Except Problem Configured)) tree =
      match (document.bind (configuredFrom given path)).map (path, ·) with
      | .error problem => (("", .error problem), tree)
      | .ok (path, configured) =>
        ((writingNotice path, (writeSettings FileTree.system path configured.settings tree).1.map fun () => configured),
          (writeSettings FileTree.system path configured.settings tree).2) := by
  generalize document.bind (configuredFrom given path) = made
  cases made with
  | error problem => rfl
  | ok configured => exact FileTree.bind_apply tree _ _

theorem configure_tree (writes : file.write = true) :
    configure FileTree.system directories file given tree =
      match toWrite tree directories file given with
      | .error problem => (("", .error problem), tree)
      | .ok (path, configured) =>
        ((writingNotice path, (writeSettings FileTree.system path configured.settings tree).1.map fun () => configured),
          (writeSettings FileTree.system path configured.settings tree).2) := by
  have asked : (! file.read && ! file.write) = false := by simp [writes]
  unfold configure toWrite
  rw [asked]
  simp only [settle_eq, writes, Bool.not_true, Bool.false_eq_true, if_false]
  cases configPath directories file.name file.directory with
  | error error => rfl
  | ok path =>
      cases file.read with
      | false =>
          simp only [Bool.false_eq_true, if_false, pure_bind]
          exact configure_rest tree given path (.ok .empty)
      | true =>
          simp only [if_true]
          rw [FileTree.bind_apply, readDocument_tree]
          exact configure_rest tree given path (documentOf path (tree.read path))

/-- What a call that writes settings leaves behind.  A problem that is met before the file is opened changes no
file, and neither does a file that cannot be opened.  The file is emptied when it is opened, before the settings are
stored: it has lost its content if one of them cannot be stored, and has the text of the settings if all can.  The
other files stay as they are.

Settings cannot be stored if one of the numbers has too many digits, or if a percent sign stands alone in the path of
the descriptor. -/
theorem failed_storing_empties_file (writes : file.write = true) :
    let outcome := configure FileTree.system directories file given tree
    (match toWrite tree directories file given with
      | .error problem => outcome = (("", .error problem), tree)
      | .ok (path, configured) =>
        outcome.1.1 = writingNotice path ∧
          match tree.write (Files.plainPath path) "", configured.settings.fileText with
          | .error failure, _ => outcome.1.2 = .error (.file failure) ∧ outcome.2 = tree
          | .ok _, .error problem =>
            outcome.1.2 = .error problem ∧ tree.Overwritten outcome.2 (Files.plainPath path) ""
          | .ok _, .ok text =>
            outcome.1.2 = .ok configured ∧ tree.Overwritten outcome.2 (Files.plainPath path) text) ∧
      ∀ settings : Settings, (∃ problem, settings.fileText = .error problem) ↔
        (∃ setting ∈ Settings.table, ∃ number,
            setting.get settings = .number number ∧ ¬ Text.hasDecimalText number) ∨
          ∃ error, Ini.storable settings.platformInfo = .error error := by
  constructor
  · rw [configure_tree tree directories file given writes]
    cases toWrite tree directories file given with
    | error problem => rfl
    | ok target =>
        obtain ⟨path, configured⟩ := target
        dsimp only
        rw [writeSettings_tree]
        refine ⟨rfl, ?_⟩
        cases opened : tree.write (Files.plainPath path) "" with
        | error failure => exact ⟨rfl, rfl⟩
        | ok emptied =>
            dsimp only
            cases configured.settings.fileText with
            | error problem => exact ⟨rfl, FileTree.overwritten opened⟩
            | ok text =>
                obtain ⟨last, again, written⟩ := FileTree.write_again opened text
                dsimp only
                rw [again]
                exact ⟨rfl, FileTree.overwritten written⟩
  · intro settings
    have failed : (∃ problem, settings.fileText = .error problem) ↔
        ¬ Settings.Row.obstacleIn? settings.rows = none := by
      rw [Settings.fileText_eq]
      cases Settings.Row.obstacleIn? settings.rows <;> simp
    rw [failed, Settings.obstacleIn?_rows, not_and_or]
    refine or_congr (by push Not; rfl) ?_
    cases Ini.storable settings.platformInfo <;> simp [Except.isOk, Except.toBool]

end

/-- A call writes settings into the file `c.conf`. -/
def writingFile : ConfigFile := ⟨some "c.conf", some "", false, true⟩

/-- The file `c.conf` has a content. -/
def filledTree : FileTree := ⟨[(["c.conf"], .text "[limits]\nmax_funcs = 3\n")]⟩

/-- A percent sign stands alone in the path of the descriptor. -/
def lonePercent : List (String × Settings.Value) := [("platform_info", .words "50%")]

/-- The settings cannot be stored, and the file is empty. -/
theorem failed_storing_empties_file_small :
    writingFile.write = true ∧
      ∃ path configured problem, toWrite filledTree ⟨none, none⟩ writingFile lonePercent = .ok (path, configured) ∧
        configured.settings.fileText = .error problem ∧
        (configure FileTree.system ⟨none, none⟩ writingFile lonePercent filledTree).1.2 = .error problem ∧
        (configure FileTree.system ⟨none, none⟩ writingFile lonePercent filledTree).2.file? ["c.conf"] =
          some (.text "") := by
  have ends := (failed_storing_empties_file filledTree ⟨none, none⟩ writingFile lonePercent rfl).1
  have fits : (toWrite filledTree ⟨none, none⟩ writingFile lonePercent).toOption.any fun target =>
      ! target.2.settings.fileText.isOk && (filledTree.write (Files.plainPath target.1) "").isOk &&
        (filledTree.locate (Files.plainPath target.1)).toOption == some (.inside ["c.conf"]) := by
    decide +kernel
  obtain ⟨⟨path, configured⟩, made, fits⟩ := exists_of_toOption_any fits
  simp only [Bool.and_eq_true, Bool.not_eq_true', beq_iff_eq] at fits
  obtain ⟨⟨unstorable, opens⟩, leads⟩ := fits
  obtain ⟨problem, rendered⟩ := exists_of_not_isOk unstorable
  obtain ⟨emptied, opened⟩ := exists_of_isOk opens
  rw [made] at ends
  dsimp only at ends
  rw [opened, rendered] at ends
  obtain ⟨-, failed, overwritten⟩ := ends
  have changed := overwritten _ (eq_ok_of_toOption leads)
  exact ⟨rfl, path, configured, problem, made, rendered, failed, changed.1⟩

/-- The problem is that a value cannot be stored. -/
def Problem.isUnstorable : Problem → Bool
  | ini (.unstorable ..) | unwritableNumber => true
  | _ => false

/-- With a lone percent sign, the content of the file is lost. -/
theorem lone_percent_loses_content :
    ¬ ∀ (given : List (String × Settings.Value)) (tree : FileTree) (content : Content),
      let outcome := configure FileTree.system ⟨none, none⟩ writingFile given tree
      tree.file? ["c.conf"] = some content →
        (∃ problem, outcome.1.2 = .error problem ∧ problem.isUnstorable) →
          outcome.2.file? ["c.conf"] = some content := by
  intro kept
  have same := kept lonePercent filledTree (.text "[limits]\nmax_funcs = 3\n") (by decide)
  have lost : (match configure FileTree.system ⟨none, none⟩ writingFile lonePercent filledTree with
      | ((_, .error problem), after) => problem.isUnstorable && after.file? ["c.conf"] == some (.text "")
      | _ => false) = true := by
    decide +kernel
  generalize configure FileTree.system ⟨none, none⟩ writingFile lonePercent filledTree = outcome at same lost
  obtain ⟨⟨notice, problem | configured⟩, after⟩ := outcome
  · simp only [Bool.and_eq_true, beq_iff_eq] at lost
    have full := same ⟨problem, rfl, lost.1⟩
    rw [lost.2] at full
    revert full
    decide
  · cases lost

end RandomC
