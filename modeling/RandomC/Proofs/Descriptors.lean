import Mathlib.Data.String.Basic
import RandomC.Proofs.Writing
import RandomC.Settings.Prepare

/-!
# The sizes in a descriptor

A line of a descriptor gives a size when, without the white space around it, it begins as lines for that size begin.
Every such line has to be followed by an integer: the first line that is not ends the reading, whatever sizes the
settings have of their own.  Of the lines that give one size the last one counts.
-/

namespace RandomC

namespace Descriptor

variable {kind other : SizeKind} {line value : String} {lines rest : List String} {size : Int}
variable {descriptor found : Descriptor}

/-! ## Lines -/

/-- The line gives the size, and this is written behind its beginning. -/
def Gives (kind : SizeKind) (line value : String) : Prop := Text.strip line = kind.lineStart ++ value

instance : Decidable (Gives kind line value) := inferInstanceAs (Decidable (Text.strip line = kind.lineStart ++ value))

/-- The line gives the size as an integer. -/
def Sets (kind : SizeKind) (line : String) (size : Int) : Prop :=
  ∃ value, Gives kind line value ∧ Text.readInteger 10 (Text.strip value) = .ok size

/-- The line gives the size as something that is no integer. -/
def Misgives (kind : SizeKind) (line : String) : Prop :=
  ∃ value error, Gives kind line value ∧ Text.readInteger 10 (Text.strip value) = .error error

/-- The first of the lines with something that is no integer is about this size. -/
def FirstMisgiven (kind : SizeKind) (lines : List String) : Prop :=
  ∃ before line after, lines = before ++ line :: after ∧ Misgives kind line ∧
    ∀ earlier ∈ before, ∀ other, ¬ Misgives other earlier

/-- No line gives the size. -/
def NoneGives (kind : SizeKind) (lines : List String) : Prop := ∀ line ∈ lines, ∀ value, ¬ Gives kind line value

/-- What the lines give are integers. -/
def AllIntegers (lines : List String) : Prop := ∀ line ∈ lines, ∀ kind, ¬ Misgives kind line

/-- The last of the lines that give the size gives this integer. -/
def LastSets (kind : SizeKind) (lines : List String) (size : Int) : Prop :=
  ∃ before line after, lines = before ++ line :: after ∧ Sets kind line size ∧ NoneGives kind after

theorem rest?_eq_some {start behind : String} : rest? start line = some behind ↔ line = start ++ behind := by
  unfold rest?
  split
  · next starts =>
      obtain ⟨tail, same⟩ := String.startsWith_string_iff.mp starts
      rw [Option.some_inj, ← same, ← String.length_toList, List.drop_left, ← String.toList_inj,
        ← @String.toList_inj line, ← same, String.toList_append, List.append_cancel_left_eq,
        String.toList_ofList]
  · next starts =>
      refine ⟨nofun, fun same => absurd (String.startsWith_string_iff.mpr ?_) starts⟩
      rw [same, String.toList_append]
      exact List.prefix_append _ _

/-- The beginnings of the lines for two sizes have one length, so neither begins with the other. -/
theorem Gives.kind_unique {second : String} (gives : Gives kind line value) (also : Gives other line second) :
    other = kind := by
  have lengths : ∀ kind other : SizeKind, kind.lineStart.toList.length = other.lineStart.toList.length := by
    rintro (_ | _) (_ | _) <;> decide
  have distinct : ∀ kind other : SizeKind, kind.lineStart.toList = other.lineStart.toList → kind = other := by
    rintro (_ | _) (_ | _) <;> decide
  apply distinct
  apply List.append_inj_left _ (lengths other kind)
  · exact second.toList
  · exact value.toList
  · rw [← String.toList_append, ← String.toList_append, ← also, ← gives]

theorem Gives.value_unique {second : String} (gives : Gives kind line value) (also : Gives kind line second) :
    second = value := by
  have same : kind.lineStart ++ second = kind.lineStart ++ value := also.symm.trans gives
  rwa [← String.toList_inj, String.toList_append, String.toList_append, List.append_cancel_left_eq,
    String.toList_inj] at same

theorem readLine_eq_some : readLine line = some (kind, value) ↔ Gives kind line value := by
  have gives_iff (kind : SizeKind) (value : String) :
      Gives kind line value ↔ rest? kind.lineStart (Text.strip line) = some value := rest?_eq_some.symm
  unfold readLine
  dsimp only
  split
  · next integer begins =>
      have gives := (gives_iff .integer integer).mpr begins
      rw [Option.some_inj, Prod.mk.injEq]
      constructor
      · rintro ⟨rfl, rfl⟩
        exact gives
      · intro also
        cases gives.kind_unique also
        exact ⟨rfl, (gives.value_unique also).symm⟩
  · next begins =>
      cases kind with
      | integer => simp [gives_iff, begins]
      | pointer => simp [gives_iff]

theorem readLine_eq_none : readLine line = none ↔ ∀ kind value, ¬ Gives kind line value := by
  simp [Option.eq_none_iff_forall_ne_some, readLine_eq_some]

theorem Sets.kind_unique (sets : Sets kind line size) (gives : Gives other line value) : other = kind :=
  let ⟨_, given, _⟩ := sets
  given.kind_unique gives

theorem Sets.not_misgives (sets : Sets kind line size) : ¬ Misgives other line := by
  obtain ⟨value, gives, reads⟩ := sets
  rintro ⟨second, error, also, fails⟩
  cases gives.kind_unique also
  cases gives.value_unique also
  cases reads.symm.trans fails

theorem Sets.size_unique {second : Int} (sets : Sets kind line size) (also : Sets kind line second) :
    second = size := by
  obtain ⟨value, gives, reads⟩ := sets
  obtain ⟨same, givesSame, readsSame⟩ := also
  cases gives.value_unique givesSame
  cases reads.symm.trans readsSame
  rfl

theorem Misgives.kind_unique (misgives : Misgives kind line) (also : Misgives other line) : other = kind := by
  obtain ⟨value, error, gives, -⟩ := misgives
  obtain ⟨second, problem, given, -⟩ := also
  exact gives.kind_unique given

/-! ## Several lines -/

theorem firstMisgiven_cons : FirstMisgiven kind (line :: rest) ↔
    Misgives kind line ∨ (∀ other, ¬ Misgives other line) ∧ FirstMisgiven kind rest := by
  constructor
  · rintro ⟨before, wrong, after, same, misgives, right⟩
    cases before with
    | nil =>
        cases same
        exact .inl misgives
    | cons first before =>
        cases same
        obtain ⟨here, before'⟩ := List.forall_mem_cons.mp right
        exact .inr ⟨here, before, wrong, after, rfl, misgives, before'⟩
  · rintro (misgives | ⟨here, before, wrong, after, rfl, misgives, right⟩)
    · exact ⟨[], line, rest, rfl, misgives, List.forall_mem_nil _⟩
    · exact ⟨line :: before, wrong, after, rfl, misgives, List.forall_mem_cons.mpr ⟨here, right⟩⟩

theorem noneGives_cons : NoneGives kind (line :: rest) ↔ (∀ value, ¬ Gives kind line value) ∧ NoneGives kind rest :=
  List.forall_mem_cons

theorem lastSets_cons : LastSets kind (line :: rest) size ↔
    LastSets kind rest size ∨ Sets kind line size ∧ NoneGives kind rest := by
  constructor
  · rintro ⟨before, last, after, same, sets, later⟩
    cases before with
    | nil =>
        cases same
        exact .inr ⟨sets, later⟩
    | cons first before =>
        cases same
        exact .inl ⟨before, last, after, rfl, sets, later⟩
  · rintro (⟨before, last, after, rfl, sets, later⟩ | ⟨sets, later⟩)
    · exact ⟨line :: before, last, after, rfl, sets, later⟩
    · exact ⟨[], line, rest, rfl, sets, later⟩

theorem FirstMisgiven.not_allIntegers (first : FirstMisgiven kind lines) : ¬ AllIntegers lines := by
  obtain ⟨before, line, after, rfl, misgives, -⟩ := first
  exact fun every => every line (by simp) kind misgives

theorem FirstMisgiven.kind_unique (first : FirstMisgiven kind lines) (also : FirstMisgiven other lines) :
    other = kind := by
  induction lines with
  | nil =>
      obtain ⟨before, line, after, same, -⟩ := first
      cases before <;> cases same
  | cons line rest ih =>
      rcases firstMisgiven_cons.mp first with misgives | ⟨right, first⟩
      · rcases firstMisgiven_cons.mp also with misgivesToo | ⟨right, -⟩
        · exact misgives.kind_unique misgivesToo
        · exact absurd misgives (right kind)
      · rcases firstMisgiven_cons.mp also with misgives | ⟨-, also⟩
        · exact absurd misgives (right other)
        · exact ih first also

theorem LastSets.not_noneGives (last : LastSets kind lines size) : ¬ NoneGives kind lines := by
  obtain ⟨before, line, after, rfl, ⟨value, gives, -⟩, -⟩ := last
  exact fun none => none line (by simp) value gives

theorem LastSets.unique {second : Int} (last : LastSets kind lines size) (also : LastSets kind lines second) :
    second = size := by
  induction lines with
  | nil =>
      obtain ⟨before, line, after, same, -⟩ := last
      cases before <;> cases same
  | cons line rest ih =>
      rcases lastSets_cons.mp last with last | ⟨sets, none⟩
      · rcases lastSets_cons.mp also with also | ⟨-, none⟩
        · exact ih last also
        · exact absurd none last.not_noneGives
      · rcases lastSets_cons.mp also with also | ⟨setsToo, -⟩
        · exact absurd none also.not_noneGives
        · exact sets.size_unique setsToo

/-! ## Reading -/

/-- A size, if it is known. -/
def known (kind : SizeKind) (descriptor : Descriptor) : Option Int :=
  match kind with
  | .integer => descriptor.integer
  | .pointer => descriptor.pointer

theorem known_set :
    (descriptor.set kind size).known other = if other = kind then some size else descriptor.known other := by
  cases kind <;> cases other <;> rfl

/-- A line is passed over, puts in a size or ends the reading. -/
theorem readLines_cons (descriptor : Descriptor) (line : String) (rest : List String) :
    (∀ kind value, ¬ Gives kind line value) ∧ descriptor.readLines (line :: rest) = descriptor.readLines rest ∨
    (∃ kind size, Sets kind line size ∧
      descriptor.readLines (line :: rest) = (descriptor.set kind size).readLines rest) ∨
    ∃ kind, Misgives kind line ∧ descriptor.readLines (line :: rest) = .error kind := by
  cases reads : readLine line with
  | none => exact .inl ⟨readLine_eq_none.mp reads, by rw [readLines, reads]⟩
  | some given =>
      obtain ⟨kind, value⟩ := given
      have gives : Gives kind line value := readLine_eq_some.mp reads
      cases number : Text.readInteger 10 (Text.strip value) with
      | ok size => exact .inr (.inl ⟨kind, size, ⟨value, gives, number⟩, by simp only [readLines, reads, number]⟩)
      | error error =>
          exact .inr (.inr ⟨kind, ⟨value, error, gives, number⟩, by simp only [readLines, reads, number]⟩)

/-- Of every size the reading of the lines has found what the last line for it gives, and what was known before if there
is no such line. -/
def Tells (lines : List String) (descriptor found : Descriptor) : Prop :=
  ∀ kind, NoneGives kind lines ∧ found.known kind = descriptor.known kind ∨
    ∃ size, LastSets kind lines size ∧ found.known kind = some size

/-- A line without a size changes nothing. -/
theorem Tells.pass (none : ∀ kind value, ¬ Gives kind line value) (tells : Tells rest descriptor found) :
    Tells (line :: rest) descriptor found := by
  intro kind
  obtain ⟨noneBehind, same⟩ | ⟨size, last, same⟩ := tells kind
  · exact .inl ⟨noneGives_cons.mpr ⟨none kind, noneBehind⟩, same⟩
  · exact .inr ⟨size, lastSets_cons.mpr (.inl last), same⟩

/-- A size that a line gives counts unless it is given again. -/
theorem Tells.set (sets : Sets kind line size) (tells : Tells rest (descriptor.set kind size) found) :
    Tells (line :: rest) descriptor found := by
  intro other
  obtain ⟨noneBehind, same⟩ | ⟨size, last, same⟩ := tells other
  · rw [known_set] at same
    split at same
    · next isKind =>
        subst isKind
        exact .inr ⟨size, lastSets_cons.mpr (.inr ⟨sets, noneBehind⟩), same⟩
    · next different =>
        have noneHere : ∀ value, ¬ Gives other line value := fun value gives => different (sets.kind_unique gives)
        exact .inl ⟨noneGives_cons.mpr ⟨noneHere, noneBehind⟩, same⟩
  · exact .inr ⟨size, lastSets_cons.mpr (.inl last), same⟩

/-- By induction over the lines, with what the lines before have told. -/
theorem readLines_cases (descriptor : Descriptor) (lines : List String) :
    (∃ kind, descriptor.readLines lines = .error kind ∧ FirstMisgiven kind lines) ∨
    ∃ found, descriptor.readLines lines = .ok found ∧ AllIntegers lines ∧ Tells lines descriptor found := by
  induction lines generalizing descriptor with
  | nil =>
      exact .inr ⟨descriptor, rfl, List.forall_mem_nil _, fun kind => .inl ⟨List.forall_mem_nil _, rfl⟩⟩
  | cons line rest ih =>
      obtain ⟨none, reads⟩ | ⟨kind, size, sets, reads⟩ | ⟨kind, misgives, reads⟩ := readLines_cons descriptor line rest
      · have right : ∀ kind, ¬ Misgives kind line := fun kind ⟨value, _, gives, _⟩ => none kind value gives
        rw [reads]
        obtain ⟨kind, fails, first⟩ | ⟨found, succeeds, integers, tells⟩ := ih descriptor
        · exact .inl ⟨kind, fails, firstMisgiven_cons.mpr (.inr ⟨right, first⟩)⟩
        · exact .inr ⟨found, succeeds, List.forall_mem_cons.mpr ⟨right, integers⟩, tells.pass none⟩
      · have right : ∀ kind, ¬ Misgives kind line := fun _ => sets.not_misgives
        rw [reads]
        obtain ⟨kind, fails, first⟩ | ⟨found, succeeds, integers, tells⟩ := ih (descriptor.set kind size)
        · exact .inl ⟨kind, fails, firstMisgiven_cons.mpr (.inr ⟨right, first⟩)⟩
        · exact .inr ⟨found, succeeds, List.forall_mem_cons.mpr ⟨right, integers⟩, tells.set sets⟩
      · exact .inl ⟨kind, reads, firstMisgiven_cons.mpr (.inl misgives)⟩

end Descriptor

/-- A file that is read is found. -/
theorem Files.FileTree.read_eq_ok {tree : Files.FileTree} {path : String} {content : Files.Content} :
    tree.read path = .ok content ↔ tree.lookUp path = .ok (some content) := by
  unfold read
  rcases tree.lookUp path with failure | (_ | found) <;>
    simp [bind, Except.bind, pure, Except.pure, throw, throwThe, MonadExceptOf.throw]

namespace Settings

open Descriptor Files

variable {settings : Settings} {tree : FileTree} {content : Content} {text path : String} {lines : List String}
variable {outcome : Except ConfigError Settings}

/-- Settings with the sizes that are their own where these are positive. -/
theorem fillSizes_eq (integer pointer : Int) (settings : Settings) :
    settings.fillSizes integer pointer =
      { settings with
        intSize := if 0 < settings.intSize then settings.intSize else integer
        pointerSize := if 0 < settings.pointerSize then settings.pointerSize else pointer } := by
  simp only [fillSizes, ← Int.not_lt, ite_not]

/-- What the lines of the descriptor at a path make of settings. -/
inductive Described (path : String) (lines : List String) (settings : Settings) :
    Except ConfigError Settings → Prop where
  | misgiven {kind : SizeKind} (first : FirstMisgiven kind lines) :
      Described path lines settings (.error (.invalidSize kind path))
  | noInteger (integers : AllIntegers lines) (none : NoneGives .integer lines) :
      Described path lines settings (.error (.missingSize .integer path))
  | noPointer {integer : Int} (integers : AllIntegers lines) (last : LastSets .integer lines integer)
      (none : NoneGives .pointer lines) : Described path lines settings (.error (.missingSize .pointer path))
  | filled {integer pointer : Int} (integers : AllIntegers lines) (lastInteger : LastSets .integer lines integer)
      (lastPointer : LastSets .pointer lines pointer) :
      Described path lines settings (.ok (settings.fillSizes integer pointer))

theorem describe_described (path text : String) (settings : Settings) :
    Described path (Text.splitLines text) settings (settings.describe path text) := by
  unfold describe Descriptor.read
  obtain ⟨kind, reads, first⟩ | ⟨⟨integer?, pointer?⟩, reads, integers, tells⟩ :=
    readLines_cases .empty (Text.splitLines text)
  · rw [reads]
    exact .misgiven first
  · rw [reads]
    obtain ⟨none, unknown⟩ | ⟨integer, lastInteger, known⟩ := tells .integer
    · cases unknown
      exact .noInteger integers none
    cases known
    obtain ⟨none, unknown⟩ | ⟨pointer, lastPointer, known⟩ := tells .pointer
    · cases unknown
      exact .noPointer integers lastInteger none
    cases known
    exact .filled integers lastInteger lastPointer

/-- Of the three reports each excludes the others, and all of them exclude that the sizes are filled in. -/
theorem Described.unique {other : Except ConfigError Settings} (described : Described path lines settings outcome)
    (also : Described path lines settings other) : outcome = other := by
  cases described with
  | misgiven first =>
      cases also with
      | misgiven second => rw [first.kind_unique second]
      | noInteger integers | noPointer integers | filled integers => exact absurd integers first.not_allIntegers
  | noInteger integers none =>
      cases also with
      | misgiven first => exact absurd integers first.not_allIntegers
      | noInteger => rfl
      | noPointer _ last | filled _ last => exact absurd none last.not_noneGives
  | noPointer integers last none =>
      cases also with
      | misgiven first => exact absurd integers first.not_allIntegers
      | noInteger _ noInteger => exact absurd noInteger last.not_noneGives
      | noPointer => rfl
      | filled _ _ lastPointer => exact absurd none lastPointer.not_noneGives
  | filled integers lastInteger lastPointer =>
      cases also with
      | misgiven first => exact absurd integers first.not_allIntegers
      | noInteger _ none => exact absurd none lastInteger.not_noneGives
      | noPointer _ _ none => exact absurd none lastPointer.not_noneGives
      | filled _ sameInteger samePointer =>
          rw [lastInteger.unique sameInteger, lastPointer.unique samePointer]

theorem describe_eq_iff :
    settings.describe path text = outcome ↔ Described path (Text.splitLines text) settings outcome :=
  ⟨fun same => same ▸ describe_described path text settings, (describe_described path text settings).unique⟩

/-- Settings whose sizes are known from what there is in a tree of files. -/
def resolvedFrom (tree : FileTree) (settings : Settings) : Except Problem Settings :=
  match tree.lookUp (plainPath settings.descriptorPath) with
  | .error error => if error.meansAbsence then .ok (settings.fillSizes hostSize hostSize) else .error (.file error)
  | .ok none => .error (.file (.isDirectory (plainPath settings.descriptorPath)))
  | .ok (some content) =>
    match content.whole with
    | .error error => .error (.encoding error)
    | .ok text => (settings.describe settings.descriptorPath text).mapError .config

theorem resolve_tree (settings : Settings) (tree : FileTree) :
    settings.resolve FileTree.system tree = (resolvedFrom tree settings, tree) := by
  unfold resolve resolvedFrom
  generalize settings.descriptorPath = path
  generalize plainPath path = place
  have finds : FileTree.system.find place tree =
      ((tree.lookUp place).map fun _ => (), tree) := rfl
  have reads : FileTree.system.read place tree =
      (tree.read place, tree) := rfl
  rw [FileTree.bind_apply, finds]
  cases looked : tree.lookUp place with
  | error error => rfl
  | ok there =>
      dsimp only [Except.map]
      rw [FileTree.bind_apply, reads, FileTree.read, looked]
      cases there with
      | none => rfl
      | some content =>
          dsimp only [bind, Except.bind, pure, Except.pure]
          cases content.whole <;> rfl

theorem resolve_of_text (stored : tree.read (plainPath settings.descriptorPath) = .ok content)
    (decoded : content.whole = .ok text) :
    settings.resolve FileTree.system tree =
      ((settings.describe settings.descriptorPath text).mapError .config, tree) := by
  have looked := FileTree.read_eq_ok.mp stored
  rw [resolve_tree]
  unfold resolvedFrom
  generalize plainPath settings.descriptorPath = place at looked ⊢
  rw [looked]
  dsimp only
  rw [decoded]

end Settings

open Descriptor Files

/-- Where the descriptor of the target is a text, settings get their sizes from it or there is a report.  The first size
that is no integer is reported, then that no line gives the integer size, then that none gives the pointer size, and all
of this also where the settings have both sizes of their own.  Otherwise a size that is not positive becomes the one
that the last line for it gives, and nothing else changes. -/
theorem resolve_by_descriptor {settings : Settings} {tree : FileTree} {content : Content} {text : String}
    (stored : tree.read (plainPath settings.descriptorPath) = .ok content) (decoded : content.whole = .ok text) :
    let lines := Text.splitLines text
    let path := settings.descriptorPath
    ∃ outcome, settings.resolve FileTree.system tree = (outcome, tree) ∧
      (∀ problem, outcome = .error problem ↔
        (∃ kind, FirstMisgiven kind lines ∧ problem = .config (.invalidSize kind path)) ∨
        (AllIntegers lines ∧ NoneGives .integer lines ∧ problem = .config (.missingSize .integer path)) ∨
        (AllIntegers lines ∧ (∃ integer, LastSets .integer lines integer) ∧ NoneGives .pointer lines ∧
          problem = .config (.missingSize .pointer path))) ∧
      ∀ resolved, outcome = .ok resolved ↔
        AllIntegers lines ∧ ∃ integer pointer, LastSets .integer lines integer ∧ LastSets .pointer lines pointer ∧
          resolved =
            { settings with
              intSize := if 0 < settings.intSize then settings.intSize else integer
              pointerSize := if 0 < settings.pointerSize then settings.pointerSize else pointer } := by
  intro lines path
  refine ⟨_, Settings.resolve_of_text stored decoded, fun problem => ?_, fun resolved => ?_⟩
  · rw [mapError_eq_error]
    constructor
    · rintro ⟨error, described, rfl⟩
      cases Settings.describe_eq_iff.mp described with
      | misgiven first => exact .inl ⟨_, first, rfl⟩
      | noInteger integers none => exact .inr (.inl ⟨integers, none, rfl⟩)
      | noPointer integers last none => exact .inr (.inr ⟨integers, ⟨_, last⟩, none, rfl⟩)
    · rintro (⟨kind, first, rfl⟩ | ⟨integers, none, rfl⟩ | ⟨integers, ⟨integer, last⟩, none, rfl⟩)
      · exact ⟨_, Settings.describe_eq_iff.mpr (.misgiven first), rfl⟩
      · exact ⟨_, Settings.describe_eq_iff.mpr (.noInteger integers none), rfl⟩
      · exact ⟨_, Settings.describe_eq_iff.mpr (.noPointer integers last none), rfl⟩
  · rw [mapError_eq_ok, Settings.describe_eq_iff]
    constructor
    · rintro (_ | _ | _ | ⟨integers, lastInteger, lastPointer⟩)
      exact ⟨integers, _, _, lastInteger, lastPointer, Settings.fillSizes_eq _ _ _⟩
    · rintro ⟨integers, integer, pointer, lastInteger, lastPointer, rfl⟩
      rw [← Settings.fillSizes_eq]
      exact .filled integers lastInteger lastPointer

/-- A descriptor with a size that is no integer behind one that is, and before another that is not. -/
def misgivenTree : FileTree :=
  ⟨[(["platform.info"], .text "integer size = 4\n\tpointer size = eight\r\ninteger size = four")]⟩

/-- The sizes of the settings do not keep the wrong one from being reported. -/
theorem resolve_by_descriptor_small : ∃ content text,
    let settings : Settings := { intSize := 4, pointerSize := 8 }
    misgivenTree.read (plainPath settings.descriptorPath) = .ok content ∧ content.whole = .ok text ∧
      settings.resolve FileTree.system misgivenTree =
        (.error (.config (.invalidSize .pointer "platform.info")), misgivenTree) := by
  let settings : Settings := { intSize := 4, pointerSize := 8 }
  have stored : misgivenTree.read (plainPath settings.descriptorPath) =
      .ok (.text "integer size = 4\n\tpointer size = eight\r\ninteger size = four") := by decide +kernel
  have decoded : Content.whole (.text "integer size = 4\n\tpointer size = eight\r\ninteger size = four") =
      .ok "integer size = 4\n\tpointer size = eight\ninteger size = four" := by decide +kernel
  have split : Text.splitLines "integer size = 4\n\tpointer size = eight\ninteger size = four" =
      ["integer size = 4"] ++ "\tpointer size = eight" :: ["integer size = four"] := by decide +kernel
  have first : FirstMisgiven .pointer
      (Text.splitLines "integer size = 4\n\tpointer size = eight\ninteger size = four") := by
    have right : Sets .integer "integer size = 4" 4 := ⟨" 4", by decide +kernel, by decide +kernel⟩
    have wrong : Misgives .pointer "\tpointer size = eight" :=
      ⟨" eight", .malformed, by decide +kernel, by decide +kernel⟩
    exact ⟨_, _, _, split, wrong, List.forall_mem_singleton.mpr fun _ => right.not_misgives⟩
  obtain ⟨outcome, resolves, fails, -⟩ := resolve_by_descriptor stored decoded
  refine ⟨_, _, stored, decoded, resolves.trans ?_⟩
  rw [(fails _).mpr (.inl ⟨.pointer, first, rfl⟩)]
  have path : settings.descriptorPath = "platform.info" := by decide +kernel
  rw [path]

end RandomC
