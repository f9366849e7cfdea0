import Mathlib.Data.List.Nodup
import Mathlib.Data.List.Pairwise
import RandomC.Proofs.Declarations
import RandomC.Proofs.Sheet

/-!
# Ledgers

The items of a program declare the names of each kind one after the other, without gaps.  `Ledger` says so
and how many there are of each kind, and that every name in the items is visible where it stands.  A ledger
grows by one item at a time; the rules below say what each kind of item needs for that.
-/

namespace RandomC

/-- The number that the first name of a kind has. -/
def NameKind.first : NameKind → Nat
  | function | param => 1
  | struct | union | global | returnLocal | accumulator | counter => 0

/-- The name of a kind with a number. -/
def NameKind.name (kind : NameKind) (number : Nat) : String := kind.stem ++ toString number

/-- How many names there are of each kind. -/
abbrev Tally := NameKind → Nat

/-- Some more names of one kind. -/
def Tally.add (kind : NameKind) (amount : Nat) (tally : Tally) : Tally :=
  fun other => if other = kind then tally kind + amount else tally other

/-- Every name in the items is visible where it stands, and the names of each kind that they declare are
numbered without gaps. -/
structure Ledger (tally : Tally) (items : List Item) : Prop where
  closed : Closed items
  declared : ∀ kind, declaredOf kind items = (List.range' kind.first (tally kind)).map kind.name

section

variable {tally : Tally} {items : List Item} {item : Item} {kind : NameKind} {number amount : Nat}

@[simp] theorem Tally.add_zero : tally.add kind 0 = tally := by
  funext other
  simp only [Tally.add]
  split
  · rename_i same
    rw [same]
    rfl
  · rfl

@[simp] theorem Tally.add_add {more : Nat} :
    (tally.add kind amount).add kind more = tally.add kind (amount + more) := by
  funext other
  by_cases same : other = kind
  · simp [Tally.add, same, Nat.add_assoc]
  · simp [Tally.add, same]

@[simp] theorem Tally.add_self : tally.add kind amount kind = tally kind + amount := by
  simp [Tally.add]

@[simp] theorem Tally.add_other {other : NameKind} (different : other ≠ kind) :
    tally.add kind amount other = tally other := by
  simp [Tally.add, different]

theorem NameKind.name_inj {other : Nat} (same : kind.name number = kind.name other) : number = other :=
  toString_inj (String.append_right_inj kind.stem |>.mp same)

theorem Ledger.empty : Ledger (fun _ => 0) [] := ⟨.nil, fun _ => rfl⟩

theorem declaredOf_snoc :
    declaredOf kind (items ++ [item]) = declaredOf kind items ++ item.declares kind := by
  simp [declaredOf]

/-- One more item, which goes on with the numbering of every kind. -/
theorem Ledger.snoc {after : Tally} (ledger : Ledger tally items) (closed : item.Closed items)
    (declares : ∀ kind, ∃ count, after kind = tally kind + count ∧
      item.declares kind = (List.range' (kind.first + tally kind) count).map kind.name) :
    Ledger after (items ++ [item]) where
  closed := ledger.closed.snoc closed
  declared kind := by
    obtain ⟨count, total, more⟩ := declares kind
    rw [declaredOf_snoc, ledger.declared, more, total, ← List.range'_append_1, List.map_append]

/-- One more item that declares nothing. -/
theorem Ledger.quiet (ledger : Ledger tally items) (closed : item.Closed items)
    (nothing : ∀ kind, item.declares kind = []) : Ledger tally (items ++ [item]) :=
  ledger.snoc closed fun kind => ⟨0, rfl, nothing kind⟩

/-- The item declares one name of one kind. -/
def Item.DeclaresOnly (kind : NameKind) (name : String) (item : Item) : Prop :=
  ∀ other, item.declares other = if other = kind then [name] else []

/-- One more item that declares the next name of a kind. -/
theorem Ledger.declare (ledger : Ledger tally items) (closed : item.Closed items)
    (declares : item.DeclaresOnly kind (kind.name (kind.first + tally kind))) :
    Ledger (tally.add kind 1) (items ++ [item]) := by
  apply ledger.snoc closed
  intro other
  by_cases same : other = kind
  · subst same
    exact ⟨1, Tally.add_self, by simp [declares other]⟩
  · exact ⟨0, by simp [same], by simp [declares other, same]⟩

/-- One more definition, with the next parameters and the next return local. -/
theorem Ledger.define {definition : Definition} (ledger : Ledger tally items)
    (closed : (Item.define definition).Closed items)
    (params : definition.signature.params.map (·.name) =
      (List.range' (1 + tally .param) definition.signature.params.length).map paramName)
    (returnLocal : definition.returnLocal = localName (tally .returnLocal)) :
    Ledger ((tally.add .param definition.signature.params.length).add .returnLocal 1)
      (items ++ [.define definition]) := by
  apply ledger.snoc closed
  intro kind
  by_cases isParam : kind = .param
  · subst isParam
    exact ⟨_, by simp, params⟩
  · by_cases isLocal : kind = .returnLocal
    · subst isLocal
      refine ⟨1, by simp, ?_⟩
      simp only [Item.declares, isParam, if_false, if_true, returnLocal]
      rw [show NameKind.returnLocal.first = 0 from rfl, Nat.zero_add]
      rfl
    · exact ⟨0, by simp [isParam, isLocal], by simp [Item.declares, isParam, isLocal]⟩

/-- The names of the numbers so far are declared. -/
theorem Ledger.mem (ledger : Ledger tally items) (first : kind.first ≤ number)
    (bound : number < kind.first + tally kind) : kind.name number ∈ declaredOf kind items := by
  rw [ledger.declared]
  exact List.mem_map_of_mem (List.mem_range'_1.mpr ⟨first, bound⟩)

/-- No name of a kind is declared twice. -/
theorem Ledger.nodup (ledger : Ledger tally items) : (declaredOf kind items).Nodup := by
  rw [ledger.declared]
  apply List.Nodup.map
  · exact fun _ _ => NameKind.name_inj
  · exact List.nodup_range'

/-- Items that declare the same name are the same. -/
theorem Ledger.item_eq {name : String} {first second : Item} (ledger : Ledger tally items)
    (firstIn : first ∈ items) (secondIn : second ∈ items) (declares : name ∈ first.declares kind)
    (also : name ∈ second.declares kind) : first = second := by
  by_contra different
  have distinct : (declaredOf kind items).Nodup := ledger.nodup
  have : Std.Symm (Function.onFun List.Disjoint (Item.declares kind)) :=
    ⟨fun _ _ apart _ inSecond inFirst => apart inFirst inSecond⟩
  exact (List.nodup_flatMap.mp distinct).2.forall firstIn secondIn different declares also

/-! ## Sheets -/

/-- The items on a sheet form a ledger, and nothing else on it contains names. -/
structure Text.Sheet.Keeps (tally : Tally) (sheet : Text.Sheet Item) : Prop where
  ledger : Ledger tally sheet.contents
  quiet : ∀ entry ∈ sheet.entries.toList, Quiet entry

variable {sheet : Text.Sheet Item}

theorem Text.Sheet.Keeps.blankLine (keeps : sheet.Keeps tally) : sheet.blankLine.Keeps tally where
  ledger := by simpa using keeps.ledger
  quiet := by simpa [Text.Sheet.blankLine, or_imp, forall_and, Quiet] using keeps.quiet

/-- An item is written that declares nothing. -/
theorem Text.Sheet.Keeps.write (keeps : sheet.Keeps tally) (offset : Int)
    (closed : item.Closed sheet.contents)
    (nothing : ∀ kind, item.declares kind = []) :
    (sheet.write offset item).Keeps tally where
  ledger := by
    rw [Text.Sheet.contents_write]
    exact keeps.ledger.quiet closed nothing
  quiet := by simpa [Text.Sheet.write, or_imp, forall_and, Quiet] using keeps.quiet

/-- An item is written that declares the next name of a kind. -/
theorem Text.Sheet.Keeps.declare (keeps : sheet.Keeps tally) (offset : Int)
    (closed : item.Closed sheet.contents)
    (declares : item.DeclaresOnly kind (kind.name (kind.first + tally kind))) :
    (sheet.write offset item).Keeps (tally.add kind 1) where
  ledger := by
    rw [Text.Sheet.contents_write]
    exact keeps.ledger.declare closed declares
  quiet := by simpa [Text.Sheet.write, or_imp, forall_and, Quiet] using keeps.quiet

/-- A definition is written, with the next parameters and the next return local. -/
theorem Text.Sheet.Keeps.define {definition : Definition} (keeps : sheet.Keeps tally)
    (closed : (Item.define definition).Closed sheet.contents)
    (params : definition.signature.params.map (·.name) =
      (List.range' (1 + tally .param) definition.signature.params.length).map paramName)
    (returnLocal : definition.returnLocal = localName (tally .returnLocal)) :
    (sheet.write 0 (.define definition)).Keeps
      ((tally.add .param definition.signature.params.length).add .returnLocal 1) where
  ledger := by
    rw [Text.Sheet.contents_write]
    exact keeps.ledger.define closed params returnLocal
  quiet := by simpa [Text.Sheet.write, or_imp, forall_and, Quiet] using keeps.quiet

end

end RandomC
