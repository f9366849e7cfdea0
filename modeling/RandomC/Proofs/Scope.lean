import RandomC.Proofs.Written

/-!
# Scope

Where a name stands in a program, and what makes it visible there.  The variables, composite types and
functions of a program are declared by items of their own; parameters, the return local and the accumulator
belong to one definition, and the counter of a loop to the head of the loop.
-/

namespace RandomC

/-- The names of what is declared; nothing refers to the variables of composite types. -/
def Declaration.names : Declaration → List String
  | .global v _ => [v.name]
  | .array v => [v.name]
  | .pointer v => [v.name]
  | .link _ _ name _ => [name]
  | .composite .. => []

/-- The names of a kind that an item declares.  Those that a definition declares are its own; the others
are for what comes after the item. -/
def Item.declares (kind : NameKind) : Item → List String
  | .declare declaration => if kind = .global then declaration.names else []
  | .openComposite composite index =>
      if kind = composite.nameKind then [compositeName composite index] else []
  | .forward signature => if kind = .function then [signature.name] else []
  | .define definition =>
      if kind = .param then definition.signature.params.map (·.name)
      else if kind = .returnLocal then [definition.returnLocal] else []
  | _ => []

/-- The names of a kind that the items declare, in order. -/
def declaredOf (kind : NameKind) (items : List Item) : List String := items.flatMap (Item.declares kind)

/-- The parameters of the function that an item declares or defines. -/
def Item.params : Item → List Variable
  | .forward signature => signature.params
  | .define definition => definition.signature.params
  | _ => []

/-- The line declares a variable together with its initial value. -/
def Line.Declares (line : Line) (type name : String) : Prop :=
  ∃ value, line.text = type ++ " " ++ name ++ " = " ++ value

/-- The line is the head of a loop that declares its counter. -/
def Line.DeclaresCounter (line : Line) : Prop :=
  ∃ type ∈ ["uint32_t", "int"], ∃ rest, line.text = "for (" ++ type ++ " i = 0; " ++ rest

/-- A name of a kind is declared for the whole file, by an item before or by the item itself, which may then
not mention it a second time. -/
def InFile (before : List Item) (item : Item) (line : Line) (name : String) (kind : NameKind) : Prop :=
  name ∈ declaredOf kind before ∨ item.declares kind = [name] ∧ (names line.text).count name = 1

/-- What makes a name visible that stands in a line of an item: for each kind of name, the declaration that
is to stand before it. -/
def InScope (before : List Item) (item : Item) (above : List Line) (line : Line) (name : String) :
    NameKind → Prop
  | .struct => InFile before item line name .struct
  | .union => InFile before item line name .union
  | .global => InFile before item line name .global
  | .function => InFile before item line name .function
  | .param => ∃ v ∈ item.params, v.name = name
  | .returnLocal => ∃ definition, item = .define definition ∧ definition.returnLocal = name ∧
      ∃ start ∈ above ++ [line], start.Declares definition.signature.result.name name
  | .accumulator => ∃ definition, item = .define definition ∧
      ∃ start ∈ above ++ [line], start.Declares "uint32_t" name
  | .counter => line.DeclaresCounter ∨ ∃ head, above.getLast? = some head ∧ head.DeclaresCounter

/-- Every name in an item is visible where it stands, given the items before it. -/
def Item.Closed (before : List Item) (item : Item) : Prop :=
  ∀ above line below, item.lines = above ++ line :: below →
    ∀ name ∈ names line.text, ∀ kind, nameKind? name.toList = some kind →
      InScope before item above line name kind

/-- Every name in the items is visible where it stands. -/
def Closed (items : List Item) : Prop :=
  ∀ before item after, items = before ++ item :: after → item.Closed before

theorem Closed.nil : Closed [] := by
  intro before item after split
  simp at split

/-- One more item. -/
theorem Closed.snoc {items : List Item} {item : Item} (closed : Closed items)
    (last : item.Closed items) : Closed (items ++ [item]) := by
  intro before other after split
  rcases List.eq_nil_or_concat after with rfl | ⟨rest, final, rfl⟩
  · obtain ⟨rfl, same⟩ := List.append_inj' split rfl
    obtain rfl := List.head_eq_of_cons_eq same
    exact last
  · rw [List.concat_eq_append, ← List.cons_append, ← List.append_assoc] at split
    obtain ⟨rfl, -⟩ := List.append_inj' split rfl
    exact closed before other rest rfl

section

variable {before : List Item} {item : Item}

/-- An item of a single line. -/
theorem Item.closed_of_line {line : Line} (single : item.lines = [line])
    (visible : ∀ name ∈ names line.text, ∀ kind, nameKind? name.toList = some kind →
      InScope before item [] line name kind) : item.Closed before := by
  intro above other below split
  rw [single] at split
  cases above with
  | nil =>
      obtain rfl := List.head_eq_of_cons_eq split
      exact visible
  | cons first rest => simp at split

/-- An item that contains no names. -/
theorem Item.closed_of_quiet (quiet : ∀ line ∈ item.lines, names line.text = []) :
    item.Closed before := by
  intro above line below split name member
  rw [quiet line (by simp [split])] at member
  cases member

end

end RandomC
