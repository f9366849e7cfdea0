import RandomC.Proofs.Names

/-!
# Balanced brackets

A text is read character by character while the brackets that are still to be closed are kept on a stack.
It is balanced when every bracket is closed by one of its own kind, in the order in which they nest.  The
texts between brackets are balanced for themselves, so what is put together from balanced texts by pairs of
brackets is balanced again.
-/

namespace RandomC

/-- The bracket that closes an opening one. -/
def closing? : Char → Option Char
  | '(' => some ')'
  | '[' => some ']'
  | '{' => some '}'
  | _ => none

/-- The character is a bracket that closes. -/
def isClosing (c : Char) : Bool := c == ')' || c == ']' || c == '}'

/-- Reads a character where some brackets are still to be closed, the innermost first. -/
def closeOne (expected : List Char) (c : Char) : Option (List Char) :=
  match closing? c with
  | some close => some (close :: expected)
  | none =>
    if isClosing c then
      match expected with
      | close :: rest => if c = close then some rest else none
      | [] => none
    else some expected

/-- The brackets that are still to be closed after some characters, if no bracket is closed wrongly. -/
def stillOpen : (expected : List Char) → List Char → Option (List Char)
  | expected, [] => some expected
  | expected, c :: rest => (closeOne expected c).bind (stillOpen · rest)

/-- Every bracket of the text is closed, and in the right order. -/
def Balanced (text : String) : Prop := stillOpen [] text.toList = some []

instance (text : String) : Decidable (Balanced text) :=
  inferInstanceAs (Decidable (stillOpen [] text.toList = some []))

example : Balanced "f(a[1]) \x7b g((b)) \x7d" ∧ ¬ Balanced "(]" ∧ ¬ Balanced "(" := by decide

/-! How single characters are read. -/

@[simp] theorem stillOpen_nil (expected : List Char) : stillOpen expected [] = some expected := rfl

@[simp] theorem stillOpen_round (expected rest : List Char) :
    stillOpen expected ('(' :: rest) = stillOpen (')' :: expected) rest := rfl

@[simp] theorem stillOpen_square (expected rest : List Char) :
    stillOpen expected ('[' :: rest) = stillOpen (']' :: expected) rest := rfl

@[simp] theorem stillOpen_curly (expected rest : List Char) :
    stillOpen expected ('{' :: rest) = stillOpen ('}' :: expected) rest := rfl

@[simp] theorem stillOpen_closeRound (expected rest : List Char) :
    stillOpen (')' :: expected) (')' :: rest) = stillOpen expected rest := rfl

@[simp] theorem stillOpen_closeSquare (expected rest : List Char) :
    stillOpen (']' :: expected) (']' :: rest) = stillOpen expected rest := rfl

@[simp] theorem stillOpen_closeCurly (expected rest : List Char) :
    stillOpen ('}' :: expected) ('}' :: rest) = stillOpen expected rest := rfl

theorem stillOpen_plain {c : Char} (plain : isClosing c = false ∧ closing? c = none)
    (expected rest : List Char) : stillOpen expected (c :: rest) = stillOpen expected rest := by
  simp [stillOpen, closeOne, plain]

theorem stillOpen_append (expected left right : List Char) :
    stillOpen expected (left ++ right) = (stillOpen expected left).bind (stillOpen · right) := by
  induction left generalizing expected with
  | nil => rfl
  | cons c rest ih =>
      simp only [List.cons_append, stillOpen]
      cases closeOne expected c with
      | none => rfl
      | some after => exact ih after

/-- What is still to be closed outside of a text does not matter for the text. -/
theorem stillOpen_extend {expected after chars : List Char} (outer : List Char)
    (scanned : stillOpen expected chars = some after) :
    stillOpen (expected ++ outer) chars = some (after ++ outer) := by
  induction chars generalizing expected with
  | nil =>
      cases scanned
      rfl
  | cons c rest ih =>
      simp only [stillOpen, Option.bind_eq_some_iff] at scanned ⊢
      obtain ⟨middle, read, scanned⟩ := scanned
      refine ⟨middle ++ outer, ?_, ih scanned⟩
      unfold closeOne at read ⊢
      split at read
      · cases read
        rfl
      · split at read
        · rename_i closes
          rw [if_pos closes]
          split at read
          · split at read
            · rename_i same
              cases read
              simp [same]
            · cases read
          · cases read
        · rename_i plain
          cases read
          rw [if_neg plain]

/-- A balanced text leaves what is still to be closed as it is. -/
theorem Balanced.stillOpen {text : String} (balanced : Balanced text) (expected : List Char) :
    stillOpen expected text.toList = some expected := by
  simpa using stillOpen_extend expected balanced

/-- A balanced text at the front may be left out. -/
theorem Balanced.read {text : String} (balanced : Balanced text) (expected rest : List Char) :
    RandomC.stillOpen expected (text.toList ++ rest) = RandomC.stillOpen expected rest := by
  rw [stillOpen_append, balanced.stillOpen, Option.bind_some]

theorem Balanced.append {left right : String} (first : Balanced left) (second : Balanced right) :
    Balanced (left ++ right) := by
  simp [Balanced, first.read, second.stillOpen]

theorem Balanced.round {text : String} (inside : Balanced text) : Balanced ("(" ++ text ++ ")") := by
  simp [Balanced, inside.read]

theorem Balanced.square {text : String} (inside : Balanced text) : Balanced ("[" ++ text ++ "]") := by
  simp [Balanced, inside.read]

/-! ## Texts without brackets -/

/-- There are no brackets in the text. -/
def Unbracketed (text : String) : Prop := ∀ c ∈ text.toList, closing? c = none ∧ isClosing c = false

instance (text : String) : Decidable (Unbracketed text) :=
  List.decidableBAll (fun c => closing? c = none ∧ isClosing c = false) text.toList

theorem Unbracketed.append {left right : String} (first : Unbracketed left) (second : Unbracketed right) :
    Unbracketed (left ++ right) := by
  intro c member
  rw [String.toList_append] at member
  exact (List.mem_append.mp member).elim (first c) (second c)

theorem Unbracketed.balanced {text : String} (unbracketed : Unbracketed text) : Balanced text := by
  unfold Balanced
  unfold Unbracketed at unbracketed
  generalize text.toList = chars at unbracketed
  induction chars with
  | nil => rfl
  | cons c rest ih =>
      rw [stillOpen_plain (unbracketed c List.mem_cons_self).symm]
      exact ih fun other member => unbracketed other (List.mem_cons_of_mem _ member)

/-- Brackets do not stand in words. -/
theorem unbracketed_of_word {word : String} (wordChars : ∀ c ∈ word.toList, isWordChar c) :
    Unbracketed word := by
  intro c member
  have isWord := wordChars c member
  have distinct {bracket : Char} (separates : isWordChar bracket = false) : c ≠ bracket := by
    rintro rfl
    rw [isWord] at separates
    cases separates
  have closing : closing? c = none := by
    unfold closing?
    split
    · exact absurd rfl (@distinct '(' (by decide))
    · exact absurd rfl (@distinct '[' (by decide))
    · exact absurd rfl (@distinct '{' (by decide))
    · rfl
  refine ⟨closing, ?_⟩
  simp [isClosing, @distinct ')' (by decide), @distinct ']' (by decide),
    @distinct '}' (by decide)]

theorem unbracketed_nat (number : Nat) : Unbracketed number.repr := by
  apply unbracketed_of_word
  intro c member
  rw [Nat.toList_repr] at member
  exact isWordChar_of_isDigit (Nat.isDigit_of_mem_toDigits (by decide) (by decide) member)

theorem unbracketed_int (number : Int) : Unbracketed number.repr := by
  cases number with
  | ofNat number => exact unbracketed_nat number
  | negSucc number => exact Unbracketed.append (by decide : Unbracketed "-") (unbracketed_nat (number + 1))

/-- Numbered names contain no brackets. -/
theorem unbracketed_numbered {stem : String} (stemChars : stem.toList.all isWordChar) (number : Nat) :
    Unbracketed (stem ++ toString number) :=
  unbracketed_of_word (isWordChar_numbered number stemChars)

theorem read_nat (number : Nat) (expected rest : List Char) :
    stillOpen expected (Nat.toDigits 10 number ++ rest) = stillOpen expected rest := by
  rw [← Nat.toList_repr, (unbracketed_nat number).balanced.read]

theorem balanced_intercalate {texts : List String} (balanced : ∀ text ∈ texts, Balanced text) :
    Balanced (", ".intercalate texts) := by
  induction texts with
  | nil => decide
  | cons text rest ih =>
      have first := balanced text List.mem_cons_self
      have others := ih fun other member => balanced other (List.mem_cons_of_mem _ member)
      cases rest with
      | nil => simpa using first
      | cons next rest =>
          rw [String.intercalate_cons_cons]
          exact (first.append (by decide)).append others

end RandomC
