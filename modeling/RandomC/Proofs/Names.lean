import RandomC.Code.Item
import RandomC.Generation.State

/-!
# Names in a text

The words of a text are its longest runs of letters, digits and underscores.  Some of them have the form of
a name that a generated program declares; which kind of name it is shows in the word itself.  The rules
below take the names of a text apart where its pieces do not run into each other.
-/

namespace RandomC

/-- The kinds of names that generated programs declare for themselves, those of fields and of the
variables of composite types left out, which nothing refers to. -/
inductive NameKind where
  | struct
  | union
  | global
  | function
  | param
  | returnLocal
  | accumulator
  | counter
  deriving DecidableEq, Repr

/-- What stands before the number in a name of a kind; two kinds have a single name, without a number. -/
def NameKind.stem : NameKind → String
  | struct => "S"
  | union => "U"
  | global => "g_"
  | function => "func_"
  | param => "p_"
  | returnLocal => "l_"
  | accumulator => "x"
  | counter => "i"

/-- Names of the kind have numbers. -/
def NameKind.numbered (kind : NameKind) : Bool := kind != accumulator && kind != counter

/-- A sequence of digits that is not empty. -/
def areDigits (chars : List Char) : Bool := ! chars.isEmpty && chars.all Char.isDigit

/-- The kind of name that a word is, if it is one. -/
def nameKind? : List Char → Option NameKind
  | ['x'] => some .accumulator
  | ['i'] => some .counter
  | 'S' :: digits => if areDigits digits then some .struct else none
  | 'U' :: digits => if areDigits digits then some .union else none
  | 'g' :: '_' :: digits => if areDigits digits then some .global else none
  | 'p' :: '_' :: digits => if areDigits digits then some .param else none
  | 'l' :: '_' :: digits => if areDigits digits then some .returnLocal else none
  | 'f' :: 'u' :: 'n' :: 'c' :: '_' :: digits => if areDigits digits then some .function else none
  | _ => none

/-- A character of which words consist. -/
def isWordChar (c : Char) : Bool := c.isAlphanum || c == '_'

/-- The words of a text, in order. -/
def words (text : String) : List String :=
  (text.toList.splitOnP (! isWordChar ·)).map String.ofList

/-- The words of a text that are names, in order. -/
def names (text : String) : List String :=
  (words text).filter fun word => (nameKind? word.toList).isSome

/-! ## Pieces of a text -/

/-- A word may go on before the text. -/
def startsOpen (text : String) : Bool := text.toList.head?.any isWordChar

/-- A word may go on behind the text. -/
def endsOpen (text : String) : Bool := text.toList.getLast?.any isWordChar

theorem names_empty : names "" = [] := by decide

/-- A text in a text is written as it is. -/
@[simp] theorem toString_string (text : String) : toString text = text := rfl

/-- The names of a text that is given by its characters. -/
theorem names_ofList (chars : List Char) :
    names (String.ofList chars) =
      ((chars.splitOnP (! isWordChar ·)).filter fun word => (nameKind? word).isSome).map String.ofList := by
  simp only [names, words, String.toList_ofList, List.filter_map]
  congr 2
  funext word
  simp

theorem names_split {start rest : List Char} {c : Char} (separates : isWordChar c = false) :
    names (String.ofList (start ++ c :: rest)) =
      names (String.ofList start) ++ names (String.ofList rest) := by
  simp only [names_ofList, ← List.map_append, ← List.filter_append]
  rw [List.splitOnP_append_cons]
  simpa using separates

/-- What separates words has no effect at the begin of a text. -/
theorem names_ofList_cons {rest : List Char} {c : Char} (separates : isWordChar c = false) :
    names (String.ofList (c :: rest)) = names (String.ofList rest) := by
  have split : names (String.ofList ([] ++ c :: rest)) = names "" ++ names (String.ofList rest) :=
    names_split separates
  simpa [names_empty] using split

theorem names_ofList_concat {start : List Char} {c : Char} (separates : isWordChar c = false) :
    names (String.ofList (start ++ [c])) = names (String.ofList start) := by
  rw [names_split separates]
  exact List.append_nil _

@[simp] theorem names_append_right {left right : String} (closed : startsOpen right = false) :
    names (left ++ right) = names left ++ names right := by
  cases chars : right.toList with
  | nil =>
      obtain rfl := String.toList_eq_nil_iff.mp chars
      simp [names_empty]
  | cons c rest =>
      have separates : isWordChar c = false := by simpa [startsOpen, chars] using closed
      rw [← right.ofList_toList, chars, names_ofList_cons separates, ← left.ofList_toList,
        ← String.ofList_append, names_split separates]

@[simp] theorem names_append_left {left right : String} (closed : endsOpen left = false) :
    names (left ++ right) = names left ++ names right := by
  rcases List.eq_nil_or_concat left.toList with chars | ⟨start, c, chars⟩
  · obtain rfl := String.toList_eq_nil_iff.mp chars
    simp [names_empty]
  · have separates : isWordChar c = false := by simpa [endsOpen, chars] using closed
    rw [List.concat_eq_append] at chars
    rw [← left.ofList_toList, chars, names_ofList_concat separates, ← right.ofList_toList,
      ← String.ofList_append, List.append_assoc, List.singleton_append, names_split separates]

@[simp] theorem names_append_middle {left middle right : String} (notEmpty : middle ≠ "")
    (closed : startsOpen middle = false) :
    names (left ++ (middle ++ right)) = names left ++ names (middle ++ right) := by
  apply names_append_right
  cases chars : middle.toList with
  | nil => exact absurd (String.toList_eq_nil_iff.mp chars) notEmpty
  | cons c rest => simpa [startsOpen, chars] using closed

/-- What separates words may be repeated. -/
theorem names_replicate {c : Char} (separates : isWordChar c = false) (count : Nat) (text : String) :
    names (String.ofList (List.replicate count c) ++ text) = names text := by
  induction count with
  | zero => simp
  | succ count ih =>
      rw [List.replicate_succ, ← text.ofList_toList, ← String.ofList_append, List.cons_append,
        names_ofList_cons separates, String.ofList_append, text.ofList_toList, ih]

/-- A text without names. -/
theorem names_eq_nil {text : String} (none : (names text).isEmpty) : names text = [] :=
  List.isEmpty_iff.mp none

/-- The names of a text that is a single word. -/
theorem names_word {word : String} (wordChars : ∀ c ∈ word.toList, isWordChar c) :
    names word = if (nameKind? word.toList).isSome then [word] else [] := by
  have whole : word.toList.splitOnP (! isWordChar ·) = [word.toList] := by
    apply List.splitOnP_eq_singleton
    simpa using wordChars
  simp [names, words, whole, List.filter_cons]

theorem names_intercalate (texts : List String) :
    names (", ".intercalate texts) = texts.flatMap names := by
  induction texts with
  | nil => decide
  | cons text rest ih =>
      cases rest with
      | nil => simp
      | cons next rest =>
          have separator : names ", " = [] := by decide
          rw [String.intercalate_cons_cons, String.append_assoc, names_append_middle (by decide) (by decide),
            names_append_left (by decide), ih, separator]
          rfl

/-! ## Numerals -/

theorem isWordChar_of_isDigit {c : Char} (digit : c.isDigit) : isWordChar c := by
  simp [isWordChar, Char.isAlphanum, digit]

theorem nameKind?_of_isDigit {c : Char} {rest : List Char} (digit : c.isDigit) :
    nameKind? (c :: rest) = none := by
  unfold nameKind?
  split <;> simp_all

/-- A word that begins with a digit is no name, so what follows a numeral matters only from the end of the
word on. -/
theorem names_digits_append {digits rest : List Char} (areDigits : areDigits digits) :
    names (String.ofList (digits ++ rest)) = names (String.ofList (rest.dropWhile isWordChar)) := by
  have word (tail : List Char) (wordChars : ∀ c ∈ tail, isWordChar c) :
      names (String.ofList (digits ++ tail)) = [] := by
    cases digits with
    | nil => cases areDigits
    | cons c others =>
        simp only [RandomC.areDigits, List.isEmpty_cons, Bool.not_false, Bool.true_and, List.all_cons,
          Bool.and_eq_true, List.all_eq_true] at areDigits
        rw [names_word]
        · simp [nameKind?_of_isDigit areDigits.1]
        · intro other member
          simp only [String.toList_ofList, List.cons_append, List.mem_cons, List.mem_append] at member
          rcases member with rfl | digit | inTail
          · exact isWordChar_of_isDigit areDigits.1
          · exact isWordChar_of_isDigit (areDigits.2 other digit)
          · exact wordChars other inTail
  have begins := List.all_eq_true.mp (List.all_takeWhile (p := isWordChar) (l := rest))
  have whole : digits ++ rest = digits ++ rest.takeWhile isWordChar ++ rest.dropWhile isWordChar := by
    rw [List.append_assoc, List.takeWhile_append_dropWhile]
  rw [whole]
  cases after : rest.dropWhile isWordChar with
  | nil => rw [List.append_nil, word _ begins, String.ofList_nil, names_empty]
  | cons c others =>
      have separates : isWordChar c = false := by
        have head := List.head?_dropWhile_not isWordChar rest
        simpa [after] using head
      rw [names_split separates, word _ begins, names_ofList_cons separates, List.nil_append]

theorem areDigits_toDigits (number : Nat) : areDigits (Nat.toDigits 10 number) := by
  simp only [areDigits, Bool.and_eq_true, Bool.not_eq_true', List.isEmpty_eq_false_iff, List.all_eq_true]
  exact ⟨Nat.toDigits_ne_nil, fun c member => Nat.isDigit_of_mem_toDigits (by decide) (by decide) member⟩

@[simp] theorem names_nat_append (number : Nat) (text : String) :
    names (number.repr ++ text) = names (String.ofList (text.toList.dropWhile isWordChar)) := by
  rw [← names_digits_append (areDigits_toDigits number), Nat.repr_eq_ofList_toDigits,
    String.ofList_append, String.ofList_toList]

@[simp] theorem names_int_append (number : Int) (text : String) :
    names (number.repr ++ text) = names (String.ofList (text.toList.dropWhile isWordChar)) := by
  cases number with
  | ofNat number => exact names_nat_append number text
  | negSucc number =>
      have written : (Int.negSucc number).repr = "-" ++ (number + 1).repr := rfl
      have sign : names "-" = [] := by decide
      rw [written, String.append_assoc, names_append_left (by decide), names_nat_append, sign,
        List.nil_append]

@[simp] theorem names_nat (number : Nat) : names number.repr = [] := by
  rw [← String.append_empty (s := number.repr), names_nat_append]
  exact names_empty

@[simp] theorem names_int (number : Int) : names number.repr = [] := by
  rw [← String.append_empty (s := number.repr), names_int_append]
  exact names_empty

/-! ## Numbered names -/

theorem toString_inj {first second : Nat} (same : toString first = toString second) : first = second := by
  have digits := congrArg String.toList same
  simp only [Nat.toString_eq_repr, Nat.toList_repr] at digits
  have numbers := congrArg (Nat.ofDigitChars 10 · 0) digits
  simpa only [Nat.ofDigitChars_ten_toDigits] using numbers

/-- The name of one of the composite types of a program. -/
def compositeName (kind : CompositeKind) (index : Int) : String :=
  match kind with
  | .struct => s!"S{index}"
  | .union => s!"U{index}"

section Numbered

variable (number : Nat)

theorem kind_numbered {kind : NameKind} (numbered : kind.numbered) :
    nameKind? (kind.stem ++ toString number).toList = some kind := by
  cases kind with
  | accumulator => cases numbered
  | counter => cases numbered
  | _ => simp [NameKind.stem, nameKind?, areDigits_toDigits]

/-- A stem with a number behind it is a single word. -/
theorem isWordChar_numbered {stem : String} (stemChars : stem.toList.all isWordChar) :
    ∀ c ∈ (stem ++ toString number).toList, isWordChar c := by
  intro c member
  rw [String.toList_append, List.mem_append, Nat.toString_eq_repr, Nat.toList_repr] at member
  rcases member with inStem | inNumber
  · exact List.all_eq_true.mp stemChars c inStem
  · exact isWordChar_of_isDigit (Nat.isDigit_of_mem_toDigits (by decide) (by decide) inNumber)

theorem names_numbered {kind : NameKind} (numbered : kind.numbered) :
    names (kind.stem ++ toString number) = [kind.stem ++ toString number] := by
  have stemChars : kind.stem.toList.all isWordChar := by
    cases kind <;> decide
  rw [names_word (isWordChar_numbered number stemChars), kind_numbered number numbered]
  rfl

/-- The variables of composite types are not among the names. -/
theorem names_compositeVariable {stem : String} (listed : stem = "gs_" ∨ stem = "gu_") :
    names (stem ++ toString number) = [] := by
  cases listed with
  | inl same =>
      subst same
      rw [names_word (isWordChar_numbered number (by decide))]
      simp [nameKind?]
  | inr same =>
      subst same
      rw [names_word (isWordChar_numbered number (by decide))]
      simp [nameKind?]

/-- Fields are not among the names. -/
theorem names_fieldName : names ("f" ++ toString number) = [] := by
  have digit : ∀ c ∈ Nat.toDigits 10 number, c.isDigit :=
    fun c member => Nat.isDigit_of_mem_toDigits (by decide) (by decide) member
  rw [names_word (isWordChar_numbered number (by decide)), String.toList_append, Nat.toString_eq_repr,
    Nat.toList_repr]
  cases digits : Nat.toDigits 10 number with
  | nil => rfl
  | cons c rest =>
      rw [digits] at digit
      have different : c ≠ 'u' := by
        intro same
        have isDigit := digit c (by simp)
        rw [same] at isDigit
        cases isDigit
      have none : nameKind? ('f' :: c :: rest) = none := by
        unfold nameKind?
        split <;> simp_all
      simp [none]

theorem globalName_eq : globalName number = NameKind.global.stem ++ toString number := rfl

theorem functionName_eq : functionName number = NameKind.function.stem ++ toString number := rfl

theorem paramName_eq : paramName number = NameKind.param.stem ++ toString number := rfl

theorem localName_eq : localName number = NameKind.returnLocal.stem ++ toString number := rfl

/-- The kind that the name of a composite type is of. -/
def CompositeKind.nameKind : CompositeKind → NameKind
  | struct => .struct
  | union => .union

theorem CompositeKind.nameKind_numbered (kind : CompositeKind) : kind.nameKind.numbered := by
  cases kind <;> rfl

theorem compositeName_eq (kind : CompositeKind) :
    compositeName kind number = kind.nameKind.stem ++ toString number := by
  cases kind <;> rfl

theorem kind_globalName : nameKind? (globalName number).toList = some .global := by
  rw [globalName_eq, kind_numbered number rfl]

theorem kind_functionName : nameKind? (functionName number).toList = some .function := by
  rw [functionName_eq, kind_numbered number rfl]

theorem kind_paramName : nameKind? (paramName number).toList = some .param := by
  rw [paramName_eq, kind_numbered number rfl]

theorem kind_localName : nameKind? (localName number).toList = some .returnLocal := by
  rw [localName_eq, kind_numbered number rfl]

theorem kind_compositeName (kind : CompositeKind) :
    nameKind? (compositeName kind number).toList = some kind.nameKind := by
  rw [compositeName_eq, kind_numbered number kind.nameKind_numbered]

theorem names_globalName : names (globalName number) = [globalName number] := by
  rw [globalName_eq, names_numbered number rfl]

theorem names_functionName : names (functionName number) = [functionName number] := by
  rw [functionName_eq, names_numbered number rfl]

theorem names_paramName : names (paramName number) = [paramName number] := by
  rw [paramName_eq, names_numbered number rfl]

theorem names_localName : names (localName number) = [localName number] := by
  rw [localName_eq, names_numbered number rfl]

theorem names_compositeName (kind : CompositeKind) :
    names (compositeName kind number) = [compositeName kind number] := by
  rw [compositeName_eq, names_numbered number kind.nameKind_numbered]

end Numbered

end RandomC
