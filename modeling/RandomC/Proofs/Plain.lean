import Mathlib.Data.List.Induction
import RandomC.Ini.Reader
import RandomC.Proofs.Storing

/-!
# Plain names and values

Names of small letters, digits and underscores, and values of one line without white space around them, are read as
they are written.
-/

namespace RandomC

/-! ## Trimming -/

namespace Text

/-- There is no white space around the characters. -/
structure Trimmed (cs : List Char) : Prop where
  start : ∀ c ∈ cs.head?, isBlank c = false
  finish : ∀ c ∈ cs.getLast?, isBlank c = false

theorem dropWhile_of_head {cs : List Char} {p : Char → Bool} (head : ∀ c ∈ cs.head?, p c = false) :
    cs.dropWhile p = cs := by
  cases cs with
  | nil => rfl
  | cons c rest => exact List.dropWhile_cons_of_neg (by simp [head c rfl])

theorem trim_of_start {cs : List Char} (start : ∀ c ∈ cs.head?, isBlank c = false) : trim cs = trimEnd cs := by
  rw [trim, dropWhile_of_head start]

theorem trimEnd_of_finish {cs : List Char} (finish : ∀ c ∈ cs.getLast?, isBlank c = false) : trimEnd cs = cs := by
  rw [trimEnd, dropWhile_of_head (by simpa using finish), List.reverse_reverse]

theorem Trimmed.trim {cs : List Char} (trimmed : Trimmed cs) : trim cs = cs := by
  rw [trim_of_start trimmed.start, trimEnd_of_finish trimmed.finish]

theorem stripEnd_of_trimmed {text : String} (trimmed : Trimmed text.toList) : stripEnd text = text := by
  rw [stripEnd, trimEnd_of_finish trimmed.finish, String.ofList_toList]

theorem strip_of_trimmed {text : String} (trimmed : Trimmed text.toList) : strip text = text := by
  rw [strip, trimmed.trim, String.ofList_toList]

theorem trimEnd_concat {c : Char} (blank : isBlank c) (cs : List Char) : trimEnd (cs ++ [c]) = trimEnd cs := by
  simp [trimEnd, blank]

theorem trimEnd_concat_solid {c : Char} (solid : isBlank c = false) (cs : List Char) :
    trimEnd (cs ++ [c]) = cs ++ [c] := trimEnd_of_finish (by simp [solid])

/-- What stands before the last character that is no white space stays. -/
theorem trimEnd_append {c : Char} (solid : isBlank c = false) (cs rest : List Char) :
    trimEnd (cs ++ c :: rest) = cs ++ c :: trimEnd rest := by
  induction rest using List.reverseRecOn with
  | nil => exact trimEnd_concat_solid solid cs
  | append_singleton rest last ih =>
      rw [← List.cons_append, ← List.append_assoc]
      cases blank : isBlank last with
      | true => rw [trimEnd_concat blank, trimEnd_concat blank, ih]
      | false => rw [trimEnd_concat_solid blank, trimEnd_concat_solid blank, List.append_assoc, List.cons_append]

end Text

namespace Ini

/-! ## Names -/

/-- A small letter, a digit or an underscore. -/
def isNameChar (c : Char) : Bool := c.isLower || c.isDigit || c == '_'

/-- A name that is read as it is written. -/
def isPlainName (name : String) : Bool := ! name.toList.isEmpty && name.toList.all isNameChar

theorem toNat_of_isNameChar {c : Char} (isName : isNameChar c) :
    48 ≤ c.toNat ∧ c.toNat ≤ 57 ∨ c.toNat = 95 ∨ 97 ≤ c.toNat ∧ c.toNat ≤ 122 := by
  simp only [isNameChar, Bool.or_eq_true, beq_iff_eq] at isName
  rcases isName with (lower | digit) | rfl
  · have bounds := Bool.and_eq_true_iff.mp (show (decide ('a'.val ≤ c.val) && decide (c.val ≤ 'z'.val)) = true from lower)
    have atLeast : 97 ≤ c.toNat := UInt32.le_iff_toNat_le.mp (of_decide_eq_true bounds.1)
    have atMost : c.toNat ≤ 122 := UInt32.le_iff_toNat_le.mp (of_decide_eq_true bounds.2)
    exact .inr (.inr ⟨atLeast, atMost⟩)
  · exact .inl (Text.toNat_of_isDigit digit)
  · decide

/-- A character of a name is neither white space nor one of those that tell what a line is. -/
theorem ne_of_isNameChar {c other : Char} (isName : isNameChar c) (isOther : isNameChar other = false) : c ≠ other := by
  rintro rfl
  rw [isName] at isOther
  cases isOther

theorem isBlank_of_isNameChar {c : Char} (isName : isNameChar c) : Text.isBlank c = false := by
  have bounds := toNat_of_isNameChar isName
  simp only [Text.isBlank, Bool.or_eq_false_iff, Bool.and_eq_false_iff, decide_eq_false_iff_not, beq_eq_false_iff_ne]
  omega

theorem isDelimiter_of_isNameChar {c : Char} (isName : isNameChar c) : isDelimiter c = false := by
  simp [isDelimiter, ne_of_isNameChar isName (show isNameChar '=' = false by decide),
    ne_of_isNameChar isName (show isNameChar ':' = false by decide)]

theorem lowerChar_of_isNameChar {c : Char} (isName : isNameChar c) : Text.lowerChar c = [c] := by
  have bounds := toNat_of_isNameChar isName
  have noCapital : ¬ (c.val ≥ 'A'.val ∧ c.val ≤ 'Z'.val) := by
    rintro ⟨first, last⟩
    have atLeast : 65 ≤ c.toNat := UInt32.le_iff_toNat_le.mp first
    have atMost : c.toNat ≤ 90 := UInt32.le_iff_toNat_le.mp last
    omega
  have same : c.toLower = c := dif_neg noCapital
  rw [Text.lowerChar, if_pos (by omega), same]

theorem lowerFrom_of_isNameChar {cs : List Char} (isName : ∀ c ∈ cs, isNameChar c) (before : List Char) :
    Text.lowerFrom before cs = cs := by
  induction cs generalizing before with
  | nil => rfl
  | cons c rest ih =>
      have here := isName c List.mem_cons_self
      have bounds := toNat_of_isNameChar here
      rw [Text.lowerFrom, if_neg (by omega), lowerChar_of_isNameChar here,
        ih fun c member => isName c (List.mem_cons_of_mem _ member)]
      rfl

theorem isNameChar_of_mem {name : String} (plain : isPlainName name) {c : Char} (member : c ∈ name.toList) :
    isNameChar c := by
  rw [isPlainName, Bool.and_eq_true, List.all_eq_true] at plain
  exact plain.2 c member

/-- A plain name is in lower case. -/
theorem lower_of_isPlainName {name : String} (plain : isPlainName name) : Text.lower name = name := by
  rw [Text.lower, lowerFrom_of_isNameChar fun _ => isNameChar_of_mem plain, String.ofList_toList]

theorem exists_cons_of_isPlainName {name : String} (plain : isPlainName name) :
    ∃ c rest, name.toList = c :: rest ∧ isNameChar c := by
  have notEmpty : name.toList ≠ [] := by
    rw [isPlainName, Bool.and_eq_true, Bool.not_eq_true', List.isEmpty_eq_false_iff] at plain
    exact plain.1
  obtain ⟨c, rest, written⟩ := List.exists_cons_of_ne_nil notEmpty
  exact ⟨c, rest, written, isNameChar_of_mem plain (written ▸ List.mem_cons_self)⟩

/-! ## Values -/

/-- A value that is read as it is written. -/
structure PlainValue (value : String) : Prop where
  noLineFeed : '\n' ∉ value.toList
  noReturn : '\r' ∉ value.toList
  noPercent : '%' ∉ value.toList
  trimmed : Text.Trimmed value.toList

/-- Entries of which each has another plain name for a key, and a plain value. -/
structure Entries.Plain (entries : Entries) : Prop where
  keys : ∀ entry ∈ entries, isPlainName entry.1
  values : ∀ entry ∈ entries, PlainValue entry.2
  once : (entries.map Prod.fst).Nodup

/-- A document of groups of which each has another plain name, and plain entries. -/
structure Document.Plain (document : Document) : Prop where
  noneShared : document.shared = []
  names : ∀ group ∈ document.groups, isPlainName group.1
  entries : ∀ group ∈ document.groups, Entries.Plain group.2
  once : (document.groups.map Prod.fst).Nodup

end Ini

end RandomC
