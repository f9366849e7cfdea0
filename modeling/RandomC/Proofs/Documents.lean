import RandomC.Proofs.RoundTrip
import RandomC.Settings.Store

/-!
# Documents of values

The document in which rows are put has the value of each row in its place.  It is plain if the names and values are,
so it is read from its text as it was.
-/

namespace RandomC.Ini

/-! ## Putting a value -/

theorem lookup_map {β : Type} (f : String → β → β) (list : List (String × β)) (name : String) :
    (list.map fun (name, value) => (name, f name value)).lookup name = (list.lookup name).map (f name) := by
  induction list with
  | nil => rfl
  | cons first rest ih =>
      obtain ⟨other, value⟩ := first
      rw [List.map_cons, List.lookup_cons, List.lookup_cons]
      cases same : name == other with
      | true =>
          cases eq_of_beq same
          rfl
      | false => exact ih

namespace Document

variable {document : Document} {group key value : String}

/-- The value that a group has under a key, as it is written. -/
def written? (document : Document) (group key : String) : Option String :=
  (document.groups.lookup group).bind (·.lookup key)

theorem addGroup_eq : document.addGroup group =
    { document with
      groups := if (document.groups.lookup group).isSome then document.groups else document.groups ++ [(group, [])] } := by
  unfold addGroup
  split <;> rfl

theorem lookup_addGroup (other : String) :
    (document.addGroup group).groups.lookup other =
      if other = group then some ((document.groups.lookup group).getD []) else document.groups.lookup other := by
  rw [addGroup_eq]
  dsimp only
  split
  · next found =>
      obtain ⟨entries, here⟩ := Option.isSome_iff_exists.mp found
      split
      · next same => rw [same, here, Option.getD_some]
      · rfl
  · next absent =>
      rw [Option.not_isSome_iff_eq_none] at absent
      rw [List.lookup_append, List.lookup_cons, List.lookup_nil]
      by_cases same : other = group
      · simp [same, absent]
      · simp [same, beq_false_of_ne same]

theorem put_eq : document.put group key value =
    { document with
      groups := (document.addGroup group).groups.map fun (name, entries) =>
        (name, if name == group then assign key value entries else entries) } := by
  rw [put, addGroup_eq]
  rfl

/-- A value that is put into the document is in its place, and the other values stay. -/
theorem written?_put (otherGroup otherKey : String) :
    (document.put group key value).written? otherGroup otherKey =
      if otherGroup = group ∧ otherKey = key then some value else document.written? otherGroup otherKey := by
  rw [written?, put_eq]
  dsimp only
  rw [lookup_map fun name entries => if name == group then assign key value entries else entries, lookup_addGroup]
  by_cases same : otherGroup = group
  · subst same
    simp only [if_true, Option.map_some, beq_self_eq_true, Option.bind_some, lookup_assign, true_and, beq_iff_eq]
    split
    · rfl
    · rw [written?]
      cases document.groups.lookup otherGroup <;> rfl
  · rw [if_neg same, if_neg fun both => same both.1, written?]
    cases document.groups.lookup otherGroup <;> simp [same]

/-! ## Plain documents -/

theorem Plain.empty : Document.empty.Plain where
  noneShared := rfl
  names := by simp [Document.empty]
  entries := by simp [Document.empty]
  once := by simp [Document.empty]

theorem Plain.addGroup (plain : document.Plain) (plainGroup : isPlainName group) : (document.addGroup group).Plain := by
  rw [addGroup_eq]
  split
  · exact plain
  · next absent =>
      rw [Option.not_isSome_iff_eq_none] at absent
      have none : Entries.Plain [] := ⟨by simp, by simp, by simp⟩
      refine ⟨plain.noneShared, ?_, ?_, ?_⟩
      · exact List.forall_mem_append.mpr ⟨plain.names, by simpa using plainGroup⟩
      · exact List.forall_mem_append.mpr ⟨plain.entries, by simpa using none⟩
      · rw [List.map_append]
        exact nodup_keys_concat plain.once absent

theorem plain_assign {entries : Entries} (plain : entries.Plain) (plainKey : isPlainName key)
    (plainValue : PlainValue value) : Entries.Plain (assign key value entries) where
  keys entry member := by
    rcases mem_assign member with rfl | present
    · exact plainKey
    · exact plain.keys entry present
  values entry member := by
    rcases mem_assign member with rfl | present
    · exact plainValue
    · exact plain.values entry present
  once := nodup_keys_assign plain.once

/-- A document in which plain values are put under plain names stays plain. -/
theorem Plain.put (plain : document.Plain) (plainGroup : isPlainName group) (plainKey : isPlainName key)
    (plainValue : PlainValue value) : (document.put group key value).Plain := by
  have base := plain.addGroup plainGroup
  rw [put_eq]
  refine ⟨plain.noneShared, ?_, ?_, ?_⟩
  · intro changed member
    obtain ⟨old, present, rfl⟩ := List.mem_map.mp member
    exact base.names old present
  · intro changed member
    obtain ⟨old, present, rfl⟩ := List.mem_map.mp member
    dsimp only
    split
    · exact plain_assign (base.entries old present) plainKey plainValue
    · exact base.entries old present
  · rw [List.map_map]
    exact base.once

/-! ## Looking up values -/

theorem expandWith_of_absent {cs : List Char} (absent : '%' ∉ cs) (replacement : String → Except Error String) :
    expandWith replacement 0 cs = .ok (String.ofList cs) := by
  induction cs with
  | nil => rfl
  | cons c rest ih =>
      have apart : c ≠ '%' := fun same => absent (same ▸ List.mem_cons_self)
      have later := ih fun member => absent (List.mem_cons_of_mem _ member)
      have step : expandWith replacement 0 (c :: rest) =
          (expandWith replacement 0 rest).map (String.singleton c ++ ·) := by
        rw [expandWith.eq_def]
        dsimp only
        rw [if_pos apart]
        cases expandWith replacement 0 rest <;> rfl
      rw [step, later, Except.map]
      exact congrArg Except.ok (String.toList_inj.mp (by simp))

theorem expand_of_absent {text : String} (absent : '%' ∉ text.toList) (look : String → Option String)
    (missing : String → Error) (deep : Error) : expand look missing deep maxReferenceDepth text = .ok text := by
  have depth : maxReferenceDepth = 9 + 1 := rfl
  rw [depth, expand, expandWith_of_absent absent, String.ofList_toList]

/-- A plain value is found as it is written. -/
theorem find_of_written {text : String} (written : document.written? group key = some text) (plainKey : isPlainName key)
    (absent : '%' ∉ text.toList) : document.find group key = .ok (some text) := by
  obtain ⟨entries, found, here⟩ := Option.bind_eq_some_iff.mp written
  rw [find, Document.value, group?, found]
  dsimp only
  rw [lower_of_isPlainName plainKey, stored?, here]
  dsimp only
  rw [expand_of_absent absent]
  rfl

/-! ## Texts without carriage returns -/

theorem noReturn_of_isPlainName {name : String} (plain : isPlainName name) : '\r' ∉ name.toList := by
  intro member
  cases isNameChar_of_mem plain member

theorem noReturn_entriesText {entries : Entries} (plain : entries.Plain) : '\r' ∉ (entriesText entries).toList := by
  rw [entriesText, String.toList_join, List.mem_flatMap]
  rintro ⟨line, member, present⟩
  obtain ⟨⟨key, value⟩, entry, rfl⟩ := List.mem_map.mp member
  have plainKey := noReturn_of_isPlainName (plain.keys _ entry)
  have plainValue := plain.values _ entry
  have same : Text.replace "\n" "\n\t" value = value := Text.replace_of_absent rfl plainValue.noLineFeed _
  dsimp only at present plainKey plainValue
  rw [same] at present
  simp [plainKey, plainValue.noReturn] at present

theorem Plain.noReturn (plain : document.Plain) : '\r' ∉ document.text.toList := by
  rw [text, plain.noneShared, String.toList_append, String.toList_join]
  intro member
  rcases List.mem_append.mp member with nothing | present
  · cases nothing
  · obtain ⟨line, member, present⟩ := List.mem_flatMap.mp present
    obtain ⟨⟨name, entries⟩, group, rfl⟩ := List.mem_map.mp member
    have plainName := noReturn_of_isPlainName (plain.names _ group)
    have plainEntries := noReturn_entriesText (plain.entries _ group)
    have written : groupText name entries = "[" ++ name ++ "]\n" ++ entriesText entries ++ "\n" := rfl
    dsimp only at plainName plainEntries present
    simp [written, plainName, plainEntries] at present

end Document

end RandomC.Ini

namespace RandomC

theorem Text.lineFeeds_of_absent {cs : List Char} (absent : '\r' ∉ cs) : lineFeeds cs = cs := by
  fun_induction lineFeeds cs with
  | case1 => rfl
  | case2 rest ih => simp at absent
  | case3 c rest other ih =>
      rw [List.mem_cons, not_or] at absent
      rw [if_neg (Ne.symm absent.1), ih absent.2]

/-- A text without carriage returns is read as it is. -/
theorem Text.normalizeLineEnds_of_absent {text : String} (absent : '\r' ∉ text.toList) :
    normalizeLineEnds text = text := by
  rw [normalizeLineEnds, lineFeeds_of_absent absent, String.ofList_toList]

end RandomC
