import Mathlib.Data.List.Basic

/-!
# Lists of keys and values

A value is assigned to a key by putting it in the place of the value that the key has, or at the end.  The entries
of a group and the files of a tree are kept like this.
-/

namespace RandomC

variable {α β : Type} [BEq α] [LawfulBEq α]

/-- The entries with a value assigned to a key. -/
def assign (key : α) (value : β) (entries : List (α × β)) : List (α × β) :=
  if (entries.lookup key).isSome then entries.map fun entry => if entry.1 == key then (key, value) else entry
  else entries ++ [(key, value)]

theorem lookup_eq_none {key : α} {entries : List (α × β)} :
    entries.lookup key = none ↔ key ∉ entries.map Prod.fst := by
  induction entries with
  | nil => simp
  | cons entry rest ih =>
      rw [List.lookup_cons, List.map_cons, List.mem_cons]
      by_cases same : key = entry.1
      · simp [same]
      · rw [beq_false_of_ne same]
        simp [ih, same]

theorem lookup_replaced {key other : α} {value : β} {entries : List (α × β)} :
    (entries.map fun entry => if entry.1 == key then (key, value) else entry).lookup other =
      if other == key then (entries.lookup key).map fun _ => value else entries.lookup other := by
  induction entries with
  | nil => simp
  | cons entry rest ih =>
      obtain ⟨name, old⟩ := entry
      rw [List.map_cons, List.lookup_cons, List.lookup_cons]
      by_cases same : name = key
      · subst same
        cases found : other == name <;> simp [List.lookup_cons, ih, found]
      · have apart : (key == name) = false := beq_false_of_ne fun eq => same eq.symm
        rw [if_neg (by simpa using same), List.lookup_cons, ih, apart]
        cases found : other == key with
        | true => simp [eq_of_beq found, apart]
        | false => simp

/-- The key has the value that was assigned to it, and the other keys have the values they had. -/
theorem lookup_assign {key other : α} {value : β} {entries : List (α × β)} :
    (assign key value entries).lookup other = if other == key then some value else entries.lookup other := by
  unfold assign
  split
  · next found =>
      obtain ⟨old, here⟩ := Option.isSome_iff_exists.mp found
      rw [lookup_replaced, here]
      rfl
  · next absent =>
      rw [Option.not_isSome_iff_eq_none] at absent
      rw [List.lookup_append, List.lookup_cons, List.lookup_nil]
      by_cases same : other = key
      · simp [same, absent]
      · simp [beq_false_of_ne same]

/-- A key that is assigned a value for the first time comes last. -/
theorem keys_assign {key : α} {value : β} {entries : List (α × β)} :
    (assign key value entries).map Prod.fst =
      if (entries.lookup key).isSome then entries.map Prod.fst else entries.map Prod.fst ++ [key] := by
  unfold assign
  split
  · rw [List.map_map]
    refine List.map_congr_left fun entry _ => ?_
    by_cases same : entry.1 = key <;> simp [same]
  · simp

omit [LawfulBEq α] in
theorem mem_assign {key : α} {value : β} {entries : List (α × β)} {entry : α × β}
    (member : entry ∈ assign key value entries) : entry = (key, value) ∨ entry ∈ entries := by
  unfold assign at member
  split at member
  · obtain ⟨old, present, same⟩ := List.mem_map.mp member
    split at same
    · exact .inl same.symm
    · exact .inr (same ▸ present)
  · rcases List.mem_append.mp member with present | new
    · exact .inr present
    · exact .inl (List.mem_singleton.mp new)

theorem nodup_keys_concat {key : α} {entries : List (α × β)} (once : (entries.map Prod.fst).Nodup)
    (absent : entries.lookup key = none) : (entries.map Prod.fst ++ [key]).Nodup := by
  refine List.nodup_append.mpr ⟨once, by simp, fun name present other same => ?_⟩
  rw [List.mem_singleton.mp same]
  rintro rfl
  exact lookup_eq_none.mp absent present

omit [BEq α] [LawfulBEq α] in
/-- Where no key comes twice, a key is not among those before it. -/
theorem fresh_of_nodup_keys {entry : α × β} {before after : List (α × β)}
    (once : ((before ++ entry :: after).map Prod.fst).Nodup) : entry.1 ∉ before.map Prod.fst := by
  rw [List.map_append, List.nodup_append] at once
  exact fun present => once.2.2 entry.1 present entry.1 (by simp) rfl

/-- No key comes twice if none did. -/
theorem nodup_keys_assign {key : α} {value : β} {entries : List (α × β)} (once : (entries.map Prod.fst).Nodup) :
    ((assign key value entries).map Prod.fst).Nodup := by
  rw [keys_assign]
  split
  · exact once
  · next absent => exact nodup_keys_concat once (Option.not_isSome_iff_eq_none.mp absent)

/-- Of two values that are assigned to one key, the second one counts. -/
theorem assign_assign {key : α} {first second : β} {entries : List (α × β)} :
    assign key second (assign key first entries) = assign key second entries := by
  have found : ((assign key first entries).lookup key).isSome := by simp [lookup_assign]
  rw [assign, if_pos found, assign, assign]
  split
  · rw [List.map_map]
    refine List.map_congr_left fun entry _ => ?_
    by_cases same : entry.1 = key <;> simp [same]
  · next absent =>
      rw [Option.not_isSome_iff_eq_none, List.lookup_eq_none_iff] at absent
      have unchanged : ∀ entry ∈ entries, (if entry.1 == key then (key, second) else entry) = entry := by
        intro entry member
        have apart : key ≠ entry.1 := by simpa using absent entry member
        rw [if_neg]
        simpa using apart.symm
      rw [List.map_append, List.map_congr_left unchanged]
      simp

theorem mem_of_lookup {key : α} {value : β} {entries : List (α × β)} (found : entries.lookup key = some value) :
    (key, value) ∈ entries := by
  obtain ⟨before, after, same, -⟩ := List.lookup_eq_some_iff.mp found
  rw [same]
  simp

/-- Where no key comes twice, a key has the value that comes with it. -/
theorem lookup_of_mem {key : α} {value : β} {entries : List (α × β)} (once : (entries.map Prod.fst).Nodup)
    (member : (key, value) ∈ entries) : entries.lookup key = some value := by
  induction entries with
  | nil => cases member
  | cons entry rest ih =>
      rw [List.map_cons, List.nodup_cons] at once
      rw [List.lookup_cons]
      rcases List.mem_cons.mp member with rfl | later
      · simp
      · have apart : key ≠ entry.1 := fun same => once.1 (same ▸ List.mem_map_of_mem later)
        rw [beq_false_of_ne apart]
        exact ih once.2 later

end RandomC
