import Mathlib.Data.List.Nodup
import RandomC.Proofs.Association
import RandomC.Settings.Store

/-!
# Values in the settings

A setting holds the value that was put into it last, and the other settings keep theirs.  So after values have been
given for some keys, a setting has the value given for its key, or else the value it had.
-/

namespace RandomC.Settings

/-- The value is of the kind that the setting holds. -/
def Setting.Holds (setting : Setting) (value : Value) : Prop :=
  match setting.access, value with
  | .number .., .number _ | .flag .., .flag _ | .words .., .words _ => True
  | _, _ => False

/-- A setting has the place of one value. -/
theorem map_get_set (settings : Settings) :
    ∀ place ∈ table.zipIdx, ∀ value, place.1.Holds value →
      table.map (·.get (place.1.set value settings)) = (table.map (·.get settings)).set place.2 value := by
  simp only [table, List.zipIdx_cons, List.zipIdx_nil, List.forall_mem_cons, List.not_mem_nil, false_implies,
    implies_true, and_true]
  and_intros
  all_goals
    intro value holds
    cases value <;> first | exact holds.elim | rfl

theorem nodup_keys : (table.map (·.key)).Nodup := by decide +kernel

theorem eq_of_key {setting other : Setting} (member : setting ∈ table) (also : other ∈ table)
    (same : other.key = setting.key) : other = setting :=
  List.inj_on_of_nodup_map nodup_keys also member same

theorem find?_key {setting : Setting} (member : setting ∈ table) : find? setting.key = some setting := by
  cases found : find? setting.key with
  | none => simpa using List.find?_eq_none.mp found setting member
  | some other =>
      have same : other.key = setting.key := by simpa using List.find?_some found
      rw [eq_of_key member (List.mem_of_find?_eq_some found) same]

/-- A setting holds the value put into it, and the other ones hold what they held. -/
theorem get_set {setting other : Setting} {value : Value} (member : setting ∈ table) (also : other ∈ table)
    (holds : setting.Holds value) (settings : Settings) :
    other.get (setting.set value settings) = if setting.key = other.key then value else other.get settings := by
  obtain ⟨i, found⟩ := List.mem_iff_getElem?.mp member
  obtain ⟨j, foundToo⟩ := List.mem_iff_getElem?.mp also
  have values := congrArg (·[j]?) (map_get_set settings (setting, i) (List.mk_mem_zipIdx_iff_getElem?.mpr found) value holds)
  have within : i < table.length := (List.getElem?_eq_some_iff.mp found).1
  have places : i = j ↔ setting.key = other.key := by
    constructor
    · rintro rfl
      exact congrArg Setting.key (Option.some.inj (found.symm.trans foundToo))
    · intro same
      have one := eq_of_key member also same.symm
      exact (List.getElem?_inj within (List.Nodup.of_map _ nodup_keys)).mp (found.trans (one ▸ foundToo.symm))
  simp only [List.getElem?_map, List.getElem?_set, foundToo, Option.map_some, List.length_map, within, if_true] at values
  rw [← apply_ite some] at values
  rw [Option.some.inj values]
  exact if_congr places rfl rfl

theorem override_cons (key : String) (value : Value) (rest : List (String × Value)) (settings : Settings) :
    settings.override ((key, value) :: rest) =
      (match find? key with
        | some setting => setting.set value settings
        | none => settings).override rest := rfl

/-- A setting has the value given for its key, or the one it had. -/
theorem get_override {given : List (String × Value)} (once : (given.map Prod.fst).Nodup)
    (holds : ∀ setting ∈ table, ∀ value, (setting.key, value) ∈ given → setting.Holds value) {setting : Setting}
    (member : setting ∈ table) (settings : Settings) :
    setting.get (settings.override given) = (given.lookup setting.key).getD (setting.get settings) := by
  induction given generalizing settings with
  | nil => rfl
  | cons entry rest ih =>
      obtain ⟨key, value⟩ := entry
      rw [List.map_cons, List.nodup_cons] at once
      have later := ih once.2 fun setting member value present =>
        holds setting member value (List.mem_cons_of_mem _ present)
      rw [override_cons, later, List.lookup_cons]
      cases found : find? key with
      | none =>
          have apart : setting.key ≠ key := by
            rintro rfl
            rw [find?_key member] at found
            cases found
          rw [beq_false_of_ne apart]
      | some target =>
          have known : target ∈ table := List.mem_of_find?_eq_some found
          have named : target.key = key := by simpa using List.find?_some found
          subst named
          dsimp only
          rw [get_set known member (holds target known value List.mem_cons_self)]
          by_cases same : target.key = setting.key
          · have absent : rest.lookup setting.key = none := lookup_eq_none.mpr (same ▸ once.1)
            simp [same, absent]
          · rw [if_neg same, beq_false_of_ne (Ne.symm same)]

/-! ## Loading -/

/-- Where all settings are stored, they are loaded. -/
theorem load_of_stored {document : Ini.Document} {values : Setting → Value}
    (stored : ∀ setting ∈ table, setting.stored document = .ok (some (values setting))) :
    load document = .ok (override (table.map fun setting => (setting.key, values setting)) {}) := by
  have loads (settings : Settings) (list : List Setting) (known : ∀ setting ∈ list, setting ∈ table) :
      list.foldlM (Setting.load document) settings =
        .ok (settings.override (list.map fun setting => (setting.key, values setting))) := by
    induction list generalizing settings with
    | nil => rfl
    | cons setting rest ih =>
        have member := known setting List.mem_cons_self
        have here : Setting.load document settings setting = .ok (setting.set (values setting) settings) := by
          rw [Setting.load, stored setting member]
          rfl
        rw [List.foldlM_cons, here, List.map_cons, override_cons, find?_key member]
        exact ih _ fun other present => known other (List.mem_cons_of_mem _ present)
  exact loads {} table fun _ member => member

/-- A setting that is loaded has its stored value. -/
theorem get_load {document : Ini.Document} {values : Setting → Value}
    (stored : ∀ setting ∈ table, setting.stored document = .ok (some (values setting)))
    (holds : ∀ setting ∈ table, setting.Holds (values setting)) :
    ∃ loaded, load document = .ok loaded ∧ ∀ setting ∈ table, setting.get loaded = values setting := by
  refine ⟨_, load_of_stored stored, fun setting member => ?_⟩
  have once : ((table.map fun setting => (setting.key, values setting)).map Prod.fst).Nodup := by
    rw [List.map_map]
    exact nodup_keys
  have fits : ∀ setting ∈ table, ∀ value, (setting.key, value) ∈ table.map (fun setting => (setting.key, values setting)) →
      setting.Holds value := by
    intro setting member value present
    obtain ⟨other, known, same⟩ := List.mem_map.mp present
    obtain ⟨key, rfl⟩ := Prod.mk.inj same
    exact eq_of_key member known key ▸ holds other known
  rw [get_override once fits member, lookup_of_mem once (List.mem_map_of_mem member), Option.getD_some]

end RandomC.Settings
