import RandomC.Proofs.Composites
import RandomC.Proofs.Contents

/-!
# The text of composite types

While a composite type is declared on the sheet its layout is recorded.  Each layout is written as one block:
a line that opens it, one line for each field, and a line that closes it.  A field of no bits never comes first
nor behind another one, and no width reaches that of an integer.
-/

namespace RandomC

theorem Calm.of_idle {σ α : Type} [Drawing σ] [Resting σ] {step : Step σ α} {post also : α → Prop}
    (calm : Calm step post) (idle : Idle step also) : Calm step also := by
  intro state
  apply ((calm state).and (idle state)).mono
  · exact fun value after ends => ends.2
  · exact fun after ends => ends.1

/-! ## Fields -/

/-- The number of bits of a bit-field. -/
def Field.width? (field : Field) : Option Nat :=
  match field.kind with
  | .scalar _ => none
  | .bits _ width => some width

/-- The field is a scalar of the pool, or a bit-field of less bits than an integer has, where bit-fields are in
use.  The line that declares it, behind its qualifiers, names the type, or gives the width. -/
inductive Field.Stands (settings : Settings) (scalars : List CType) (field : Field) : Prop where
  | scalar {type : CType} (member : type ∈ scalars) (kind : field.kind = .scalar type)
      (line : field.text =
        qualifierText field.isConst field.isVolatile ++ (type.name ++ " " ++ field.name ++ ";"))
  | bits {signed : Bool} {width : Nat} (inUse : settings.bitfields = true)
      (bound : (width : Int) < 8 * settings.intSize) (kind : field.kind = .bits signed width)
      (line : field.text = qualifierText field.isConst field.isVolatile ++
        ((if signed then "signed" else "unsigned") ++ " " ++ field.name ++ " : " ++ toString width ++ ";"))

/-- The fields are named by their positions, each of them stands, and a bit-field of no bits has one in front of
it that is none. -/
structure Aligns (settings : Settings) (scalars : List CType) (members : List Field) : Prop where
  names : ∀ (index : Nat) (field : Field), members[index]? = some field → field.name = s!"f{index}"
  stand : ∀ field ∈ members, field.Stands settings scalars
  apart : ∀ (index : Nat) (field : Field), members[index]? = some field → field.width? = some 0 →
    ∃ (before : Nat) (prior : Field), index = before + 1 ∧ members[before]? = some prior ∧
      prior.width? ≠ some 0

/-- The layout of a type with so many fields at most, one of them at least. -/
structure Laid (settings : Settings) (scalars : List CType) (fieldLimit : Int) (members : Array Field) : Prop
    extends Aligns settings scalars members.toList where
  inhabited : 1 ≤ members.size
  limited : (members.size : Int) ≤ max 1 fieldLimit

/-- The types of one kind. -/
structure Layouts.Within (settings : Settings) (scalars : List CType) (inUse : Bool) (fieldLimit : Int)
    (types : List (Array Field)) : Prop where
  few : (types.length : Int) ≤ min (max fieldLimit 1) 32
  unused : inUse = false → types = []
  laid : ∀ members ∈ types, Laid settings scalars fieldLimit members

/-! ## Texts -/

/-- The lines of some fields. -/
def fieldLines (level : Int) (members : List Field) : String :=
  String.join (members.map fun field => Text.indentedLine level field.text)

/-- The lines of a composite type, and the empty one below. -/
def CompositeKind.block (kind : CompositeKind) (level : Int) (index : Nat) (members : Array Field) : String :=
  Text.indentedLine level (kind.keyword ++ compositeName kind index ++ " \x7b") ++
    fieldLines (level + 1) members.toList ++ Text.indentedLine level "\x7d;" ++ "\n"

/-- The blocks of the types of one kind, numbered from `first` on. -/
def CompositeKind.blocks (kind : CompositeKind) (level : Int) (first : Nat) (types : List (Array Field)) :
    String :=
  String.join (types.mapIdx fun index members => kind.block level (first + index) members)

/-- The composite types of a program below their heading. -/
def Layouts.text (level : Int) (layouts : Layouts) : String :=
  Text.indentedLine level "/* --- Struct/Union Declarations --- */" ++
    CompositeKind.struct.blocks level 0 layouts.structs ++ CompositeKind.union.blocks level 0 layouts.unions ++
    "\n"

/-! ## Fields that follow each other -/

section

variable {settings : Settings} {scalars : List CType} {members : List Field}

theorem aligns_nil : Aligns settings scalars [] := ⟨nofun, nofun, nofun⟩

/-- One more field, which may have no bits only where the one in front of it is none of those. -/
theorem Aligns.concat {field : Field} (aligns : Aligns settings scalars members)
    (name : field.name = s!"f{members.length}") (stands : field.Stands settings scalars)
    (apart : field.width? = some 0 → ∃ prior, members.getLast? = some prior ∧ prior.width? ≠ some 0) :
    Aligns settings scalars (members ++ [field]) := by
  have split {index : Nat} {other : Field} (found : (members ++ [field])[index]? = some other) :
      members[index]? = some other ∨ index = members.length ∧ other = field := by
    rw [List.getElem?_append] at found
    split at found
    · exact .inl found
    · obtain ⟨bound, same⟩ := List.getElem?_eq_some_iff.mp found
      rw [List.length_singleton] at bound
      exact .inr ⟨by omega, by simpa using same.symm⟩
  refine ⟨?names, List.forall_mem_append.mpr ⟨aligns.stand, List.forall_mem_singleton.mpr stands⟩, ?apart⟩
  case names =>
    intro index other found
    rcases split found with earlier | ⟨rfl, rfl⟩
    · exact aligns.names index other earlier
    · exact name
  case apart =>
    intro index other found zero
    rcases split found with earlier | ⟨rfl, rfl⟩
    · obtain ⟨before, prior, next, stood, some⟩ := aligns.apart index other earlier zero
      have bound := (List.getElem?_eq_some_iff.mp stood).1
      exact ⟨before, prior, next, by rw [List.getElem?_append_left bound, stood], some⟩
    · obtain ⟨prior, last, some⟩ := apart zero
      rw [List.getLast?_eq_getElem?] at last
      have bound := (List.getElem?_eq_some_iff.mp last).1
      exact ⟨members.length - 1, prior, by omega, by rw [List.getElem?_append_left bound, last], some⟩

/-- Where a field of no bits is not barred, there is one in front of it that is none. -/
theorem Composite.zeroWidthBarred_eq_false {prior : Array Field} (free : zeroWidthBarred prior = false) :
    ∃ last, prior.toList.getLast? = some last ∧ last.width? ≠ some 0 := by
  rw [Array.getLast?_toList]
  unfold zeroWidthBarred at free
  cases back : prior.back? with
  | none =>
      rw [back] at free
      cases free
  | some last =>
      refine ⟨last, rfl, fun zero => ?_⟩
      rw [back] at free
      obtain ⟨name, isConst, isVolatile, kind⟩ := last
      cases kind with
      | scalar type => cases zero
      | bits signed width =>
          cases zero
          cases free

theorem Field.stands_scalar {name : String} {isConst isVolatile : Bool} {type : CType} (member : type ∈ scalars) :
    Field.Stands settings scalars ⟨name, isConst, isVolatile, .scalar type⟩ := by
  refine .scalar member rfl ?_
  simp only [Field.text, String.append_assoc]
  rfl

theorem Field.stands_bits {name : String} {isConst isVolatile signed : Bool} {width : Nat}
    (inUse : settings.bitfields = true) (bound : (width : Int) < 8 * settings.intSize) :
    Field.Stands settings scalars ⟨name, isConst, isVolatile, .bits signed width⟩ := by
  refine .bits inUse bound rfl ?_
  simp only [Field.text, String.append_assoc]
  rfl

theorem fieldLines_append (level : Int) (first second : List Field) :
    fieldLines level (first ++ second) = fieldLines level first ++ fieldLines level second := by
  rw [fieldLines, List.map_append, String.join_append]
  rfl

end

/-! ## Declaring fields -/

namespace Composite

/-- The level and the text of the sheet. -/
structure State.Shows (level : Int) (text : String) (state : State) : Prop where
  level : state.sheet.level = level
  text : state.sheet.written = text

/-- So many fields more are aligned with those before, and their lines have been written. -/
def Grown (settings : Settings) (scalars : List CType) (level : Int) (text : String) (prior : Array Field)
    (count : Nat) (members : Array Field) (after : State) : Prop :=
  ∃ more : List Field, more.length = count ∧ members.toList = prior.toList ++ more ∧
    Aligns settings scalars members.toList ∧ after.Shows level (text ++ fieldLines level more)

section

variable {settings : Settings} {scalars : List CType} {level : Int} {text : String} {state : State}
variable {prior : Array Field}

/-- A draw leaves the sheet as it is. -/
theorem State.Shows.calm {α β : Type} {step : Step State α} {next : α → Step State β} {post : α → Prop}
    {ok : β → State → Prop} (shows : state.Shows level text) (calm : Calm step post)
    (second : ∀ value after, after.Shows level text → post value → (next value).Succeeds after ok) :
    (step >>= next).Succeeds state ok := by
  apply Step.Succeeds.calm calm
  intro value after still holds
  have same : after.sheet = state.sheet := still
  exact second value after ⟨same ▸ shows.level, same ▸ shows.text⟩ holds

theorem write_shows (item : Item) (shows : state.Shows level text) :
    (write item).Succeeds state fun _ after => after.Shows level (text ++ item.layout level) := by
  refine ⟨shows.level, ?_⟩
  rw [Text.Sheet.written_write, shows.text, shows.level]

theorem writeBlank_shows (shows : state.Shows level text) :
    writeBlank.Succeeds state fun _ after => after.Shows level (text ++ "\n") := by
  refine ⟨shows.level, ?_⟩
  rw [Text.Sheet.written_blankLine, shows.text]

theorem moveLevel_shows (margin : 0 ≤ level) (shows : state.Shows level text) :
    (moveLevel 1).Succeeds state fun back after => level = back ∧ after.Shows (level + 1) text := by
  have right : ¬ state.sheet.level + 1 < 0 := by
    rw [shows.level]
    omega
  simp only [moveLevel, changeLevel, Text.Sheet.shift, Step.Succeeds, Step.ends_bind, Step.ends_get,
    Step.ends_modify, right, if_false, Step.ends_pure]
  exact ⟨shows.level.symm, by rw [shows.level], shows.text⟩

theorem restoreLevel_shows {back : Int} (margin : 0 ≤ back) (shows : state.Shows level text) :
    (restoreLevel back).Succeeds state fun _ after => after.Shows back text := by
  simp only [restoreLevel, changeLevel, Text.Sheet.restore, Step.Succeeds, Step.ends_bind, Step.ends_get,
    Int.not_lt.mpr margin, if_false, Step.ends_modify, Step.ends_pure]
  exact ⟨rfl, shows.text⟩

/-- A width is below that of an integer, and it is zero only where this is not barred. -/
theorem calm_bitWidth_bound {bound : Int} (two : 2 ≤ bound) (prior : Array Field) :
    Calm (bitWidth bound prior) fun width =>
      (width : Int) < bound ∧ (width = 0 → zeroWidthBarred prior = false) := by
  unfold bitWidth
  apply (calm_below _).bind
  intro width below
  split
  · split
    · exact .pure ⟨by omega, nofun⟩
    · exact (calm_below _).bind fun again below => .pure ⟨by omega, nofun⟩
  · rename_i kept
    exact .pure ⟨by omega, fun zero => by simpa [zero] using kept⟩

/-- The field that has been declared is written on a line of its own. -/
theorem Grown.one {field : Field} (aligns : Aligns settings scalars prior.toList)
    (name : field.name = s!"f{prior.size}") (stands : field.Stands settings scalars)
    (apart : field.width? = some 0 → zeroWidthBarred prior = false)
    (shows : state.Shows level (text ++ (Item.field field).layout level)) :
    Grown settings scalars level text prior 1 (prior.push field) state := by
  refine ⟨[field], rfl, Array.toList_push, ?_, ?_⟩
  · rw [Array.toList_push]
    exact aligns.concat (by simpa using name) stands fun zero => zeroWidthBarred_eq_false (apart zero)
  · simpa [fieldLines, Item.layout, Item.lines] using shows

theorem scalarField_shows (inhabited : scalars ≠ []) (aligns : Aligns settings scalars prior.toList)
    (shows : state.Shows level text) :
    (scalarField settings scalars s!"f{prior.size}" prior).Succeeds state
      (Grown settings scalars level text prior 1) := by
  apply shows.calm (calm_choose inhabited)
  intro type state shows member
  apply shows.calm (calm_qualifiers settings)
  rintro ⟨isConst, isVolatile⟩ state shows -
  apply (write_shows _ shows).bind
  intro _ after shows
  exact .one aligns rfl (Field.stands_scalar member) nofun shows

theorem bitField_shows (words : 1 ≤ settings.intSize) (inUse : settings.bitfields = true)
    (aligns : Aligns settings scalars prior.toList) (shows : state.Shows level text) :
    (bitField settings s!"f{prior.size}" prior).Succeeds state
      (Grown settings scalars level text prior 1) := by
  apply shows.calm (calm_coin 50)
  intro signed state shows _
  apply shows.calm (calm_qualifiers settings)
  rintro ⟨isConst, isVolatile⟩ state shows -
  apply shows.calm (calm_bitWidth_bound (show 2 ≤ settings.intSize * 8 by omega) prior)
  rintro width state shows ⟨bound, free⟩
  apply (write_shows _ shows).bind
  intro _ after shows
  exact .one aligns rfl (Field.stands_bits inUse (by omega)) (fun zero => free (Option.some.inj zero)) shows

/-- A field that is a bit-field only where those are in use. -/
theorem field_shows {bits : Bool} (words : 1 ≤ settings.intSize) (inhabited : scalars ≠ [])
    (inUse : bits = true → settings.bitfields = true) (aligns : Aligns settings scalars prior.toList)
    (shows : state.Shows level text) :
    Step.Succeeds (if bits then bitField settings s!"f{prior.size}" prior
      else scalarField settings scalars s!"f{prior.size}" prior) state
        (Grown settings scalars level text prior 1) := by
  cases bits with
  | true => exact bitField_shows words (inUse rfl) aligns shows
  | false => exact scalarField_shows inhabited aligns shows

/-- Some more fields, where each one is aligned with those before.  Induction on their number. -/
theorem fields_shows {declare : String → Array Field → Step State (Array Field)}
    (each : ∀ (text : String) (prior : Array Field) (state : State), Aligns settings scalars prior.toList →
      state.Shows level text →
      (declare s!"f{prior.size}" prior).Succeeds state (Grown settings scalars level text prior 1))
    (count : Nat) (aligns : Aligns settings scalars prior.toList) (shows : state.Shows level text) :
    (fields declare count prior).Succeeds state (Grown settings scalars level text prior count) := by
  induction count generalizing prior text state with
  | zero =>
      refine ⟨[], rfl, (List.append_nil _).symm, aligns, ?_⟩
      simpa [fieldLines] using shows
  | succ count ih =>
      apply (each text prior state aligns shows).bind
      rintro members state ⟨first, single, grown, aligns, shows⟩
      apply (ih aligns shows).mono
      rintro members after ⟨more, amount, further, aligns, shows⟩
      refine ⟨first ++ more, ?_, ?_, aligns, ?_⟩
      · rw [List.length_append, single, amount, Nat.add_comm]
      · rw [further, grown, List.append_assoc]
      · rwa [fieldLines_append, ← String.append_assoc]

/-! ## Declaring types -/

theorem layout_openComposite (kind : CompositeKind) (level : Int) (index : Nat) :
    (Item.openComposite kind index).layout level =
      Text.indentedLine level (kind.keyword ++ compositeName kind index ++ " \x7b") := by
  have structs (rest : String) : "struct " ++ ("S" ++ rest) = "struct S" ++ rest := by
    rw [← String.append_assoc]
    rfl
  have unions (rest : String) : "union " ++ ("U" ++ rest) = "union U" ++ rest := by
    rw [← String.append_assoc]
    rfl
  have line : (Item.openComposite kind index).lines =
      [⟨0, kind.keyword ++ compositeName kind index ++ " \x7b"⟩] := by
    cases kind with
    | struct => simp [Item.lines, CompositeKind.keyword, compositeName, String.append_assoc, structs]
    | union => simp [Item.lines, CompositeKind.keyword, compositeName, String.append_assoc, unions]
  simp [Item.layout, line]

/-- The fields that were declared one after the other, from the first one on, are a layout. -/
theorem Grown.laid {fieldLimit : Int} {drawn : Nat} {members : Array Field}
    (below : (drawn : Int) < max 1 (max 1 fieldLimit))
    (grown : Grown settings scalars level text #[] (1 + drawn) members state) :
    Laid settings scalars fieldLimit members ∧
      state.Shows level (text ++ fieldLines level members.toList) := by
  obtain ⟨more, amount, all, aligns, shows⟩ := grown
  rw [List.nil_append] at all
  subst all
  rw [Array.length_toList] at amount
  exact ⟨⟨aligns, by omega, by omega⟩, shows⟩

/-- What follows the fields completes the block. -/
theorem close_shows (kind : CompositeKind) {index : Nat} {fieldLimit : Int} {members : Array Field}
    (laid : Laid settings scalars fieldLimit members)
    (shows : state.Shows level
      (text ++ (Item.openComposite kind index).layout level ++ fieldLines (level + 1) members.toList)) :
    Step.Succeeds (do
      write .closeComposite
      writeBlank
      return members) state fun members after =>
        Laid settings scalars fieldLimit members ∧ after.Shows level (text ++ kind.block level index members) := by
  apply (write_shows .closeComposite shows).bind
  intro _ state shows
  apply (writeBlank_shows shows).bind
  intro _ after shows
  have line : Item.closeComposite.layout level = Text.indentedLine level "\x7d;" := by
    simp [Item.layout, Item.lines]
  rw [layout_openComposite, line] at shows
  refine ⟨laid, shows.level, ?_⟩
  simp only [shows.text, CompositeKind.block, String.append_assoc]

theorem structType_shows (words : 1 ≤ settings.intSize) (inhabited : scalars ≠ []) (margin : 0 ≤ level)
    (index : Nat) (shows : state.Shows level text) :
    (structType settings scalars index).Succeeds state fun members after =>
      Laid settings scalars settings.maxStructFields members ∧
        after.Shows level (text ++ CompositeKind.struct.block level index members) := by
  have field {packed : Bool} (inUse : packed = true → settings.bitfields = true) (text : String)
      (prior : Array Field) (state : State) (aligns : Aligns settings scalars prior.toList)
      (shows : state.Shows (level + 1) text) :
      Step.Succeeds (do
        if ← structBits settings packed then bitField settings s!"f{prior.size}" prior
        else scalarField settings scalars s!"f{prior.size}" prior) state
          (Grown settings scalars (level + 1) text prior 1) := by
    apply shows.calm ((calm_structBits settings packed).of_idle (idle_structBits settings packed))
    intro bits state shows bitFields
    exact field_shows words inhabited (fun drawn => (bitFields drawn).elim inUse id) aligns shows
  apply shows.calm (calm_below _)
  intro count state shows below
  apply (write_shows _ shows).bind
  intro _ state shows
  apply (moveLevel_shows margin shows).bind
  rintro _ state ⟨rfl, shows⟩
  apply shows.calm (calm_decideIf (calm_coin 50))
  intro packed state shows inUse
  apply (fields_shows (field inUse) (1 + count) aligns_nil shows).bind
  intro members state grown
  obtain ⟨laid, shows⟩ := grown.laid below
  apply (restoreLevel_shows margin shows).bind
  intro _ state shows
  split
  · apply shows.calm (calm_coin 50).discard
    exact fun _ state shows _ => close_shows .struct laid shows
  · exact close_shows .struct laid shows

theorem unionType_shows (words : 1 ≤ settings.intSize) (inhabited : scalars ≠ []) (margin : 0 ≤ level)
    (index : Nat) (shows : state.Shows level text) :
    (unionType settings scalars index).Succeeds state fun members after =>
      Laid settings scalars settings.maxUnionFields members ∧
        after.Shows level (text ++ CompositeKind.union.block level index members) := by
  have field (text : String) (prior : Array Field) (state : State)
      (aligns : Aligns settings scalars prior.toList) (shows : state.Shows (level + 1) text) :
      Step.Succeeds (do
        if ← Step.decideIf settings.bitfields (Step.coin 10) then bitField settings s!"f{prior.size}" prior
        else scalarField settings scalars s!"f{prior.size}" prior) state
          (Grown settings scalars (level + 1) text prior 1) := by
    apply shows.calm (calm_decideIf (calm_coin 10))
    intro bits state shows inUse
    exact field_shows words inhabited inUse aligns shows
  apply shows.calm (calm_below _)
  intro count state shows below
  apply (write_shows _ shows).bind
  intro _ state shows
  apply (moveLevel_shows margin shows).bind
  rintro _ state ⟨rfl, shows⟩
  apply (fields_shows field (1 + count) aligns_nil shows).bind
  intro members state grown
  obtain ⟨laid, shows⟩ := grown.laid below
  apply (restoreLevel_shows margin shows).bind
  intro _ state shows
  exact close_shows .union laid shows

theorem calm_moreTypes : Calm moreTypes fun _ => True := by
  intro state
  apply Step.ends_bind.mpr
  apply Step.ends_get.mpr
  split
  · exact ⟨rfl, trivial⟩
  · exact calm_coin 50 state

/-- Some types of one kind.  Induction on the number that is left. -/
theorem types_shows (kind : CompositeKind) {fieldLimit : Int} {declare : Int → Step State (Array Field)}
    (each : ∀ (text : String) (index : Nat) (state : State), state.Shows level text →
      (declare index).Succeeds state fun members after =>
        Laid settings scalars fieldLimit members ∧ after.Shows level (text ++ kind.block level index members))
    (left index : Nat) (shows : state.Shows level text) :
    (types declare left index).Succeeds state fun made after =>
      made.length ≤ left ∧ (∀ members ∈ made, Laid settings scalars fieldLimit members) ∧
        after.Shows level (text ++ kind.blocks level index made) := by
  induction left generalizing text index state with
  | zero =>
      refine ⟨Nat.le_refl 0, nofun, ?_⟩
      simpa [CompositeKind.blocks] using shows
  | succ left ih =>
      apply shows.calm calm_moreTypes
      intro follows state shows _
      cases follows with
      | false =>
          refine ⟨Nat.zero_le _, nofun, ?_⟩
          simpa [CompositeKind.blocks] using shows
      | true =>
          apply (each text index state shows).bind
          rintro members state ⟨laid, shows⟩
          have counted : { state with typeCount := state.typeCount + 1 }.Shows level
              (text ++ kind.block level index members) := ⟨shows.level, shows.text⟩
          apply Step.ends_bind.mpr
          apply Step.ends_modify.mpr
          apply (ih (index + 1) counted).bind
          rintro made after ⟨few, all, shows⟩
          refine ⟨Nat.succ_le_succ few, List.forall_mem_cons.mpr ⟨laid, all⟩, ?_⟩
          have blocks : kind.blocks level index (members :: made) =
              kind.block level index members ++ kind.blocks level (index + 1) made := by
            simp [CompositeKind.blocks, Nat.add_assoc, Nat.add_comm 1]
          rwa [blocks, ← String.append_assoc]

/-- The types of one kind, if they are in use. -/
theorem typesIf_shows (kind : CompositeKind) {fieldLimit : Int} {declare : Int → Step State (Array Field)}
    (each : ∀ (text : String) (index : Nat) (state : State), state.Shows level text →
      (declare index).Succeeds state fun members after =>
        Laid settings scalars fieldLimit members ∧ after.Shows level (text ++ kind.block level index members))
    (inUse : Bool) (shows : state.Shows level text) :
    (typesIf inUse declare fieldLimit).Succeeds state fun made after =>
      Layouts.Within settings scalars inUse fieldLimit made ∧
        after.Shows level (text ++ kind.blocks level 0 made) := by
  cases inUse with
  | true =>
      apply (types_shows kind each (maxTypes fieldLimit) 0 shows).mono
      rintro made after ⟨few, laid, shows⟩
      refine ⟨⟨?_, nofun, laid⟩, shows⟩
      unfold maxTypes maxAggregates at few
      omega
  | false =>
      refine ⟨⟨?_, fun _ => rfl, nofun⟩, ?_⟩
      · rw [List.length_nil]
        omega
      · simpa [CompositeKind.blocks] using shows

/-- The layouts that are made are those that are written, below a heading. -/
theorem generate_shows (words : 1 ≤ settings.intSize) (inhabited : scalars ≠ []) (margin : 0 ≤ level)
    (shows : state.Shows level text) :
    (generate settings scalars).Succeeds state fun layouts after =>
      Layouts.Within settings scalars settings.structs settings.maxStructFields layouts.structs ∧
        Layouts.Within settings scalars settings.unions settings.maxUnionFields layouts.unions ∧
        after.Shows level (text ++ layouts.text level) := by
  apply (write_shows (.heading "Struct/Union Declarations") shows).bind
  intro _ state shows
  apply (typesIf_shows .struct (fun _ index _ => structType_shows words inhabited margin index) _ shows).bind
  rintro structs state ⟨structsWithin, shows⟩
  apply (typesIf_shows .union (fun _ index _ => unionType_shows words inhabited margin index) _ shows).bind
  rintro unions state ⟨unionsWithin, shows⟩
  apply (writeBlank_shows shows).bind
  intro _ after shows
  refine ⟨structsWithin, unionsWithin, shows.level, ?_⟩
  rw [shows.text]
  simp [Layouts.text, Item.layout, Item.lines, String.append_assoc]

end

/-- Whatever the settings and the scalars are, and from any random state, composite types are declared without
fail.  What is written is a heading and one block for each layout, the structs first, numbered from zero on,
and the level of the sheet is as before. -/
theorem generate_writes_layouts (settings : Settings) (scalars : List CType) (state : State)
    (words : 1 ≤ settings.intSize) (inhabited : scalars ≠ []) (margin : 0 ≤ state.sheet.level) :
    ∃ (layouts : Layouts) (after : State), generate settings scalars state = (.ok layouts, after) ∧
      Layouts.Within settings scalars settings.structs settings.maxStructFields layouts.structs ∧
      Layouts.Within settings scalars settings.unions settings.maxUnionFields layouts.unions ∧
      after.sheet.written = state.sheet.written ++ layouts.text state.sheet.level ∧
      after.sheet.level = state.sheet.level := by
  have start : state.Shows state.sheet.level state.sheet.written := ⟨rfl, rfl⟩
  obtain ⟨layouts, after, made, structs, unions, shows⟩ :=
    (generate_shows words inhabited margin start).exists
  exact ⟨layouts, after, made, structs, unions, shows.text, shows.level⟩

/-- The settings of a program for which nothing was chosen, on a target with integers of four bytes. -/
def targetSettings : Settings := { intSize := 4, pointerSize := 8 }

/-- A struct of three fields and a union of one are written as they were made. -/
theorem generate_writes_layouts_small : ∃ (layouts : Layouts) (after : State),
    generate targetSettings (CType.scalars 4 true) (.initial (.ofSeed 168 false)) = (.ok layouts, after) ∧
      layouts.structs.map Array.size = [3] ∧ layouts.unions.map Array.size = [1] ∧
      after.sheet.written = layouts.text 0 := by
  have sizes : (generate targetSettings (CType.scalars 4 true) (.initial (.ofSeed 168 false))).1.toOption.map
      (fun layouts => (layouts.structs.map Array.size, layouts.unions.map Array.size)) = some ([3], [1]) := by
    decide +kernel
  obtain ⟨layouts, after, made, -, -, written, -⟩ := generate_writes_layouts targetSettings
    (CType.scalars 4 true) (.initial (.ofSeed 168 false)) (by decide) (scalars_ne_nil _ _) (by decide)
  rw [made] at sizes
  obtain ⟨structs, unions⟩ := Prod.mk.inj (Option.some.inj sizes)
  exact ⟨layouts, after, made, structs, unions, written.trans String.empty_append⟩

end Composite

end RandomC
