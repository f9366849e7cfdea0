import RandomC.Proofs.Contract

/-!
# Draws are idle

Every step that only draws, and so every choice of a kind, a type, a qualifier or a place, leaves the
shared state as it is.  What is said about the values is what well-formed trees are made from.
-/

namespace RandomC

section Steps

variable {setup : Setup}

theorem idle_drawConstant (type : CType) : Idle (drawConstant setup type) Literal.Plain := by
  apply idle_draw
  intro source
  simp only [Literal.Plain, Literal.draw, draw_bind]
  by_cases byte : type.bits ≤ 8
  · simp [byte, literalSuffixes]
  · by_cases short : type.bits ≤ 16
    · simp [byte, short, literalSuffixes]
    · by_cases word : type.bits ≤ 32
      · cases type.signed <;> simp [byte, short, word, literalSuffixes]
      · cases setup.settings.longLong <;> cases type.signed <;>
          simp [byte, short, word, literalSuffixes]

theorem idle_drawBand (settings : Settings) : Idle (drawBand settings) fun _ => True := by
  unfold drawBand
  apply (idle_below 100).bind
  intro value _
  split
  · exact .pure trivial
  · generalize (if settings.globalVariables then 65 else 50) = share
    split <;> exact .pure trivial

/-- A drawn type is one of the scalars or a composite type that exists. -/
theorem idle_chooseType {type : CType} (known : setup.Knows type) :
    Idle (setup.layouts.chooseType setup.scalars type : Gen CType) setup.Knows := by
  unfold Layouts.chooseType
  dsimp only
  split
  · exact .pure known
  · rename_i inhabited
    apply (idle_below _).bind
    intro number bound
    have total : (number : Int) < setup.layouts.typeCount setup.scalars := by omega
    simp only [Layouts.typeAt, Layouts.typeCount] at total ⊢
    split
    · exact (idle_element _ _).mono fun _ member => .scalar member
    · split
      · rename_i notScalar isStruct
        obtain ⟨index, same⟩ := Int.eq_ofNat_of_zero_le (Int.not_lt.mp notScalar)
        rw [same] at isStruct ⊢
        exact .pure (.struct (by omega))
      · rename_i notScalar notStruct
        obtain ⟨index, same⟩ := Int.eq_ofNat_of_zero_le (Int.not_lt.mp notStruct |> Int.sub_nonneg.mpr)
        rw [same]
        exact .pure (.union (by omega))

/-- What is decoded is one of the entries or the fallback. -/
theorem decodeWeighted_mem {α : Type} (fallback : α) (entries : List (α × Int)) (value : Int) :
    decodeWeighted fallback entries value ∈ fallback :: entries.map Prod.fst := by
  induction entries generalizing value with
  | nil => exact List.mem_cons_self
  | cons entry rest ih =>
      have later (value : Int) :
          decodeWeighted fallback rest value ∈ fallback :: (entry :: rest).map Prod.fst :=
        List.cons_subset_cons fallback (List.subset_cons_self _ _) (ih value)
      rw [decodeWeighted]
      split
      · exact later value
      split
      · exact List.mem_cons_of_mem _ List.mem_cons_self
      · exact later _

/-- The kind of term may be chosen at all. -/
def Term.inUse (settings : Settings) : Term → Bool
  | .assign => settings.embeddedAssigns
  | .comma => settings.commaOperators
  | .call | .read | .constant => true

/-- Only a kind of term that is in use is decoded. -/
theorem decodeWeighted_inUse (settings : Settings) (argument : Bool) (value : Int) :
    (decodeWeighted .read (termWeights argument settings) value).inUse settings := by
  have member := decodeWeighted_mem .read (termWeights argument settings) value
  generalize decodeWeighted .read (termWeights argument settings) value = kind at member
  cases kind with
  | assign =>
      rw [Term.inUse]
      unfold termWeights at member
      cases embedded : settings.embeddedAssigns with
      | true => rfl
      | false => cases argument <;> cases settings.commaOperators <;> simp [embedded] at member
  | comma =>
      rw [Term.inUse]
      unfold termWeights at member
      cases operators : settings.commaOperators with
      | true => rfl
      | false => cases argument <;> cases settings.embeddedAssigns <;> simp [operators] at member
  | call => rfl
  | read => rfl
  | constant => rfl

theorem totalWeight_pos (argument : Bool) (settings : Settings) :
    0 < totalWeight (termWeights argument settings) := by
  cases argument <;> cases assigns : settings.embeddedAssigns <;> cases commas : settings.commaOperators <;>
    simp [termWeights, totalWeight, assigns, commas]

/-- A kind of term that is chosen was decoded from the weights, and may be chosen. -/
theorem idle_chooseTerm_decoded (settings : Settings) (argument : Bool) (barred : Term → Bool) :
    Idle (chooseTerm settings (termWeights argument settings) barred) fun chosen =>
      ∀ kind, chosen = some kind → barred kind = false ∧
        ∃ value : Nat, kind = decodeWeighted .read (termWeights argument settings) value := by
  unfold chooseTerm
  split
  · unfold chooseAllowed
    split
    · exact .pure nofun
    · apply (idle_belowUnless_of_pos (totalWeight_pos argument settings) _).bind
      intro value accepted
      apply Idle.pure
      rintro _ ⟨⟩
      exact ⟨accepted, value, rfl⟩
  · unfold chooseOnce
    apply (idle_below _).bind
    intro value _
    apply Idle.pure
    intro kind chosen
    split at chosen
    · cases chosen
    · rename_i allowed
      cases chosen
      exact ⟨by simpa using allowed, value, rfl⟩

/-- Only a kind of term that is in use is chosen. -/
theorem idle_chooseTerm (settings : Settings) (argument : Bool) (barred : Term → Bool) :
    Idle (chooseTerm settings (termWeights argument settings) barred) fun chosen =>
      ∀ kind, chosen = some kind → kind.inUse settings := by
  apply (idle_chooseTerm_decoded settings argument barred).mono
  intro chosen decoded kind same
  obtain ⟨-, value, rfl⟩ := decoded kind same
  exact decodeWeighted_inUse settings argument value

/-- A kind of term that may not be chosen is not chosen. -/
theorem idle_chooseTerm_allowed (settings : Settings) (argument : Bool) (barred : Term → Bool) :
    Idle (chooseTerm settings (termWeights argument settings) barred) fun chosen =>
      ∀ kind, chosen = some kind → barred kind = false :=
  (idle_chooseTerm_decoded settings argument barred).mono fun _ decoded kind same => (decoded kind same).1

/-- Only the number of terms that may still be used is changed. -/
theorem spendTerms_ends (settings : Settings) (count : Int) (world : World) (failed : World → Prop) :
    (spendTerms settings count).Ends world (fun _ after => world.Still after) failed := by
  unfold spendTerms
  split
  · exact .refl world
  · exact ⟨rfl, rfl, rfl⟩

theorem spendTerms_keeps {relation : World → World → Prop} [Progress relation] {world : World}
    (good : world.Good setup) (settings : Settings) (count : Int) :
    Keeps setup relation (spendTerms settings count) world fun _ after => world.Still after :=
  (spendTerms_ends settings count world _).mono
    (fun _ _ still => ⟨still.good good, Progress.of_still still, still⟩) fun _ sound => sound

/-- A sequence that begins with a charge for terms. -/
theorem Keeps.spendTerms {α : Type} {relation : World → World → Prop} [Progress relation] {world : World}
    {count : Int} {settings : Settings} {next : Unit → Gen α} {post : α → World → Prop}
    (good : world.Good setup)
    (second : ∀ after, after.Good setup → world.Still after → Keeps setup relation (next ()) after post) :
    Keeps setup relation (spendTerms settings count >>= next) world post :=
  (spendTerms_keeps good settings count).bind fun _ after good _ still => second after good still

theorem idle_termsExhausted (settings : Settings) : Idle (termsExhausted settings) fun _ => True :=
  fun world => ⟨Resting.refl world, trivial⟩

theorem idle_report (event : Event) : Idle (Gen.report event) fun _ => True :=
  fun _ => ⟨⟨⟨rfl, rfl, rfl⟩, rfl⟩, trivial⟩

/-- The targets of pointers and the drawn elements of arrays are on offer in every body. -/
theorem idle_indirectCandidates (params : List Variable) (flow : Flow) :
    Idle (indirectCandidates setup) fun candidates =>
      ∀ candidate ∈ candidates, Offered setup params flow candidate := by
  unfold indirectCandidates
  have element (v : ArrayVar) (member : v ∈ setup.env.arrays) :
      Idle (do return ⟨.element v.name (← Step.below v.length), v.type, true⟩ : Gen Candidate)
        (Offered setup params flow) := by
    apply (idle_below v.length).bind
    intro index bound
    exact .pure (.element member bound)
  apply (Idle.mapM element).bind
  intro elements offered
  apply Idle.pure
  intro candidate member
  rcases List.mem_append.mp member with pointer | element
  · obtain ⟨v, declared, rfl⟩ := List.mem_map.mp pointer
    exact .target declared
  · exact offered candidate element

end Steps

end RandomC
