import RandomC.Proofs.Redraws

/-!
# Choosing among candidates

The candidates for a type stand in three tiers: those of its sign and width, those of its width and the other
sign, and all of them.  Each tier keeps the order in which the candidates are on offer.  One of the first tier that
is not empty is drawn; where no candidate can be used at all, nothing is drawn.
-/

namespace RandomC

/-! ## Tiers -/

namespace Candidate

/-- The candidate can be used: what is to be assigned has to be assignable. -/
def Usable (forAssignment : Bool) (candidate : Candidate) : Prop :=
  forAssignment = true → candidate.assignable = true

instance (forAssignment : Bool) : DecidablePred (Usable forAssignment) :=
  fun candidate => inferInstanceAs (Decidable (forAssignment = true → candidate.assignable = true))

/-- The candidate has the sign and the width of the type. -/
def Matches (type : CType) (candidate : Candidate) : Prop :=
  candidate.type.signed = type.signed ∧ candidate.type.bits = type.bits

/-- The candidate has the width of the type, but not its sign. -/
def MatchesWidth (type : CType) (candidate : Candidate) : Prop :=
  candidate.type.signed ≠ type.signed ∧ candidate.type.bits = type.bits

instance (type : CType) : DecidablePred (Matches type) := fun _ => inferInstanceAs (Decidable (_ ∧ _))

instance (type : CType) : DecidablePred (MatchesWidth type) := fun _ => inferInstanceAs (Decidable (_ ∧ _))

end Candidate

/-- The candidates that can be used for a type, in tiers; an earlier tier is preferred to a later one. -/
def tiers (type : CType) (forAssignment : Bool) (candidates : List Candidate) : List (List Candidate) :=
  let usable := candidates.filter (·.Usable forAssignment)
  [usable.filter (·.Matches type), usable.filter (·.MatchesWidth type), usable]

section

variable {type : CType} {forAssignment : Bool} {candidates tier : List Candidate}

/-- The first tier with a candidate in it. -/
def bestTier? (type : CType) (forAssignment : Bool) (candidates : List Candidate) : Option (List Candidate) :=
  (tiers type forAssignment candidates).find? fun tier => ! tier.isEmpty

theorem bestTier?_eq_none :
    bestTier? type forAssignment candidates = none ↔ ∀ c ∈ candidates, ¬ c.Usable forAssignment := by
  have empty : candidates.filter (·.Usable forAssignment) = [] ↔ ∀ c ∈ candidates, ¬ c.Usable forAssignment := by
    simp only [List.filter_eq_nil_iff, decide_eq_true_iff]
  rw [← empty, bestTier?, tiers, List.find?_eq_none]
  constructor
  · intro none
    have last := none _ (List.mem_cons_of_mem _ (List.mem_cons_of_mem _ List.mem_cons_self))
    simpa using last
  · intro none
    simp [none]

theorem mem_of_bestTier? (best : bestTier? type forAssignment candidates = some tier) :
    tier ∈ tiers type forAssignment candidates ∧ tier ≠ [] := by
  have nonempty := List.find?_some best
  exact ⟨List.mem_of_find?_eq_some best, by simpa using nonempty⟩

/-- All candidates of a tier can be used. -/
theorem usable_of_mem_tier {candidate : Candidate} (among : tier ∈ tiers type forAssignment candidates)
    (member : candidate ∈ tier) : candidate ∈ candidates ∧ candidate.Usable forAssignment := by
  have usable (kept : candidate ∈ candidates.filter (·.Usable forAssignment)) :
      candidate ∈ candidates ∧ candidate.Usable forAssignment := by
    rwa [List.mem_filter, decide_eq_true_iff] at kept
  simp only [tiers, List.mem_cons, List.not_mem_nil, or_false] at among
  rcases among with rfl | rfl | rfl
  · exact usable (List.mem_of_mem_filter member)
  · exact usable (List.mem_of_mem_filter member)
  · exact usable member

/-- Where some candidate has the sign and the width of the type, the first tier is not empty. -/
theorem matches_of_bestTier? (best : bestTier? type forAssignment candidates = some tier) {candidate : Candidate}
    (member : candidate ∈ candidates) (usable : candidate.Usable forAssignment) (suits : candidate.Matches type) :
    ∀ chosen ∈ tier, chosen.Matches type := by
  have inFirst : candidate ∈ (candidates.filter (·.Usable forAssignment)).filter (·.Matches type) := by
    simp only [List.mem_filter, decide_eq_true_iff]
    exact ⟨⟨member, usable⟩, suits⟩
  have filled : (! ((candidates.filter (·.Usable forAssignment)).filter (·.Matches type)).isEmpty) = true := by
    rw [Bool.not_eq_true', List.isEmpty_eq_false_iff]
    exact List.ne_nil_of_mem inFirst
  simp only [bestTier?, tiers, List.find?_cons, filled] at best
  obtain rfl := Option.some.inj best
  intro chosen kept
  exact of_decide_eq_true (List.mem_filter.mp kept).2

/-- The candidates among which the draw decides are those of the first tier that is not empty. -/
theorem bestCandidates_eq :
    bestCandidates type (if forAssignment then candidates.filter (·.assignable) else candidates) =
      (bestTier? type forAssignment candidates).getD [] := by
  have usable : (if forAssignment then candidates.filter (·.assignable) else candidates) =
      candidates.filter (·.Usable forAssignment) := by
    cases forAssignment <;> simp [Candidate.Usable]
  rw [usable, bestTier?, tiers, bestCandidates]
  generalize candidates.filter (·.Usable forAssignment) = usable
  have first : usable.filter (·.type.sameBase type) = usable.filter (·.Matches type) := by
    apply List.filter_congr
    intro c _
    rw [CType.sameBase, Bool.and_comm]
    exact (Bool.decide_and _ _).symm
  have second : (usable.filter fun c => ! c.type.sameBase type && c.type.bits = type.bits) =
      usable.filter (·.MatchesWidth type) := by
    apply List.filter_congr
    intro c _
    by_cases width : c.type.bits = type.bits <;> simp [CType.sameBase, Candidate.MatchesWidth, width]
  simp only [first, second, List.find?_cons, List.find?_nil]
  cases (usable.filter (·.Matches type)).isEmpty with
  | false => rfl
  | true =>
      cases (usable.filter (·.MatchesWidth type)).isEmpty with
      | false => rfl
      | true => cases usable <;> rfl

end

/-! ## Draws from a tier -/

open RandomC.Random

/-- An element of a list that is not empty is drawn by one value of the stream. -/
theorem Step.choose_apply {σ α : Type} [Drawing σ] {list : List α} (filled : list ≠ []) (state : σ) :
    let source := (Drawing.stream state).source
    ∃ chosen, list[source.valueAfter 0 % list.length]? = some chosen ∧
      (Step.choose list : Step σ α) state = (.ok chosen, Drawing.drawnTo ((source.skip 1).record
        (.bounded list.length (source.valueAfter 0 % list.length) 0 (source.valueAfter 0))) state) := by
  intro source
  have positive : 0 < list.length := List.length_pos_iff.mpr filled
  have found := List.getElem?_eq_getElem (Nat.mod_lt (source.valueAfter 0) positive)
  have value : source.valueBelow list.length 0 = source.valueAfter 0 % list.length := rfl
  refine ⟨_, found, ?_⟩
  rw [Step.choose, Step.bind_apply, Step.below, Step.draw_apply, Source.below_eq (by omega), value]
  dsimp only
  rw [Step.element_eq_pure found]
  rfl

section

variable {σ : Type} [Drawing σ] {type : CType} {forAssignment : Bool} {candidates tier : List Candidate}

theorem selectPlace_of_none (best : bestTier? type forAssignment candidates = none) (state : σ) :
    (selectPlace type candidates forAssignment : Step σ (Option Candidate)) state = (.ok none, state) := by
  simp only [selectPlace, bestCandidates_eq, best, Option.getD_none, List.isEmpty_nil, if_true, Step.pure_apply]

/-- One value of the stream decides among the candidates of the tier. -/
theorem selectPlace_of_some (best : bestTier? type forAssignment candidates = some tier) (state : σ) :
    let source := (Drawing.stream state).source
    ∃ chosen, tier[source.valueAfter 0 % tier.length]? = some chosen ∧
      (selectPlace type candidates forAssignment : Step σ (Option Candidate)) state =
        (.ok (some chosen), Drawing.drawnTo ((source.skip 1).record
          (.bounded tier.length (source.valueAfter 0 % tier.length) 0 (source.valueAfter 0))) state) := by
  intro source
  obtain ⟨-, filled⟩ := mem_of_bestTier? best
  obtain ⟨chosen, found, draws⟩ := Step.choose_apply filled state
  refine ⟨chosen, found, ?_⟩
  simp only [selectPlace, bestCandidates_eq, best, Option.getD_some, List.isEmpty_eq_false_iff.mpr filled,
    Bool.false_eq_true, if_false, Step.bind_apply, draws, Step.pure_apply]
  rfl

end

/-- A place for a type comes to nothing if and only if no candidate can be used, and then nothing is drawn.
Otherwise one value is drawn, and it is the position of the chosen candidate in the first tier that is not empty,
modulo the size of the tier.  So a place that is to be assigned is assignable, and a candidate of the sign and width
of the type is never passed over for another one. -/
theorem selectPlace_takes_best_tier {σ : Type} [Drawing σ] (type : CType) (candidates : List Candidate)
    (forAssignment : Bool) (state : σ) :
    let ended := (selectPlace type candidates forAssignment : Step σ (Option Candidate)) state
    let source := (Drawing.stream state).source
    (ended.1 = .ok none ↔ ∀ c ∈ candidates, ¬ c.Usable forAssignment) ∧
    (ended.1 = .ok none → ended.2 = state) ∧
    ((∃ c ∈ candidates, c.Usable forAssignment) → ∃ tier chosen,
      (tiers type forAssignment candidates).find? (fun tier => ! tier.isEmpty) = some tier ∧
      tier[source.valueAfter 0 % tier.length]? = some chosen ∧ ended.1 = .ok (some chosen) ∧
      ended.2 = Drawing.drawnTo ((source.skip 1).record
        (.bounded tier.length (source.valueAfter 0 % tier.length) 0 (source.valueAfter 0))) state) ∧
    ∀ chosen, ended.1 = .ok (some chosen) → chosen ∈ candidates ∧ chosen.Usable forAssignment ∧
      ((∃ c ∈ candidates, c.Usable forAssignment ∧ c.Matches type) → chosen.Matches type) := by
  intro ended source
  cases best : bestTier? type forAssignment candidates with
  | none =>
      have unusable := bestTier?_eq_none.mp best
      have idle : ended = (.ok none, state) := selectPlace_of_none best state
      rw [idle]
      refine ⟨iff_of_true rfl unusable, fun _ => rfl, ?_, nofun⟩
      rintro ⟨c, member, usable⟩
      exact absurd usable (unusable c member)
  | some tier =>
      obtain ⟨chosen, found, draws⟩ := selectPlace_of_some best state
      obtain ⟨offered, usable⟩ := usable_of_mem_tier (mem_of_bestTier? best).1 (List.mem_of_getElem? found)
      have drawn : ended = (.ok (some chosen), _) := draws
      rw [drawn]
      refine ⟨⟨nofun, fun unusable => absurd usable (unusable chosen offered)⟩, nofun,
        fun _ => ⟨tier, chosen, best, found, rfl, rfl⟩, ?_⟩
      rintro _ ⟨⟩
      refine ⟨offered, usable, ?_⟩
      rintro ⟨c, present, possible, suits⟩
      exact matches_of_bestTier? best present possible suits chosen (List.mem_of_getElem? found)

end RandomC
