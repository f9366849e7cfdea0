import Mathlib.Algebra.Ring.Int.Defs
import Mathlib.Data.Nat.Count
import RandomC.Proofs.Association
import RandomC.Proofs.Redraws
import RandomC.Proofs.Rollback

/-!
# Choices by weight

The values below the total of some weights are shared out among the entries in the order in which they stand: each
entry has as many of them as its weight says.  So a term is as likely as its weight, and one of weight zero is never
chosen.  Where a choice is made by redrawing, nothing is drawn if no term of positive weight is allowed; where it is
made by one draw, that draw may come to nothing.
-/

namespace RandomC

/-! ## Shares -/

/-- A choice can be made among the entries: none stands twice, no weight is negative, and some are positive. -/
structure Weighted {α : Type} (entries : List (α × Int)) : Prop where
  distinct : (entries.map Prod.fst).Nodup
  least : ∀ entry ∈ entries, 0 ≤ entry.2
  positive : 0 < totalWeight entries

/-- The weight that the entries give to a value, which is zero where it does not stand among them. -/
def weightIn {α : Type} [BEq α] (entries : List (α × Int)) (value : α) : Int := (entries.lookup value).getD 0

section

variable {α : Type} {fallback : α}

theorem totalWeight_cons (entry : α × Int) (rest : List (α × Int)) :
    totalWeight (entry :: rest) = entry.2 + totalWeight rest := rfl

theorem totalWeight_nonneg {entries : List (α × Int)} (least : ∀ entry ∈ entries, 0 ≤ entry.2) :
    0 ≤ totalWeight entries := by
  induction entries with
  | nil => exact Int.le_refl 0
  | cons entry rest ih =>
      rw [totalWeight_cons]
      have later := ih fun other member => least other (List.mem_cons_of_mem _ member)
      exact Int.add_nonneg (least entry List.mem_cons_self) later

/-- The first entry has the first values. -/
theorem decodeWeighted_cons {entry : α} {weight : Int} (least : 0 ≤ weight) (rest : List (α × Int)) (value : Nat) :
    decodeWeighted fallback ((entry, weight) :: rest) value =
      if (value : Int) < weight then entry else decodeWeighted fallback rest (value - weight) := by
  rw [decodeWeighted]
  split
  · next none =>
      obtain rfl : weight = 0 := by omega
      rw [if_neg (by omega), Int.sub_zero]
  · rfl

/-- A value below the total falls into the share of an entry, whose weight is positive. -/
theorem decodeWeighted_share {entries : List (α × Int)} (least : ∀ entry ∈ entries, 0 ≤ entry.2) {value : Nat}
    (below : (value : Int) < totalWeight entries) :
    ∃ weight, (decodeWeighted fallback entries value, weight) ∈ entries ∧ 0 < weight := by
  induction entries generalizing value with
  | nil => exact absurd below (by simp [totalWeight])
  | cons head rest ih =>
      obtain ⟨entry, weight⟩ := head
      have first : 0 ≤ weight := least _ List.mem_cons_self
      rw [decodeWeighted_cons first]
      split
      · exact ⟨weight, List.mem_cons_self, by omega⟩
      · next beyond =>
          rw [totalWeight_cons] at below
          obtain ⟨position, same⟩ := Int.eq_ofNat_of_zero_le (show 0 ≤ (value : Int) - weight by omega)
          have within : (position : Int) < totalWeight rest := by omega
          rw [same]
          obtain ⟨share, member, positive⟩ := ih (fun other member => least other (List.mem_cons_of_mem _ member)) within
          exact ⟨share, List.mem_cons_of_mem _ member, positive⟩

/-- Each entry has as many of the values below the total as its weight says, and nothing else has any. -/
theorem count_decodeWeighted [DecidableEq α] {entries : List (α × Int)} (distinct : (entries.map Prod.fst).Nodup)
    (least : ∀ entry ∈ entries, 0 ≤ entry.2) (chosen : α) :
    (Nat.count (fun value => decodeWeighted fallback entries value = chosen) (totalWeight entries).toNat : Int) =
      weightIn entries chosen := by
  induction entries with
  | nil => rfl
  | cons head rest ih =>
      obtain ⟨entry, weight⟩ := head
      obtain ⟨count, rfl⟩ := Int.eq_ofNat_of_zero_le (least _ List.mem_cons_self)
      have others := fun other member => least other (List.mem_cons_of_mem (entry, (count : Int)) member)
      obtain ⟨total, same⟩ := Int.eq_ofNat_of_zero_le (totalWeight_nonneg others)
      rw [List.map_cons, List.nodup_cons] at distinct
      have later := ih distinct.2 others
      have sum : (totalWeight ((entry, (count : Int)) :: rest)).toNat = count + total := by
        rw [totalWeight_cons, same]
        omega
      have beyond (value : Nat) : decodeWeighted fallback ((entry, (count : Int)) :: rest) (count + value : Nat) =
          decodeWeighted fallback rest value := by
        rw [decodeWeighted_cons (by omega), if_neg (by omega)]
        congr 1
        omega
      rw [same, Int.toNat_natCast] at later
      have within (value : Nat) (less : value < count) :
          decodeWeighted fallback ((entry, (count : Int)) :: rest) value = entry := by
        rw [decodeWeighted_cons (by omega), if_pos (by omega)]
      rw [sum, Nat.count_add, Nat.cast_add]
      simp only [beyond, later]
      by_cases here : entry = chosen
      · subst here
        have absent : rest.lookup entry = none := lookup_eq_none.mpr distinct.1
        rw [Nat.count_of_forall within]
        simp [weightIn, absent]
      · have none :
            Nat.count (fun value : Nat => decodeWeighted fallback ((entry, (count : Int)) :: rest) value = chosen) count =
              0 :=
          Nat.count_of_forall_not fun value less same => here ((within _ less).symm.trans same)
        rw [none]
        simp [weightIn, List.lookup_cons, beq_false_of_ne (Ne.symm here)]

end

/-! ## Choosing a term -/

open RandomC.Random

section

variable {entries : List (Term × Int)} {barred : Term → Bool} {world : World}

/-- All terms of positive weight are barred. -/
def AllBarred (entries : List (Term × Int)) (barred : Term → Bool) : Prop :=
  ∀ kind weight, (kind, weight) ∈ entries → 0 < weight → barred kind = true

theorem allBarred_iff :
    (entries.all fun (kind, weight) => decide (weight ≤ 0) || barred kind) = true ↔ AllBarred entries barred := by
  simp only [List.all_eq_true, Bool.or_eq_true, decide_eq_true_iff, Prod.forall, AllBarred]
  constructor
  · intro all kind weight member positive
    exact (all kind weight member).resolve_left (Int.not_le.mpr positive)
  · intro closed kind weight member
    rcases Int.lt_or_le 0 weight with positive | none
    · exact .inr (closed kind weight member positive)
    · exact .inl none

/-- The term into whose share a value falls. -/
abbrev decodeTerm (entries : List (Term × Int)) (value : Nat) : Term := decodeWeighted .read entries value

theorem chooseAllowed_of_allBarred (all : AllBarred entries barred) :
    chooseAllowed entries barred world = (.ok none, world) := by
  rw [chooseAllowed, if_pos (allBarred_iff.mpr all)]
  rfl

/-- Where some term is allowed, the choice is the term of the first value whose term is not barred, or it fails when the
draw is given up. -/
theorem chooseAllowed_of_unbarred (weighted : Weighted entries) (someAllowed : ¬ AllBarred entries barred)
    (world : World) :
    let total := totalWeight entries
    let reject (value : Nat) := barred (decodeTerm entries value)
    (∃ index ≤ maxRedraws, world.source.FirstAccepted total reject index ∧
      chooseAllowed entries barred world = (.ok (some (decodeTerm entries (world.source.valueBelow total index))),
        Drawing.drawnTo ((world.source.skip (index + 1)).record
          (.bounded total (world.source.valueBelow total index) index (world.source.valueAfter index))) world)) ∨
    ((∀ index ≤ maxRedraws, reject (world.source.valueBelow total index) = true) ∧
      chooseAllowed entries barred world = (.error (.noneAccepted total maxRedraws),
        Drawing.drawnTo (world.source.skip (maxRedraws + 1)) world)) := by
  intro total reject
  have notAll : ¬ (entries.all fun (kind, weight) => decide (weight ≤ 0) || barred kind) = true :=
    fun all => someAllowed (allBarred_iff.mp all)
  rw [chooseAllowed, if_neg notAll]
  dsimp only
  rw [Step.bind_apply, Step.belowUnless_apply]
  rcases Source.belowUnless_eq weighted.positive reject world.source with
    ⟨index, bounded, first, draws⟩ | ⟨rejected, draws⟩
  · refine .inl ⟨index, bounded, first, ?_⟩
    simp only [Drawing.stream, reject, decodeTerm] at draws ⊢
    rw [draws]
    rfl
  · refine .inr ⟨rejected, ?_⟩
    simp only [Drawing.stream, reject, decodeTerm] at draws ⊢
    rw [draws]
    simp only [Except.mapError, total]

/-- Where some term is allowed, something is drawn, and a term of positive weight that is not barred is chosen, unless
the draw is given up. -/
theorem chooseAllowed_chooses (weighted : Weighted entries) (someAllowed : ¬ AllBarred entries barred) (world : World) :
    let total := totalWeight entries
    let term (index : Nat) := decodeTerm entries (world.source.valueBelow total index)
    let ended := chooseAllowed entries barred world
    ended.1 ≠ .ok none ∧ world.source.drawn < ended.2.source.drawn ∧
      ((∃ index ≤ maxRedraws, ∃ kind weight, ended.1 = .ok (some kind) ∧ kind = term index ∧
          (∀ earlier < index, barred (term earlier) = true) ∧
          (kind, weight) ∈ entries ∧ 0 < weight ∧ barred kind = false ∧
          ended.2.source.drawn = world.source.drawn + (index + 1)) ∨
        ended.1 = .error (.noneAccepted total maxRedraws) ∧ ∀ index ≤ maxRedraws, barred (term index) = true) := by
  intro total term ended
  rcases chooseAllowed_of_unbarred weighted someAllowed world with
    ⟨index, bounded, first, chooses⟩ | ⟨rejected, chooses⟩
  · obtain ⟨weight, member, positive⟩ :=
      decodeWeighted_share weighted.least (world.source.valueBelow_lt weighted.positive index)
    have result : ended.1 = .ok (some (term index)) := congrArg Prod.fst chooses
    have drawn : ended.2.source.drawn = world.source.drawn + (index + 1) :=
      calc ended.2.source.drawn = (world.source.skip (index + 1)).drawn :=
            congrArg (fun ended => ended.2.source.drawn) chooses |>.trans (congrArg Position.drawn (position_record _ _))
        _ = world.source.drawn + (index + 1) := world.source.skip_drawn _
    refine ⟨result ▸ nofun, by omega, .inl ⟨index, bounded, term index, weight, result, rfl, first.rejected, member,
      positive, first.accepted, drawn⟩⟩
  · have result : ended.1 = .error (.noneAccepted total maxRedraws) := congrArg Prod.fst chooses
    have drawn : ended.2.source.drawn = world.source.drawn + (maxRedraws + 1) :=
      (congrArg (fun ended => ended.2.source.drawn) chooses).trans (world.source.skip_drawn _)
    exact ⟨result ▸ nofun, by omega, .inr ⟨result, rejected⟩⟩

/-- A single draw gives its term, unless that is barred. -/
theorem chooseOnce_apply (weighted : Weighted entries) (barred : Term → Bool) (world : World) :
    let total := totalWeight entries
    let value := world.source.valueBelow total 0
    chooseOnce entries barred world =
      (.ok (if barred (decodeTerm entries value) then none else some (decodeTerm entries value)),
        Drawing.drawnTo ((world.source.skip 1).record (.bounded total value 0 (world.source.valueAfter 0))) world) := by
  intro total value
  have draws := Source.below_eq weighted.positive world.source
  rw [chooseOnce, Step.bind_apply, Step.below, Step.draw_apply]
  simp only [Drawing.stream] at draws ⊢
  rw [draws]
  dsimp only
  split <;> rfl

end

/-- In any choice by weight, each entry has as many of the values below the total as its weight says.  A choice of a
term by redrawing comes to nothing if and only if all terms of positive weight are barred, and then nothing is drawn;
otherwise something is drawn, and the choice is the term of the first value whose term is not barred, which has a
positive weight, unless the draw is given up.  A choice by one draw makes exactly this draw, and gives the term of the
value unless that is barred. -/
theorem chooseTerm_follows_weights (entries : List (Term × Int)) (weighted : Weighted entries) (barred : Term → Bool)
    (settings : Settings) (world : World) :
    let total := totalWeight entries
    let decode (value : Nat) := decodeWeighted Term.read entries value
    let allBarred := ∀ kind weight, (kind, weight) ∈ entries → 0 < weight → barred kind = true
    let value := world.source.valueBelow total
    let ended := chooseTerm settings entries barred world
    (∀ {α : Type} [DecidableEq α] (fallback : α) (shares : List (α × Int)), Weighted shares → ∀ chosen,
      (Nat.count (fun value => decodeWeighted fallback shares value = chosen) (totalWeight shares).toNat : Int) =
        weightIn shares chosen) ∧
    (settings.exactReplay = true →
      (ended.1 = .ok none ↔ allBarred) ∧ (allBarred → ended.2 = world) ∧
      (¬ allBarred → world.source.drawn < ended.2.source.drawn ∧
        ((∃ index ≤ maxRedraws, ∃ kind weight, ended.1 = .ok (some kind) ∧ kind = decode (value index) ∧
            (∀ earlier < index, barred (decode (value earlier)) = true) ∧
            (kind, weight) ∈ entries ∧ 0 < weight ∧ barred kind = false ∧
            ended.2.source.drawn = world.source.drawn + (index + 1)) ∨
          ended.1 = .error (.noneAccepted total maxRedraws) ∧
            ∀ index ≤ maxRedraws, barred (decode (value index)) = true))) ∧
    (settings.exactReplay = false →
      ended.1 = .ok (if barred (decode (value 0)) then none else some (decode (value 0))) ∧
      ended.2 = Drawing.drawnTo ((world.source.skip 1).record (.bounded total (value 0) 0 (world.source.valueAfter 0)))
        world) := by
  intro total decode allBarred value ended
  refine ⟨fun fallback shares weighted => count_decodeWeighted weighted.distinct weighted.least, ?_, ?_⟩
  · intro exactly
    have chosen : ended = chooseAllowed entries barred world := by
      simp only [ended, chooseTerm, exactly, if_true]
    rw [chosen]
    by_cases all : allBarred
    · rw [chooseAllowed_of_allBarred all]
      exact ⟨iff_of_true rfl all, fun _ => rfl, fun someAllowed => absurd all someAllowed⟩
    · obtain ⟨something, draws, chooses⟩ := chooseAllowed_chooses weighted all world
      exact ⟨iff_of_false something all, fun none => absurd none all, fun _ => ⟨draws, chooses⟩⟩
  · intro once
    have chosen : ended = chooseOnce entries barred world := by
      simp only [ended, chooseTerm, once, Bool.false_eq_true, if_false]
    rw [chosen, chooseOnce_apply weighted]
    exact ⟨rfl, rfl⟩

/-- Of the values below 120, seventy stand for a call.  Where calls are barred, the first two values of the stream of
the seed 17 are passed over in a choice by redrawing, and a choice by one draw comes to nothing. -/
theorem chooseTerm_follows_weights_small :
    let entries := termWeights false smallSettings
    let exactly := { smallSettings with exactReplay := true }
    let world : World := .start smallSetup (.ofSeed 17 false) #[]
    Weighted entries ∧
      Nat.count (fun value => decodeWeighted Term.read entries value = .call) 120 = 70 ∧
      (chooseTerm exactly entries (· == .call) world).1 ≠ .ok none ∧
      (chooseTerm exactly entries (· == .call) world).1 = .ok (some .read) ∧
      (chooseTerm smallSettings entries (· == .call) world).1 = .ok none := by
  intro entries exactly world
  have weighted : Weighted entries := ⟨by decide, by decide, by decide⟩
  have redraws := chooseTerm_follows_weights entries weighted (· == .call) exactly world
  have once := chooseTerm_follows_weights entries weighted (· == .call) smallSettings world
  have calls := once.1 Term.read entries weighted .call
  have someAllowed : ¬ ∀ kind weight, (kind, weight) ∈ entries → 0 < weight → (kind == Term.call) = true :=
    fun all => absurd (all .read 20 (by decide) (by decide)) (by decide)
  refine ⟨weighted, Int.ofNat.inj (calls.trans ?_), ?_, by decide +kernel, ?_⟩
  · decide
  · exact fun none => someAllowed ((redraws.2.1 rfl).1.mp none)
  · rw [(once.2.2 rfl).1]
    decide +kernel

end RandomC
