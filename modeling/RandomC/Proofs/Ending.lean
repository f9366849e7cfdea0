import RandomC.Proofs.Program
import RandomC.Proofs.Recursion

/-!
# How generation ends

Generation returns a program, or a draw with a filter was given up, or the seed has too many digits to be
written.  Nothing else stops it, whatever the settings are: nothing is looked up that is not there, and no
level of a sheet is refused.
-/

namespace RandomC

section

variable {setup : Setup}

/-- What a run adds to building the body of its entry function cannot fail in other ways. -/
theorem run_safe (inhabited : setup.scalars ≠ []) (source : Random.Source) (log : Array Event) :
    (run setup).Safe (.start setup source log) := by
  have added : (discard (addEntry setup)).Ends (.start setup source log) (fun _ after => after.Awaits setup 0)
      fun _ => True :=
    Step.ends_discard.mpr ((addEntry_ends source log).mono (fun _ _ awaits => awaits) fun _ _ => trivial)
  rw [Step.Safe, run_eq]
  apply Step.Safe.ends (secure_addEntry.discard _) added
  intro _ world awaits
  apply (buildBody_safe inhabited awaits).bind
  exact fun _ after _ => (Secure.get.bind fun _ => secure_report _) after

end

/-- Behind a header that can be written, generation comes to a program or fails in a run. -/
theorem generateWritable_ends (settings : Settings) (source : Random.Source) :
    (∃ program, (generateWritable settings source).result = .ok program) ∨
      ∃ failure, (generateWritable settings source).result = .error failure ∧ failure.Exhausted := by
  obtain ⟨origin, prepared, -, outcome⟩ := exists_prepared settings source
  have inhabited : origin.setup.scalars ≠ [] := prepared.scalars_eq ▸ scalars_ne_nil _ _
  have safe := run_safe inhabited origin.source origin.log
  rw [outcome, Origin.outcome]
  revert safe
  rw [Step.Safe]
  generalize run _ _ = ended
  rcases ended with ⟨failure | _, world⟩
  · exact fun safe => .inr ⟨failure, rfl, safe failure rfl⟩
  · exact fun _ => .inl ⟨_, rfl⟩

theorem generate_ends (settings : Settings) (source : Random.Source) :
    (Text.hasDecimalText settings.seed →
      (∃ program, (generate settings source).result = .ok program) ∨
        ∃ bound, (generate settings source).result = .error (.noneAccepted bound Random.maxRedraws)) ∧
    (¬ Text.hasDecimalText settings.seed → (generate settings source).result = .error .unwritable) := by
  constructor
  · intro writable
    rw [generate, if_pos writable]
    rcases generateWritable_ends settings source with returned | ⟨failure, failed, bound, rfl⟩
    · exact .inl returned
    · exact .inr ⟨bound, failed⟩
  · intro unwritable
    rw [generate, if_neg unwritable]

/-- Generation ends in one of three ways, whatever the settings and the source are: with a program, with a
draw that was given up, or, exactly where the seed is too long to be written, at once.

The recursion behind this goes one level deeper from an expression to those inside it, and from a block to
those inside it, only where the limits on depth allow it.  A run builds the body of its entry function.
Building the body of a function that was just created leads to building other bodies only where there are
more functions than at its start, each that of a function that was just created; whatever is done there
instead of `buildBody` itself makes no difference, as long as it gives the same results.  Meanwhile no
snapshot is taken or gone back to at which there are fewer functions than at the start of the body. -/
theorem generate_returns_or_exhausts (settings : Settings) (source : Random.Source) :
    ((Text.hasDecimalText settings.seed →
      (∃ program, (generate settings source).result = .ok program) ∨
        ∃ bound, (generate settings source).result = .error (.noneAccepted bound Random.maxRedraws)) ∧
    (¬ Text.hasDecimalText settings.seed → (generate settings source).result = .error .unwritable)) ∧
    (∀ (site : Site) (depth : Int),
      (site.inner depth = fun request => site.budgeted depth request (Gen.spanning (site.oneTerm
        (if depth + 1 < Site.maxLevels site.settings then some (site.inner (depth + 1)) else none) depth
        request))) ∧
      ∀ inLoop, site.block depth inLoop = Gen.spanning (site.blockOf
        (if depth < maxDepth site.settings then some (site.block (depth + 1)) else none) depth inLoop)) ∧
    ∀ setup : Setup, setup.scalars ≠ [] →
      (∀ source log,
        (addEntry setup).Ends (.start setup source log) (fun _ after => after.Awaits setup 0) (fun _ => True) ∧
        run setup (.start setup source log) = (do
          discard <| addEntry setup
          buildBody setup 0
          let flow := (← get).flow
          Gen.report (.finished flow.functions.length flow.created.length)) (.start setup source log)) ∧
      ∀ (index : Nat) (world : World), world.Awaits setup index →
        (∀ make, BuildsLater setup world make →
          ensureBuilt setup (some make) index world = buildBody setup index world) ∧
        ∃ nested, (buildBody setup index world).2.history =
            nested ++ .entered index (localName index) :: world.history ∧
          ∀ moment ∈ nested, moment.Above world.flow.functions.length := by
  refine ⟨generate_ends settings source, fun site depth => ⟨site.inner_eq depth, site.block_eq depth⟩, ?_⟩
  intro setup inhabited
  constructor
  · intro source log
    exact ⟨(addEntry_ends source log).mono (fun _ _ awaits => awaits) fun _ _ => trivial, run_eq source log⟩
  · intro index world awaits
    have since := (buildBody_since awaits).reached
    rw [awaits.last]
    exact ⟨fun make builds => ensureBuilt_eq_buildBody inhabited awaits builds, since.nested⟩

/-- A small program is generated.  While the body of its entry function is built, the body of a second function
is begun and snapshots are gone back to, and nothing would be different if bodies were refused where there
are no more functions than at the start. -/
theorem generate_returns_or_exhausts_small :
    (∃ program, (generate smallSettings (.ofSeed 2 false)).result = .ok program) ∧
    ensureBuilt smallSetup (some fun index => do
        if (← get).flow.functions.length ≤ 1 then throw .nothingToReplace
        buildBody smallSetup index) 0 smallStart = buildBody smallSetup 0 smallStart ∧
    ∃ nested, (buildBody smallSetup 0 smallStart).2.history = nested ++ [.entered 0 (localName 0)] ∧
      nested.any (· matches .entered 1 _) ∧ nested.any (· matches .restored ..) ∧
      ∀ moment ∈ nested, moment.Above 1 := by
  obtain ⟨outcome, -, bodies⟩ := generate_returns_or_exhausts smallSettings (.ofSeed 2 false)
  have inhabited : smallSetup.scalars ≠ [] := by decide
  obtain ⟨same, nested, history, above⟩ := (bodies smallSetup inhabited).2 0 smallStart smallStart_awaits
  have one : smallStart.flow.functions.length = 1 := smallStart_awaits.last
  refine ⟨?_, ?_, nested, ?_⟩
  · have writable : Text.hasDecimalText smallSettings.seed := by decide +kernel
    have isOk : (generate smallSettings (.ofSeed 2 false)).result.isOk = true := by decide +kernel
    rcases outcome.1 writable with returned | ⟨bound, failed⟩
    · exact returned
    · rw [failed] at isOk
      cases isOk
  · apply same
    intro later now more _
    have stays : ¬ now.flow.functions.length ≤ 1 := by omega
    simp only [Step.bind_apply, Step.get_apply, stays, if_false]
  · have start : smallStart.history = [] := by decide +kernel
    have entered : (buildBody smallSetup 0 smallStart).2.history.any (· matches .entered 1 _) := by
      decide +kernel
    have restored : (buildBody smallSetup 0 smallStart).2.history.any (· matches .restored ..) := by
      decide +kernel
    rw [one] at above
    rw [start, Int.natCast_zero] at history
    rw [history] at entered restored
    exact ⟨history, by simpa using entered, by simpa using restored, above⟩

/-- The seed of these settings is the least one that is too long. -/
def unwritableSettings : Settings := { smallSettings with seed := Text.decimalLimit }

/-- A seed that is too long to be written ends generation at once, before anything is drawn. -/
theorem generate_unwritable :
    ¬ ((∃ program, (generate unwritableSettings (.ofSeed unwritableSettings.seed false)).result = .ok program) ∨
      ∃ bound tries, (generate unwritableSettings (.ofSeed unwritableSettings.seed false)).result =
        .error (.noneAccepted bound tries)) := by
  have seed : unwritableSettings.seed = (Text.decimalLimit : Int) := rfl
  have unwritable : ¬ Text.hasDecimalText unwritableSettings.seed := by
    rw [seed, Text.hasDecimalText, Int.natAbs_natCast, decide_eq_true_iff]
    exact Nat.lt_irrefl _
  rw [(generate_ends unwritableSettings _).2 unwritable]
  rintro (⟨program, returned⟩ | ⟨bound, tries, failed⟩)
  · cases returned
  · cases failed

end RandomC
