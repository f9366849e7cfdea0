import RandomC.Proofs.ExpressionText
import RandomC.Proofs.Terms

/-!
# The length of expressions

Every term of an expression is written as one cast, and a cast is where a bracket is closed and another one
opened.  The text of a whole expression has no more casts than the budget of terms allows, apart from one
charge that may not be covered, wherever in a run it is generated.
-/

namespace RandomC

/-! ## Casts in texts -/

/-- The number of casts in some characters, after one that may have closed a bracket. -/
def castsAfter : (closed : Bool) → List Char → Nat
  | _, [] => 0
  | closed, c :: rest => (if closed && c == '(' then 1 else 0) + castsAfter (c == ')') rest

/-- The number of casts in a text. -/
def castCount (text : String) : Nat := castsAfter false text.toList

example : castCount "((int32_t)(((uint8_t)(p_1)) ^ ((uint8_t)(0x1U))))" = 3 := by decide

@[simp] theorem castsAfter_nil (closed : Bool) : castsAfter closed [] = 0 := rfl

@[simp] theorem castsAfter_close (closed : Bool) (rest : List Char) :
    castsAfter closed (')' :: rest) = castsAfter true rest := by
  cases closed <;> simp [castsAfter]

@[simp] theorem castsAfter_open (rest : List Char) :
    castsAfter false ('(' :: rest) = castsAfter false rest := by
  simp [castsAfter]

@[simp] theorem castsAfter_cast (rest : List Char) :
    castsAfter true ('(' :: rest) = castsAfter false rest + 1 := by
  simp [castsAfter, Nat.add_comm]

theorem castsAfter_plain {c : Char} (plain : c ≠ '(' ∧ c ≠ ')') (closed : Bool) (rest : List Char) :
    castsAfter closed (c :: rest) = castsAfter false rest := by
  have closes : (c == ')') = false := beq_false_of_ne plain.2
  simp [castsAfter, plain.1, closes]

/-- There are no round brackets in the text, so that it may be left out at the front. -/
def Castless (text : String) : Prop :=
  ∀ rest, castsAfter false (text.toList ++ rest) = castsAfter false rest

/-- The text has so many casts, and ends with a closed bracket. -/
def Casts (text : String) (count : Nat) : Prop :=
  ∀ rest, castsAfter false (text.toList ++ rest) = count + castsAfter true rest

theorem Casts.castCount {text : String} {count : Nat} (casts : Casts text count) :
    castCount text = count := by
  simpa [RandomC.castCount] using casts []

theorem Castless.append {first second : String} (early : Castless first) (late : Castless second) :
    Castless (first ++ second) := by
  intro rest
  rw [String.toList_append, List.append_assoc, early, late]

theorem Unbracketed.castless {text : String} (unbracketed : Unbracketed text) : Castless text := by
  intro rest
  unfold Unbracketed at unbracketed
  generalize text.toList = chars at unbracketed
  induction chars with
  | nil => rfl
  | cons c others ih =>
      obtain ⟨⟨opens, closes⟩, remain⟩ := List.forall_mem_cons.mp unbracketed
      have plain : c ≠ '(' ∧ c ≠ ')' := by
        constructor
        · rintro rfl
          cases opens
        · rintro rfl
          cases closes
      rw [List.cons_append, castsAfter_plain plain]
      exact ih remain

/-- A cast counts, besides those in what is cast. -/
theorem casts_castText {type : CType} {text : String} {count : Nat} (name : Castless type.name)
    (inside : ∀ rest, castsAfter false (text.toList ++ ')' :: rest) = count + castsAfter true rest) :
    Casts (type.castText text) (count + 1) := by
  intro rest
  simp [CType.castText, name _, inside]
  omega

theorem Castless.casts_castText {type : CType} {text : String} (name : Castless type.name)
    (inside : Castless text) : Casts (type.castText text) 1 :=
  @RandomC.casts_castText type text 0 name fun rest => by simp [inside _]

/-- The casts of listed texts are those of the texts together. -/
theorem casts_intercalate {arguments : List Expr}
    (each : ∀ argument ∈ arguments, Casts argument.text argument.terms) (rest : List Char) :
    castsAfter false ((", ".intercalate (Expr.texts arguments)).toList ++ ')' :: rest) =
      termsOf arguments + castsAfter true rest := by
  induction arguments with
  | nil => simp [Expr.texts, termsOf]
  | cons argument others ih =>
      obtain ⟨first, each⟩ := List.forall_mem_cons.mp each
      have ih := ih each
      cases others with
      | nil => simp [Expr.texts, termsOf, first _]
      | cons next others =>
          simp only [Expr.texts, String.intercalate_cons_cons] at ih ⊢
          rw [termsOf, Nat.add_assoc, ← ih]
          simp (disch := decide) [first _, castsAfter_plain]

section

variable {setup : Setup} {caller : Nat} {params : List Variable} {flow : Flow}

theorem Offered.castless {candidate : Candidate} (sound : setup.Sound) (aligned : Aligned setup flow)
    (numbers : Numbers params) (offered : Offered setup params flow candidate) :
    Castless candidate.place.text := by
  rcases offered.unbracketed sound aligned numbers with unbracketed | ⟨name, index, unbracketed, same⟩
  · exact unbracketed.castless
  · have opens : Castless "[" := fun rest => by simp (disch := decide) [castsAfter_plain]
    have closes : Castless "]" := fun rest => by simp (disch := decide) [castsAfter_plain]
    rw [same]
    exact unbracketed.castless.append ((opens.append (unbracketed_nat index).castless).append closes)

/-- An expression has as many casts as terms. -/
theorem Expr.Formed.casts {expr : Expr} (regular : setup.Regular) (aligned : Aligned setup flow)
    (numbers : Numbers params) (formed : expr.Formed setup caller params flow) :
    Casts expr.text expr.terms := by
  induction formed with
  | literal known plain =>
      have number := unbracketed_of_word (isWordChar_of_mem_literal plain)
      exact (known.unbracketed regular).castless.casts_castText number.castless
  | read known offered =>
      exact (known.unbracketed regular).castless.casts_castText
        (offered.castless regular.sound aligned numbers)
  | @call type index callee arguments known later found types formed ih =>
      have name : Castless (functionName callee.number) :=
        (callee.unbracketed_name aligned (List.mem_of_getElem? found)).castless
      apply casts_castText (known.unbracketed regular).castless
      intro rest
      have list := casts_intercalate ih (')' :: rest)
      simp [-String.toList_intercalate, name _, list]
  | assign known offered assignable same formed ih =>
      have place := offered.castless regular.sound aligned numbers
      apply casts_castText (known.unbracketed regular).castless
      intro rest
      simp (disch := decide) [place _, ih _, castsAfter_plain]
  | comma known same leftFormed rightFormed left right =>
      apply casts_castText (known.unbracketed regular).castless
      intro rest
      simp (disch := decide) [left _, right _, castsAfter_plain, Nat.add_assoc]
  | complement known same formed ih =>
      apply casts_castText (known.unbracketed regular).castless
      intro rest
      simp (disch := decide) [ih _, castsAfter_plain]
  | xor known leftSame rightSame leftFormed rightFormed left right =>
      apply casts_castText (known.unbracketed regular).castless
      intro rest
      simp (disch := decide) [left _, right _, castsAfter_plain, Nat.add_assoc]

end

/-! ## Steady sites -/

namespace Site

/-- The site is ready where no function has more parameters than wanted, and the bodies of the functions that
it creates leave it at that. -/
structure Steady (site : Site) (caller : Nat) (world : World) : Prop extends site.Ready caller world where
  limited : site.settings.exactReplay = false
  governs : (steady site.setup).Governs world
  upheld : site.Upheld (steady site.setup).regime

section

variable {setup : Setup} {site : Site} {caller : Nat} {world : World}

/-- Where the body of a function begins, its site is steady. -/
theorem Steady.enter {index : Nat} {signature : Signature} (regular : setup.Regular)
    (limited : setup.settings.exactReplay = false) (awaits : world.Awaits setup index)
    (governs : (steady setup).Governs world)
    (found : world.flow.functions[index]? = some signature) (free : Nat) :
    (ofBody setup (bodies setup free) signature world).Steady index (world.enter index) where
  toReady := .enter regular awaits found free
  limited := limited
  governs := by
    have terse : world.Terse setup := governs.kept
    have entered : (world.enter index).Terse setup :=
      ⟨terse.functions, List.forall_mem_cons.mpr ⟨trivial, terse.moments⟩⟩
    exact ⟨entered, governs.paired.built, governs.paired.definitions⟩
  upheld := bodies_upholds (steady_building setup (Definition.Shaped setup False)) (steady_expresses limited)
    (fun _ _ => False.elim) free

theorem Steady.entry (regular : setup.Regular) (limited : setup.settings.exactReplay = false)
    (source : Random.Source) (log : Array Event) (free : Nat) :
    (addEntry setup).Ends (.start setup source log)
      (fun signature after => (ofBody setup (bodies setup free) signature after).Steady 0 (after.enter 0))
      fun _ => True := by
  apply ((addEntry_ends source log).and (addEntry_creates source log)).mono
  · rintro signature after ⟨awaits, creates⟩
    have terse : after.Terse setup :=
      World.Terse.creates ⟨List.forall_mem_nil _, List.forall_mem_nil _⟩ creates
    exact .enter regular limited awaits ⟨terse, creates.paired ⟨rfl, rfl⟩⟩ creates.signature free
  · exact fun _ _ => trivial

theorem Steady.callee (ready : site.Steady caller world) {type : CType} (known : site.setup.Knows type)
    (free : Nat) :
    (createFunction site.setup (some type)).Ends world
      (fun created after => ∀ index, created = some index → ∃ signature,
        after.flow.functions[index]? = some signature ∧
        (ofBody site.setup (bodies site.setup free) signature after).Steady index (after.enter index))
      fun _ => True := by
  apply ((createFunction_ends ready.good known).and (createFunction_creates site.setup type world)).mono
  · rintro created after ⟨adds, creates⟩ index same
    obtain ⟨rfl, signature, creates⟩ := creates.2 index same
    have terse : after.Terse site.setup := World.Terse.creates ready.governs.kept creates
    exact ⟨signature, creates.signature, .enter ready.regular ready.limited (adds.2 _ same).awaits
      ⟨terse, creates.paired ready.governs.paired⟩ creates.signature free⟩
  · exact fun _ _ => trivial

/-- A block leaves its site steady. -/
theorem Steady.block (ready : site.Steady caller world) (depth : Int) (inLoop : Bool) :
    (site.block depth inLoop).Ends world (fun _ after => site.Steady caller after) fun _ => True := by
  have building := steady_building site.setup (Definition.Shaped site.setup False)
  have expresses : site.Expresses (steady site.setup).regime :=
    steady_expresses ready.limited site rfl ready.upheld
  have free (start : World) (_ : (steady site.setup).regime.inv start) (unlimited : False) :
      start.flow.budget ≠ 0 := unlimited.elim
  have spends := blockWithin_spends free building.begins expresses (blocksBelow site.settings depth) depth
    inLoop ready.governs
  apply ((ready.toReady.block depth inLoop).and spends).mono
  · rintro block after ⟨still, _, leads, -⟩
    exact ⟨still, ready.limited, leads.kept, ready.upheld⟩
  · exact fun _ _ => trivial

/-- A whole expression is remembered when it is complete. -/
theorem expression_remembers (request : Request) :
    (site.expression request).Ends world (fun expr after => ∃ earlier, after.history = .expressed expr :: earlier)
      fun _ => True := by
  apply Step.ends_bind.mpr
  have any : (site.inner 0 request).Ends world (fun _ _ => True) fun _ => True := by
    simp only [Step.Ends]
    split <;> trivial
  apply any.mono
  · exact fun _ after _ => ⟨after.history, rfl⟩
  · exact fun _ _ => trivial

/-- A whole expression leaves its site steady, and is terse. -/
theorem Steady.expression (ready : site.Steady caller world) {request : Request}
    (known : site.setup.Knows request.type) (whole : request.argument = false) :
    (site.expression request).Ends world
      (fun expr after => site.Steady caller after ∧ castCount expr.text = expr.terms ∧
        (expr.terms : Int) ≤ mostTerms site.settings)
      fun _ => True := by
  have terms := expression_terms ready.limited ready.upheld whole ready.governs
  have both := ((ready.toReady.expression request known).and terms).and (expression_remembers request)
  apply both.mono
  · rintro expr after ⟨⟨meets, leads⟩, earlier, history⟩
    have governs : (steady site.setup).Governs after := leads.kept
    have terse : after.Terse site.setup := governs.kept
    have own : Moment.Terse site.settings (.expressed expr) :=
      terse.moments _ (history ▸ List.mem_cons_self)
    refine ⟨⟨meets.ready, ready.limited, governs, ready.upheld⟩, ?_, own⟩
    exact (meets.formed.casts ready.regular meets.ready.good.aligned meets.ready.numbers).castCount
  · exact fun _ _ => trivial

end

end Site

/-! ## Runs -/

/-- Throughout a run in which expressions are not replayed exactly they are terse, also if it fails. -/
theorem run_terse {setup : Setup} (limited : setup.settings.exactReplay = false) (source : Random.Source)
    (log : Array Event) : ∀ moment ∈ moments setup source log, moment.Terse setup.settings := by
  have start : (World.start setup source log).Terse setup := ⟨List.forall_mem_nil _, List.forall_mem_nil _⟩
  have ends := run_ends_in (steady_building setup (Definition.Shaped setup False)) (steady_expresses limited)
    (fun _ _ => False.elim) source log start
  apply Step.Ends.reached (ends.mono _ fun _ failed => failed)
  intro _ after leads
  have terse : after.Terse setup := leads.kept.kept
  exact terse.moments

/-- Where expressions are not replayed exactly, every whole expression that is generated in a run has so many
casts at most, also where it is taken back, whatever was charged for terms that came to nothing and in
bodies that were built meanwhile.  A whole expression is remembered when it is complete.  The same holds of an
expression of any type in a state that is steady; such are the states in which bodies begin, and those after
any block and any whole expression. -/
theorem run_bounds_terms (setup : Setup) (regular : setup.Regular)
    (limited : setup.settings.exactReplay = false) (source : Random.Source) (log : Array Event) :
    (∀ expr, .expressed expr ∈ moments setup source log → castCount expr.text = expr.terms ∧
      (castCount expr.text : Int) ≤ termBudget setup.settings + max 2 setup.settings.maxParams) ∧
    (∀ (site : Site) (request : Request) (world : World), (site.expression request).Ends world
      (fun expr after => ∃ earlier, after.history = .expressed expr :: earlier) fun _ => True) ∧
    (∀ free, (addEntry setup).Ends (.start setup source log)
      (fun signature after =>
        (Site.ofBody setup (bodies setup free) signature after).Steady 0 (after.enter 0)) fun _ => True) ∧
    ∀ (site : Site) (caller : Nat) (world : World), site.Steady caller world →
      (∀ type free, site.setup.Knows type → (createFunction site.setup (some type)).Ends world
        (fun created after => ∀ index, created = some index → ∃ signature,
          after.flow.functions[index]? = some signature ∧
          (Site.ofBody site.setup (bodies site.setup free) signature after).Steady index (after.enter index))
        fun _ => True) ∧
      (∀ depth inLoop, (site.block depth inLoop).Ends world (fun _ after => site.Steady caller after)
        fun _ => True) ∧
      ∀ request : Request, site.setup.Knows request.type → request.argument = false →
        (site.expression request).Ends world (fun expr after => site.Steady caller after ∧
          castCount expr.text = expr.terms ∧
          (castCount expr.text : Int) ≤ termBudget site.settings + max 2 site.settings.maxParams)
          fun _ => True := by
  refine ⟨?_, fun _ request _ => Site.expression_remembers request,
    Site.Steady.entry regular limited source log, ?_⟩
  · intro expr member
    have terse : (expr.terms : Int) ≤ mostTerms setup.settings := run_terse limited source log _ member
    obtain ⟨earlier, later, split⟩ := List.append_of_mem member
    have sound := moments_sound setup source log
    rw [split] at sound
    obtain ⟨caller, flow, signature, aligned, found, formed⟩ := sound.sound
    have numbers := aligned.numbers_params (List.mem_of_getElem? found)
    have casts := (formed.casts regular aligned numbers).castCount
    exact ⟨casts, casts ▸ terse⟩
  · intro site caller world ready
    refine ⟨fun _ free known => ready.callee known free, ready.block, fun request known whole => ?_⟩
    apply (ready.expression known whole).mono
    · exact fun expr after ends => ⟨ends.1, ends.2.1, ends.2.1 ▸ ends.2.2⟩
    · exact fun _ _ => trivial

/-- The number of casts in the expression that is complete at this moment. -/
def Moment.casts : Moment → Option Nat
  | .expressed expr => some (castCount expr.text)
  | _ => none

/-- In a small run, an expression of two terms is generated. -/
theorem run_bounds_terms_small : ∃ expr, .expressed expr ∈ moments smallSetup (.ofSeed 2 false) #[] ∧
    castCount expr.text = 2 ∧ (castCount expr.text : Int) ≤ 42 := by
  have found : (moments smallSetup (.ofSeed 2 false) #[]).any (·.casts == some 2) = true := by decide +kernel
  obtain ⟨moment, member, two⟩ := List.any_eq_true.mp found
  cases moment with
  | expressed expr =>
      have bounds := (run_bounds_terms smallSetup smallSetup_regular rfl (.ofSeed 2 false) #[]).1 expr member
      exact ⟨expr, member, Option.some.inj (beq_iff_eq.mp two), bounds.2⟩
  | _ => cases two

end RandomC
