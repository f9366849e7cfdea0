import RandomC.Proofs.Grammar

/-!
# The texts of expressions

Wherever a whole expression is generated in the body of a function, its text is one of the grammar, for the
type that was asked for, and its brackets are balanced.  `Site.Ready` is what has to hold for this; it holds
where a body is begun, and every expression and every block leaves it so.
-/

namespace RandomC

/-! ## Balanced expressions -/

section

variable {setup : Setup} {caller : Nat} {params : List Variable} {flow : Flow}

theorem balanced_castText {type : CType} {text : String} (name : Balanced type.name)
    (inside : Balanced text) : Balanced (type.castText text) := by
  simp [Balanced, CType.castText, name.read, inside.read]

theorem Environment.Names.unbracketed {env : Environment} {name : String} (names : env.Names name) :
    Unbracketed name := by
  rcases names with ⟨number, -, rfl⟩
  exact unbracketed_numbered (by decide) number

/-- The names of the scalar types contain no brackets. -/
theorem unbracketed_scalar {intSize : Int} {longLong : Bool} {type : CType}
    (member : type ∈ CType.scalars intSize longLong) : Unbracketed type.name := by
  have standard : ∀ type ∈ CType.standard, Unbracketed type.name := by decide
  have host := standard _ (hostInt_mem intSize)
  have unsigned := standard _ (unsignedOf_mem (CType.hostInt intSize).bits)
  simp only [CType.standard, List.forall_mem_cons] at standard
  revert type
  cases longLong <;> simp [CType.scalars, standard, host, unsigned]

theorem Setup.Knows.unbracketed {type : CType} (regular : setup.Regular) (known : setup.Knows type) :
    Unbracketed type.name := by
  have scalar {type : CType} (member : type ∈ setup.scalars) : Unbracketed type.name := by
    rw [regular.scalars_eq] at member
    exact unbracketed_scalar member
  have composite (kind : CompositeKind) (index : Nat) : Unbracketed (kind.type index).name := by
    have keyword : Unbracketed kind.keyword := by cases kind <;> decide
    have stem : kind.nameKind.stem.toList.all isWordChar := by cases kind <;> decide
    rw [compositeType_name, compositeName_eq]
    exact keyword.append (unbracketed_numbered stem index)
  cases known with
  | uint32 => decide
  | scalar member => exact scalar member
  | struct => exact composite .struct _
  | union => exact composite .union _
  | global member => exact scalar (regular.sound.globals _ member).1
  | array member => exact scalar (regular.sound.arrays _ member).1

theorem Aligned.unbracketed_global (aligned : Aligned setup flow) (sound : setup.Sound) {v : GlobalVar}
    (member : v ∈ setup.env.globals ++ flow.created) : Unbracketed v.name := by
  rcases List.mem_append.mp member with early | late
  · exact (sound.globals v early).2.unbracketed
  · obtain ⟨number, -, same⟩ := aligned.created_name sound late
    exact same ▸ unbracketed_numbered (by decide) number

theorem Signature.unbracketed_name (aligned : Aligned setup flow) {signature : Signature}
    (member : signature ∈ flow.functions) : Unbracketed signature.name := by
  obtain ⟨number, -, -, same⟩ := aligned.function_name member
  rw [Signature.name, same]
  exact unbracketed_numbered (by decide) number

theorem Numbers.unbracketed (numbers : Numbers params) {v : Variable} (member : v ∈ params) :
    Unbracketed v.name := by
  obtain ⟨number, same⟩ := numbers v member
  exact same ▸ unbracketed_numbered (by decide) number

/-- The text of a place that is on offer has no brackets but those around an index. -/
theorem Offered.unbracketed {candidate : Candidate} (sound : setup.Sound) (aligned : Aligned setup flow)
    (numbers : Numbers params) (offered : Offered setup params flow candidate) :
    Unbracketed candidate.place.text ∨ ∃ (name : String) (index : Nat), Unbracketed name ∧
      candidate.place.text = name ++ ("[" ++ index.repr ++ "]") := by
  cases offered with
  | global member =>
      obtain ⟨v, declared, rfl⟩ := aligned.exists_candidate member
      exact .inl (aligned.unbracketed_global sound declared)
  | param member => exact .inl (numbers.unbracketed member)
  | target member =>
      exact .inl ((by decide : Unbracketed "*").append (sound.pointers _ member).2.unbracketed)
  | @element v index member bound =>
      exact .inr ⟨v.name, index, (sound.arrays v member).2.unbracketed, by simp [Place.text, String.append_assoc]⟩

theorem Offered.balanced {candidate : Candidate} (sound : setup.Sound) (aligned : Aligned setup flow)
    (numbers : Numbers params) (offered : Offered setup params flow candidate) :
    Balanced candidate.place.text := by
  rcases offered.unbracketed sound aligned numbers with unbracketed | ⟨name, index, unbracketed, same⟩
  · exact unbracketed.balanced
  · rw [same]
    exact unbracketed.balanced.append (unbracketed_nat index).balanced.square

theorem Expr.Formed.balanced {expr : Expr} (regular : setup.Regular) (aligned : Aligned setup flow)
    (numbers : Numbers params) (formed : expr.Formed setup caller params flow) : Balanced expr.text := by
  induction formed with
  | literal known plain =>
      have number := unbracketed_of_word (isWordChar_of_mem_literal plain)
      exact balanced_castText (known.unbracketed regular).balanced number.balanced
  | read known offered =>
      exact balanced_castText (known.unbracketed regular).balanced
        (offered.balanced regular.sound aligned numbers)
  | @call type index callee arguments known later found types formed ih =>
      have name := (callee.unbracketed_name aligned (List.mem_of_getElem? found)).balanced
      have list : Balanced (", ".intercalate (Expr.texts arguments)) := by
        apply balanced_intercalate
        intro text member
        obtain ⟨argument, present, rfl⟩ := mem_texts.mp member
        exact ih argument present
      have call := name.append list.round
      apply balanced_castText (known.unbracketed regular).balanced
      simpa only [String.append_assoc, Signature.name] using call
  | assign known offered assignable same formed ih =>
      have place := offered.balanced regular.sound aligned numbers
      apply balanced_castText (known.unbracketed regular).balanced
      simp (disch := decide) [Balanced, place.read, ih.read, stillOpen_plain]
  | comma known same leftFormed rightFormed left right =>
      apply balanced_castText (known.unbracketed regular).balanced
      simp (disch := decide) [Balanced, left.read, right.read, stillOpen_plain]
  | complement known same formed ih =>
      apply balanced_castText (known.unbracketed regular).balanced
      simp (disch := decide) [Balanced, ih.read, stillOpen_plain]
  | xor known leftSame rightSame leftFormed rightFormed left right =>
      apply balanced_castText (known.unbracketed regular).balanced
      simp (disch := decide) [Balanced, left.read, right.read, stillOpen_plain]

end

/-! ## Ready sites -/

namespace Site

/-- The state is one inside the body of the function at an index, and the site belongs to this body: it
sees the parameters of this function, and the bodies of the functions that it creates are built. -/
structure Ready (site : Site) (caller : Nat) (world : World) : Prop where
  regular : site.setup.Regular
  good : world.Good site.setup
  fits : site.Fits caller world

section

variable {site : Site} {caller : Nat} {world after : World}

theorem Ready.mono (ready : site.Ready caller world) (good : after.Good site.setup)
    (proceeds : world.Proceeds after) : site.Ready caller after where
  regular := ready.regular
  good := good
  fits := ready.fits.mono proceeds

theorem Ready.numbers (ready : site.Ready caller world) : Numbers site.scope.params := by
  obtain ⟨signature, found, same⟩ := ready.fits.params
  exact same ▸ ready.good.aligned.numbers_params (List.mem_of_getElem? found)

/-- Where the body of a function begins, its site is ready. -/
theorem Ready.enter {setup : Setup} {index : Nat} {signature : Signature} (regular : setup.Regular)
    (awaits : world.Awaits setup index) (found : world.flow.functions[index]? = some signature)
    (free : Nat) : (ofBody setup (bodies setup free) signature world).Ready index (world.enter index) where
  regular := regular
  good := awaits.enter
  fits := awaits.fits found (bodies_builds free)

/-- A block leaves its site ready. -/
theorem Ready.block (ready : site.Ready caller world) (depth : Int) (inLoop : Bool) :
    (site.block depth inLoop).Ends world (fun _ after => site.Ready caller after) fun _ => True := by
  apply Step.Ends.mono (site.block_makes depth inLoop world ready.fits ready.good)
  · exact fun _ _ ends => ready.mono ends.1 ends.2.1
  · exact fun _ _ => trivial

/-- What is known of the expression that meets a request. -/
structure Meets (site : Site) (caller : Nat) (request : Request) (expr : Expr) (after : World) : Prop where
  ready : site.Ready caller after
  formed : expr.Formed site.setup caller site.scope.params after.flow
  type : expr.type = request.type
  shaped : expr.Whole site.settings

theorem Ready.expression (ready : site.Ready caller world) (request : Request)
    (known : site.setup.Knows request.type) :
    (site.expression request).Ends world (site.Meets caller request) fun _ => True := by
  have kept := expression_makes request world known ready.fits ready.good
  have shaped := expression_holds Regime.free_expressive (upheld_free site) request world trivial
  apply (Step.Ends.and kept shaped).mono
  · rintro expr after ⟨⟨good, grows, admits⟩, -, -, -, whole⟩
    exact ⟨ready.mono good grows.toProceeds, admits.formed, admits.type, whole⟩
  · exact fun _ _ => trivial

theorem Meets.text {request : Request} {expr : Expr} (meets : site.Meets caller request expr after) :
    WholeText (after.flow.vocabulary site.setup) caller site.scope.params request.type expr.text :=
  meets.type ▸ meets.shaped.exprText meets.ready.regular.lengths meets.ready.good.aligned meets.formed

end

end Site

/-- A whole expression that is generated for a type in the body of a function has a text of the grammar for
this type, with balanced brackets.  What has to hold for this holds where a body is begun, be it that of the
entry function or of one that is created on the way, and it still holds after any expression and any
block. -/
theorem expression_writes_grammar :
    (∀ (setup : Setup) (source : Random.Source) (log : Array Event),
      (addEntry setup).Ends (.start setup source log) (fun _ after => after.Awaits setup 0) fun _ => True) ∧
    (∀ (setup : Setup) (world : World) (index : Nat) (signature : Signature) (free : Nat), setup.Regular →
      world.Awaits setup index → world.flow.functions[index]? = some signature →
        (Site.ofBody setup (bodies setup free) signature world).Ready index (world.enter index)) ∧
    ∀ (site : Site) (caller : Nat) (world : World), site.Ready caller world →
      (∀ type, site.setup.Knows type → (createFunction site.setup (some type)).Ends world
        (fun created after => ∀ index, created = some index → after.Awaits site.setup index)
        fun _ => True) ∧
      (∀ depth inLoop, (site.block depth inLoop).Ends world (fun _ after => site.Ready caller after)
        fun _ => True) ∧
      ∀ request, site.setup.Knows request.type →
        (site.expression request).Ends world (fun expr after => site.Ready caller after ∧
          WholeText (after.flow.vocabulary site.setup) caller site.scope.params request.type expr.text ∧
          Balanced expr.text) fun _ => True := by
  refine ⟨?_, fun _ _ _ _ free regular awaits found => .enter regular awaits found free, ?_⟩
  · exact fun setup source log => (addEntry_ends source log).mono (fun _ _ => id) fun _ _ => trivial
  · intro site caller world ready
    refine ⟨?_, ready.block, ?_⟩
    · intro type known
      apply (createFunction_ends ready.good known).mono
      · exact fun _ _ ends index same => (ends.2 index same).awaits
      · exact fun _ _ => trivial
    · intro request known
      apply (ready.expression request known).mono
      · intro expr after meets
        exact ⟨meets.ready, meets.text,
          meets.formed.balanced meets.ready.regular meets.ready.good.aligned meets.ready.numbers⟩
      · exact fun _ _ => trivial

theorem smallSetup_regular : smallSetup.Regular where
  sound := ⟨⟨nofun, nofun, nofun⟩, Int.le_refl 0, names_scalars 4 true⟩
  scalars_eq := rfl
  lengths := nofun

/-- At the begin of a small run, the first expression is a call of a new function, with a new global. -/
theorem expression_writes_grammar_small : ∃ (site : Site) (world : World), site.Ready 0 world ∧
    site.setup.Knows .uint32 ∧ ∃ (expr : Expr) (after : World),
      site.expression (.plain .uint32) world = (.ok expr, after) ∧
      expr.text = "((uint32_t)(func_2(((int32_t)(g_0)))))" ∧
      WholeText (after.flow.vocabulary site.setup) 0 site.scope.params .uint32 expr.text ∧
      Balanced expr.text := by
  let site : Site := .ofBody smallSetup (bodies smallSetup 1) ⟨1, .uint128, []⟩ smallStart
  have found : smallStart.flow.functions[0]? = some ⟨1, .uint128, []⟩ := by decide +kernel
  have ready : site.Ready 0 (smallStart.enter 0) :=
    expression_writes_grammar.2.1 _ _ _ _ 1 smallSetup_regular smallStart_awaits found
  have text : (site.expression (.plain .uint32) (smallStart.enter 0)).1.toOption.map Expr.text =
      some "((uint32_t)(func_2(((int32_t)(g_0)))))" := by decide +kernel
  have ends := (expression_writes_grammar.2.2 site 0 _ ready).2.2 (.plain .uint32) .uint32
  refine ⟨site, smallStart.enter 0, ready, .uint32, ?_⟩
  revert ends text
  simp only [Step.Ends]
  rcases site.expression (.plain .uint32) (smallStart.enter 0) with ⟨failure | expr, after⟩
  · exact fun none _ => by cases none
  · exact fun same ends => ⟨expr, after, rfl, Option.some.inj same, ends.2⟩

end RandomC
