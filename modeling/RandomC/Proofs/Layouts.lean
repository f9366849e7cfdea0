import RandomC.Proofs.Definition

/-!
# What bodies do not look at

The composite types of a program come up where the result of the entry function is drawn, and where the
type of the first expression of a comma is drawn in an exact replay.  All other steps do the same whatever
the composite types are, so that without such commas the whole body of a function does.  The seed of the
settings is written into the header, and no step looks at it.
-/

namespace RandomC

/-- In no comma is a type drawn among the composite types. -/
def Settings.commasAreScalar (settings : Settings) : Bool :=
  ! (settings.exactReplay && settings.commaOperators)

/-- The setup with other composite types. -/
def Setup.withLayouts (layouts : Layouts) (setup : Setup) : Setup := { setup with layouts }

/-- The settings with another seed. -/
def Settings.withSeed (seed : Int) (settings : Settings) : Settings := { settings with seed }

/-- The setup with other composite types and another seed. -/
def Setup.withUnread (layouts : Layouts) (seed : Int) (setup : Setup) : Setup :=
  { setup with layouts, settings := setup.settings.withSeed seed }

/-- No step of a body looks at the composite types where the given ones differ from those of the setup. -/
def Setup.Spares (layouts : Layouts) (setup : Setup) : Prop :=
  setup.settings.commasAreScalar ∨ layouts = setup.layouts

/-! ## Choosing terms -/

/-- The term that is chosen is one that is in use. -/
theorem chooseTerm_congr {α : Type} {settings : Settings} {argument : Bool} {barred : Term → Bool}
    {make other : Option Term → Gen α} (none : make none = other none)
    (some : ∀ kind : Term, kind.inUse settings → make (some kind) = other (some kind)) :
    chooseTerm settings (termWeights argument settings) barred >>= make =
      chooseTerm settings (termWeights argument settings) barred >>= other := by
  have decoded (value : Int) : make (.some (decodeWeighted .read (termWeights argument settings) value)) =
      other (.some (decodeWeighted .read (termWeights argument settings) value)) :=
    some _ (decodeWeighted_inUse settings argument value)
  unfold chooseTerm
  split
  · unfold chooseAllowed
    split
    · simp only [pure_bind, none]
    · simp only [bind_assoc, pure_bind, decoded]
  · unfold chooseOnce
    simp only [bind_assoc, pure_bind]
    congr 1
    funext value
    split
    · exact none
    · exact decoded _

namespace Site

/-- The site with other composite types and another seed. -/
def withUnread (layouts : Layouts) (seed : Int) (site : Site) : Site :=
  { site with setup := site.setup.withUnread layouts seed }

variable {site : Site} {layouts : Layouts} {seed : Int} {type : CType} {inner : Inner}

/-! ## Terms -/

theorem commaTerm_unread (inUse : site.settings.commaOperators) (spares : site.setup.Spares layouts) :
    (site.withUnread layouts seed).commaTerm inner type = site.commaTerm inner type := by
  rcases spares with scalar | rfl
  · have operators : site.setup.settings.commaOperators = true := inUse
    have never : site.setup.settings.exactReplay = false := by
      simpa [Settings.commasAreScalar, operators] using scalar
    have same : (site.withUnread layouts seed).setup.settings.exactReplay = false := never
    simp only [commaTerm, commaType, Site.settings, never, same, Bool.false_eq_true, if_false]
    rfl
  · rfl

/-- A term is made in the same way unless it is a comma whose type is drawn. -/
theorem term_unread {inner : Option Inner} {depth : Int} {kind : Term}
    (spares : site.setup.Spares layouts) (inUse : kind.inUse site.settings) :
    (site.withUnread layouts seed).term inner depth type kind = site.term inner depth type kind := by
  cases inner with
  | none => cases kind <;> rfl
  | some inner =>
      cases kind with
      | comma => exact congrArg (some <$> ·) (commaTerm_unread inUse spares)
      | _ => rfl

theorem attempt_unread {inner : Option Inner} {depth : Int} {request : Request} {closed : Bool}
    (spares : site.setup.Spares layouts) :
    (site.withUnread layouts seed).attempt ((site.withUnread layouts seed).term inner depth request.type) request closed =
      site.attempt (site.term inner depth request.type) request closed :=
  chooseTerm_congr rfl fun _ inUse => term_unread spares inUse

theorem attempts_unread {inner : Option Inner} {depth : Int} {request : Request} {closed : Bool} (left : Nat)
    (spares : site.setup.Spares layouts) :
    (site.withUnread layouts seed).attempts ((site.withUnread layouts seed).term inner depth request.type) request closed left =
      site.attempts (site.term inner depth request.type) request closed left := by
  induction left with
  | zero => rfl
  | succ left ih =>
      rw [attempts, attempts, attempt_unread spares, ih]
      rfl

theorem oneTerm_unread {inner : Option Inner} {depth : Int} {request : Request}
    (spares : site.setup.Spares layouts) :
    (site.withUnread layouts seed).oneTerm inner depth request = site.oneTerm inner depth request := by
  unfold oneTerm
  simp only [attempts_unread _ spares]
  rfl

/-- Induction on the number of levels that may still be opened. -/
theorem leaf_unread (levels : Nat) (depth : Int) (request : Request) (spares : site.setup.Spares layouts) :
    (site.withUnread layouts seed).leaf levels depth request = site.leaf levels depth request := by
  induction levels generalizing depth request with
  | zero => rw [leaf, leaf, oneTerm_unread spares]
  | succ levels ih =>
      rw [leaf, leaf, oneTerm_unread spares]
      simp only [ih]
      rfl

theorem expression_unread (spares : site.setup.Spares layouts) :
    (site.withUnread layouts seed).expression = site.expression := by
  funext request
  unfold expression Site.inner
  simp only [leaf_unread _ _ _ spares]
  rfl

/-! ## Statements -/

theorem assignStatement_unread (spares : site.setup.Spares layouts) :
    (site.withUnread layouts seed).assignStatement = site.assignStatement := by
  unfold assignStatement
  rw [expression_unread spares]
  rfl

theorem condition_unread (spares : site.setup.Spares layouts) :
    (site.withUnread layouts seed).condition = site.condition := by
  unfold condition
  rw [expression_unread spares]
  rfl

theorem updateStatement_unread (spares : site.setup.Spares layouts) :
    (site.withUnread layouts seed).updateStatement = site.updateStatement := by
  unfold updateStatement
  rw [expression_unread spares]
  rfl

theorem statementOf_unread {nested : Option Nested} {kind : StatementKind}
    (spares : site.setup.Spares layouts) :
    (site.withUnread layouts seed).statementOf nested kind = site.statementOf nested kind := by
  unfold statementOf
  rw [assignStatement_unread spares, condition_unread spares, updateStatement_unread spares]
  rfl

theorem statement_unread {nested : Option Nested} {depth : Int} {inLoop : Bool}
    (spares : site.setup.Spares layouts) :
    (site.withUnread layouts seed).statement nested depth inLoop = site.statement nested depth inLoop := by
  unfold statement
  simp only [statementOf_unread spares]
  rfl

theorem statementAttempts_unread {make : Gen (Option Block)} (left : Nat) :
    (site.withUnread layouts seed).statementAttempts make left = site.statementAttempts make left := by
  induction left with
  | zero => rfl
  | succ left ih =>
      rw [statementAttempts, statementAttempts, ih]
      rfl

theorem statements_unread {make : Gen (Option Block)} (count : Nat) :
    (site.withUnread layouts seed).statements make count = site.statements make count := by
  induction count with
  | zero => rfl
  | succ count ih => rw [statements, statements, ih, statementAttempts_unread]

theorem blockOf_unread {nested : Option Nested} {depth : Int} {inLoop : Bool}
    (spares : site.setup.Spares layouts) :
    (site.withUnread layouts seed).blockOf nested depth inLoop = site.blockOf nested depth inLoop := by
  unfold blockOf
  rw [statement_unread spares]
  simp only [statements_unread]
  rfl

/-- Induction on the number of levels that blocks may still be nested. -/
theorem blockWithin_unread (levels : Nat) (depth : Int) (inLoop : Bool)
    (spares : site.setup.Spares layouts) :
    (site.withUnread layouts seed).blockWithin levels depth inLoop = site.blockWithin levels depth inLoop := by
  induction levels generalizing depth inLoop with
  | zero => rw [blockWithin, blockWithin, blockOf_unread spares]
  | succ levels ih =>
      rw [blockWithin, blockWithin, blockOf_unread spares]
      simp only [ih]

/-! ## Bodies -/

theorem mix_unread (spares : site.setup.Spares layouts) : (site.withUnread layouts seed).mix = site.mix := by
  unfold mix
  rw [expression_unread spares]
  rfl

theorem definition_unread {signature : Signature} {returnLocal : String}
    (spares : site.setup.Spares layouts) :
    (site.withUnread layouts seed).definition signature returnLocal = site.definition signature returnLocal := by
  unfold definition block
  rw [mix_unread spares, blockWithin_unread _ _ _ spares]
  rfl

end Site

section

variable {setup : Setup} {layouts : Layouts} {seed : Int}

theorem buildDefinition_unread {build : Option (Int → Gen Unit)} {index : Int}
    (spares : setup.Spares layouts) :
    buildDefinition (setup.withUnread layouts seed) build index = buildDefinition setup build index := by
  have made (scope : Scope) (signature : Signature) (returnLocal : String) :
      (Site.mk (setup.withUnread layouts seed) scope build).definition signature returnLocal =
        (Site.mk setup scope build).definition signature returnLocal :=
    @Site.definition_unread ⟨setup, scope, build⟩ layouts seed signature returnLocal spares
  unfold buildDefinition
  simp only [made]

theorem ensureBuilt_unread {build : Option (Int → Gen Unit)} {index : Int}
    (spares : setup.Spares layouts) :
    ensureBuilt (setup.withUnread layouts seed) build index = ensureBuilt setup build index := by
  unfold ensureBuilt
  rw [buildDefinition_unread spares]

/-- Induction on the number of functions that may still be created. -/
theorem bodies_unread (free : Nat) (spares : setup.Spares layouts) :
    bodies (setup.withUnread layouts seed) free = bodies setup free := by
  induction free with
  | zero => rfl
  | succ free ih =>
      rw [bodies, bodies, ih]
      simp only [ensureBuilt_unread spares]

/-- The body of a function, with those of the functions that it creates, does not depend on the seed, nor on
the composite types unless types of commas are drawn among them. -/
theorem buildBody_unread (spares : setup.Spares layouts) :
    buildBody (setup.withUnread layouts seed) = buildBody setup := by
  funext index
  unfold buildBody nextBodies
  simp only [bodies_unread _ spares, ensureBuilt_unread spares]
  rfl

theorem buildBody_layouts (spares : setup.settings.commasAreScalar) :
    buildBody (setup.withLayouts layouts) = buildBody setup :=
  buildBody_unread (.inl spares)

/-- A run does not depend on the seed of the settings. -/
theorem run_withSeed (source : Random.Source) (log : Array Event) :
    let other := setup.withUnread setup.layouts seed
    run other (.start other source log) = run setup (.start setup source log) := by
  intro other
  have built : buildBody other = buildBody setup := buildBody_unread (.inr rfl)
  rw [run_eq, run_eq, built]
  rfl

end

end RandomC
