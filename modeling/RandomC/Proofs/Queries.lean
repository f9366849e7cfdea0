import Mathlib.Data.List.Forall2
import RandomC.Proofs.Names
import RandomC.Proofs.Redraws
import RandomC.Random.Query
import RandomC.Random.Trace

/-!
# Recorded queries

A source that records its decisions writes one line for each query that makes a decision, in the order in which they
were put.  The line tells which values of the stream were drawn for it, so that the number of values drawn can be
read off the record, up to the values that were drawn outright and those of draws that came to nothing.
-/

namespace RandomC.Random

/-! ## Decisions -/

/-- The number of redraws behind a decision. -/
def Decision.tries : Decision → Nat
  | bounded _ _ tries _ => tries
  | coin .. => 0

/-- The decision as a line of a detailed trace tells it. -/
def Decision.text : Decision → String
  | bounded bound value tries raw => s!"U {bound} -> {value} tries={tries} raw={raw}"
  | coin percent heads raw => s!"F {percent} -> {if heads then 1 else 0} raw={raw}"

theorem Decision.line_eq (index : Nat) (decision : Decision) :
    decision.line true index = s!"{index + 1} {decision.text}" := by
  cases decision <;> simp [line, summary, details, text, String.append_assoc]

namespace Query

/-- The decision that a query comes to on the values of a stream, and the answer that it gives with it. -/
inductive Makes (source : Source) : Query → Decision → Answer → Prop
  | below {bound : Int} (positive : 0 < bound) :
      Makes source (.below bound)
        (.bounded bound (source.valueBelow bound 0) 0 (source.valueAfter 0)) (.value (source.valueBelow bound 0))
  | coin {percent : Int} {chances : Nat} (clamped : (chances : Int) = max 0 (min percent 100)) :
      Makes source (.coin percent)
        (.coin chances (decide (source.valueAfter 0 % 100 < chances)) (source.valueAfter 0))
        (.heads (decide (source.valueAfter 0 % 100 < chances)))
  | belowUnless {bound : Int} {reject : Nat → Bool} {index : Nat} (positive : 0 < bound)
      (bounded : index ≤ maxRedraws) (first : source.FirstAccepted bound reject index) :
      Makes source (.belowUnless bound reject)
        (.bounded bound (source.valueBelow bound index) index (source.valueAfter index))
        (.value (source.valueBelow bound index))

/-- How a query may end on a source that records its decisions. -/
inductive Course (source : Source) : Query → Except Failure Answer → Source → Prop
  | next : Course source .next (.ok (.value (source.valueAfter 0))) (source.skip 1)
  | belowNothing {bound : Int} (none : bound ≤ 0) : Course source (.below bound) (.ok (.value 0)) source
  | belowNothingUnless {bound : Int} {reject : Nat → Bool} (none : bound ≤ 0) :
      Course source (.belowUnless bound reject) (.ok (.value 0)) source
  | decided {query : Query} {decision : Decision} {answer : Answer} (makes : query.Makes source decision answer)
      (writable : decision.isWritable) :
      Course source query (.ok answer) ((source.skip (1 + decision.tries)).record decision)
  | withheld {query : Query} {decision : Decision} {answer : Answer} (makes : query.Makes source decision answer)
      (unwritable : decision.isWritable = false) :
      Course source query (.error .unwritable) (source.skip (1 + decision.tries))
  | givenUp {bound : Int} {reject : Nat → Bool} (positive : 0 < bound)
      (rejected : ∀ index ≤ maxRedraws, reject (source.valueBelow bound index) = true) :
      Course source (.belowUnless bound reject) (.error (.noneAccepted bound maxRedraws))
        (source.skip (maxRedraws + 1))

variable {source : Source} {query : Query}

theorem answer_eq (query : Query) (source : Source) :
    query.answer source =
      if ((query.draw source).2.decisions.toList.drop source.decisions.size).all Decision.isWritable then
        query.draw source
      else (.error .unwritable, { (query.draw source).2 with decisions := source.decisions }) := rfl

/-- A query that records nothing is answered as it draws. -/
theorem answer_of_unrecorded (same : (query.draw source).2.decisions = source.decisions) :
    query.answer source = query.draw source := by
  have none : (query.draw source).2.decisions.toList.drop source.decisions.size = [] := by
    rw [same]
    exact List.drop_of_length_le (Nat.le_of_eq Array.length_toList)
  rw [answer_eq, none]
  rfl

/-- A query that records a decision is answered if the decision can be written. -/
theorem course_of_recorded {decision : Decision} {answer : Answer} (tracing : source.tracing = true)
    (makes : query.Makes source decision answer)
    (draws : query.draw source = (.ok answer, (source.skip (1 + decision.tries)).record decision)) :
    Course source query (query.answer source).1 (query.answer source).2 := by
  have recorded : ((source.skip (1 + decision.tries)).record decision) =
      { source.skip (1 + decision.tries) with decisions := source.decisions.push decision } := by
    rw [Source.record, if_pos ((source.skip_tracing _).trans tracing), Source.skip_decisions]
  have added : (source.decisions.push decision).toList.drop source.decisions.size = [decision] := by
    simp [Array.toList_push]
  have answered : query.answer source =
      if decision.isWritable then (.ok answer, (source.skip (1 + decision.tries)).record decision)
      else (.error .unwritable, source.skip (1 + decision.tries)) := by
    rw [answer_eq, draws, recorded, added, List.all_cons, List.all_nil, Bool.and_true,
      ← Source.skip_decisions (1 + decision.tries)]
  rw [answered]
  cases writable : decision.isWritable with
  | true => exact .decided makes writable
  | false => exact .withheld makes writable

/-- Each query takes one of the courses. -/
theorem course (query : Query) (tracing : source.tracing = true) :
    Course source query (query.answer source).1 (query.answer source).2 := by
  cases query with
  | next =>
      have draws : next.draw source = (.ok (.value (source.valueAfter 0)), source.skip 1) := rfl
      rw [answer_of_unrecorded (by rw [draws, Source.skip_decisions]), draws]
      exact .next
  | below bound =>
      rcases Int.lt_or_le 0 bound with positive | none
      · apply course_of_recorded tracing (.below positive)
        simp only [draw, Source.below, if_neg (show ¬ bound ≤ 0 by omega)]
        rfl
      · have idle : (below bound).draw source = (.ok (.value 0), source) := by
          simp only [draw, Source.below, if_pos none]
          rfl
        rw [answer_of_unrecorded (by rw [idle]), idle]
        exact .belowNothing none
  | coin percent =>
      exact course_of_recorded tracing (.coin (by omega)) rfl
  | belowUnless bound reject =>
      rcases Int.lt_or_le 0 bound with positive | none
      · rcases Source.belowUnless_eq positive reject source with
          ⟨index, bounded, first, draws⟩ | ⟨rejected, draws⟩
        · apply course_of_recorded tracing (.belowUnless positive bounded first)
          simp only [draw, draw_bind, draws, draw_pure, Decision.tries, Nat.add_comm 1]
        · have givenUp : (belowUnless bound reject).draw source =
              (.error (.noneAccepted bound maxRedraws), source.skip (maxRedraws + 1)) := by
            simp only [draw, draw_bind, draws, draw_pure]
          rw [answer_of_unrecorded (by rw [givenUp, Source.skip_decisions]), givenUp]
          dsimp only
          exact .givenUp positive rejected
      · have idle : (belowUnless bound reject).draw source = (.ok (.value 0), source) := by
          simp only [draw, Source.belowUnless, if_pos none]
          rfl
        rw [answer_of_unrecorded (by rw [idle]), idle]
        exact .belowNothingUnless none

/-- The bound of the query can be written. -/
def isWritable : Query → Bool
  | below bound | belowUnless bound _ => Text.hasDecimalText bound
  | next | coin _ => true

theorem Makes.isWritable_eq {decision : Decision} {answer : Answer} (makes : query.Makes source decision answer) :
    decision.isWritable = query.isWritable := by
  cases makes <;> rfl

end Query

/-! ## Exchanges -/

/-- A query that was put to a source, with the answer and the source before and after it. -/
structure Exchange where
  query : Query
  answer : Except Failure Answer
  before : Source
  after : Source

namespace Exchange

/-- The number of values that were drawn. -/
def drawn (exchange : Exchange) : Nat := exchange.after.drawn - exchange.before.drawn

/-- The query was answered, after a decision: a coin was flipped or a value drawn below a bound. -/
def isDecided (exchange : Exchange) : Bool :=
  exchange.answer.isOk && match exchange.query with
    | .next => false
    | .coin _ => true
    | .below bound | .belowUnless bound _ => decide (0 < bound)

/-- The query was for a plain value. -/
def isNext (exchange : Exchange) : Bool :=
  match exchange.query with
  | .next => true
  | _ => false

/-- The draw was given up. -/
def isGivenUp (exchange : Exchange) : Bool :=
  match exchange.answer with
  | .error (.noneAccepted ..) => true
  | .error _ | .ok _ => false

/-- A draw with a filter was not answered. -/
def isUnansweredFilter (exchange : Exchange) : Bool :=
  match exchange.query with
  | .belowUnless .. => ! exchange.answer.isOk
  | _ => false

/-- The answer was withheld. -/
def isWithheld (exchange : Exchange) : Bool :=
  match exchange.answer with
  | .error .unwritable => true
  | .error _ | .ok _ => false

/-- The exchange came to a decision. -/
def Decides (exchange : Exchange) (decision : Decision) : Prop :=
  ∃ answer, exchange.answer = .ok answer ∧ exchange.query.Makes exchange.before decision answer

end Exchange

namespace Source

/-- The exchanges of queries that are put to a source one after the other. -/
def exchanges (source : Source) : List Query → List Exchange
  | [] => []
  | query :: rest =>
    let answered := query.answer source
    ⟨query, answered.1, source, answered.2⟩ :: answered.2.exchanges rest

/-- The source after queries were put to it. -/
def afterAll (source : Source) : List Query → Source
  | [] => source
  | query :: rest => (query.answer source).2.afterAll rest

end Source

/-- What exchanges cost: the draws of the decisions that they came to, the plain values, the draws that were given up,
and those behind the answers that were withheld. -/
def cost (exchanges : List Exchange) (decisions : List Decision) : Nat :=
  (decisions.map fun decision => 1 + decision.tries).sum + exchanges.countP Exchange.isNext +
    (maxRedraws + 1) * exchanges.countP Exchange.isGivenUp +
      ((exchanges.filter Exchange.isWithheld).map Exchange.drawn).sum

/-- Exchanges that led from one source to another came to the decisions that were recorded meanwhile, and what they
cost was drawn. -/
structure Recorded (exchanges : List Exchange) (before after : Source) (decisions : List Decision) : Prop where
  record : after.decisions.toList = before.decisions.toList ++ decisions
  decided : List.Forall₂ Exchange.Decides (exchanges.filter Exchange.isDecided) decisions
  drawn : after.drawn = before.drawn + cost exchanges decisions

theorem cost_append (first second : List Exchange) (decisions more : List Decision) :
    cost (first ++ second) (decisions ++ more) = cost first decisions + cost second more := by
  simp only [cost, List.map_append, List.sum_append, List.countP_append, List.filter_append, Nat.mul_add]
  omega

theorem Recorded.append {first second : List Exchange} {before middle after : Source} {decisions more : List Decision}
    (earlier : Recorded first before middle decisions) (later : Recorded second middle after more) :
    Recorded (first ++ second) before after (decisions ++ more) where
  record := by rw [later.record, earlier.record, List.append_assoc]
  decided := by
    rw [List.filter_append]
    exact List.rel_append earlier.decided later.decided
  drawn := by rw [later.drawn, earlier.drawn, cost_append, Nat.add_assoc]

namespace Query

variable {source after : Source} {query : Query} {answer : Answer} {decision : Decision}

/-- A query that comes to a decision is none for a plain value. -/
theorem Makes.isNext_eq (makes : query.Makes source decision answer) (given : Except Failure Answer) :
    Exchange.isNext ⟨query, given, source, after⟩ = false := by
  cases makes <;> rfl

/-- Where the query is answered, the exchange counts as decided. -/
theorem Makes.isDecided_eq (makes : query.Makes source decision answer) :
    Exchange.isDecided ⟨query, .ok answer, source, after⟩ = true := by
  cases makes with
  | below positive => exact decide_eq_true positive
  | coin clamped => rfl
  | belowUnless positive bounded first => exact decide_eq_true positive

/-- An exchange comes to one decision at most. -/
theorem Course.recorded {given : Except Failure Answer} (tracing : source.tracing = true)
    (course : Course source query given after) :
    ∃ decisions, Recorded [⟨query, given, source, after⟩] source after decisions := by
  have nothing {bound : Int} (none : bound ≤ 0) : decide (0 < bound) = false := decide_eq_false (by omega)
  cases course with
  | next =>
      refine ⟨[], by simp, .nil, ?_⟩
      simp [cost, Exchange.isNext, Exchange.isGivenUp, Exchange.isWithheld]
  | belowNothing none =>
      refine ⟨[], by simp, by simp [Exchange.isDecided, nothing none], ?_⟩
      simp [cost, Exchange.isNext, Exchange.isGivenUp, Exchange.isWithheld]
  | belowNothingUnless none =>
      refine ⟨[], by simp, by simp [Exchange.isDecided, nothing none], ?_⟩
      simp [cost, Exchange.isNext, Exchange.isGivenUp, Exchange.isWithheld]
  | @decided _ decision answer makes writable =>
      refine ⟨[decision], ?_, ?_, ?_⟩
      · rw [Source.record, if_pos ((source.skip_tracing _).trans tracing), Source.skip_decisions, Array.toList_push]
      · rw [List.filter_cons_of_pos makes.isDecided_eq, List.filter_nil]
        exact .cons ⟨answer, rfl, makes⟩ .nil
      · have drawn := congrArg Position.drawn (position_record decision (source.skip (1 + decision.tries)))
        have moved : ((source.skip (1 + decision.tries)).record decision).drawn = source.drawn + (1 + decision.tries) :=
          drawn.trans (source.skip_drawn _)
        simp [moved, cost, makes.isNext_eq, Exchange.isGivenUp, Exchange.isWithheld]
  | @withheld _ decision answer makes unwritable =>
      refine ⟨[], by simp, .nil, ?_⟩
      simp [cost, makes.isNext_eq, Exchange.isGivenUp, Exchange.isWithheld, Exchange.drawn, List.filter_cons]
  | givenUp positive rejected =>
      refine ⟨[], by simp, .nil, ?_⟩
      simp [cost, Exchange.isNext, Exchange.isGivenUp, Exchange.isWithheld]

/-- A source goes on recording its decisions. -/
theorem Course.tracing_eq {given : Except Failure Answer} (course : Course source query given after) :
    after.tracing = source.tracing := by
  have kept (decision : Decision) (source : Source) : (source.record decision).tracing = source.tracing := by
    rw [Source.record]
    split <;> rfl
  cases course with
  | decided => rw [kept, Source.skip_tracing]
  | next | withheld | givenUp => exact source.skip_tracing _
  | belowNothing | belowNothingUnless => rfl

end Query

/-- The exchanges of queries come to the decisions that are recorded meanwhile. -/
theorem Source.recorded_exchanges {source : Source} (tracing : source.tracing = true) (queries : List Query) :
    ∃ decisions, Recorded (source.exchanges queries) source (source.afterAll queries) decisions := by
  induction queries generalizing source with
  | nil => exact ⟨[], by simp [afterAll], .nil, by simp [afterAll, exchanges, cost]⟩
  | cons query rest ih =>
      have course := query.course tracing
      obtain ⟨first, begins⟩ := course.recorded tracing
      obtain ⟨others, goesOn⟩ := ih (course.tracing_eq.trans tracing)
      exact ⟨first ++ others, begins.append goesOn⟩

/-- Each exchange of queries takes one of the courses. -/
theorem Source.course_of_mem {source : Source} (tracing : source.tracing = true) {queries : List Query}
    {exchange : Exchange} (member : exchange ∈ source.exchanges queries) :
    exchange.query ∈ queries ∧ Query.Course exchange.before exchange.query exchange.answer exchange.after := by
  induction queries generalizing source with
  | nil => cases member
  | cons query rest ih =>
      have course := query.course tracing
      rcases List.mem_cons.mp member with rfl | later
      · exact ⟨List.mem_cons_self, course⟩
      · obtain ⟨asked, takes⟩ := ih (course.tracing_eq.trans tracing) later
        exact ⟨List.mem_cons_of_mem _ asked, takes⟩

/-- An answer is withheld where the decision cannot be written. -/
theorem Query.Course.of_withheld {exchange : Exchange}
    (course : Query.Course exchange.before exchange.query exchange.answer exchange.after)
    (withheld : exchange.isWithheld) :
    ∃ decision answer, exchange.query.Makes exchange.before decision answer ∧ exchange.query.isWritable = false ∧
      exchange.drawn = 1 + decision.tries ∧ exchange.after.decisions = exchange.before.decisions := by
  obtain ⟨query, answer, before, after⟩ := exchange
  dsimp only at course ⊢
  cases course with
  | @withheld _ decision answer makes unwritable =>
      refine ⟨decision, answer, makes, makes.isWritable_eq.symm.trans unwritable, ?_, before.skip_decisions _⟩
      rw [Exchange.drawn, Source.skip_drawn, Nat.add_sub_cancel_left]
  | next | belowNothing | belowNothingUnless | decided | givenUp => cases withheld

/-- Where the bound can be written, the answer is not withheld, and a draw with a filter is not answered only if it is
given up. -/
theorem Query.Course.of_writable {exchange : Exchange}
    (course : Query.Course exchange.before exchange.query exchange.answer exchange.after)
    (writable : exchange.query.isWritable) :
    exchange.isWithheld = false ∧ exchange.isGivenUp = exchange.isUnansweredFilter := by
  obtain ⟨query, answer, before, after⟩ := exchange
  dsimp only at course writable
  cases course with
  | withheld makes unwritable =>
      rw [← makes.isWritable_eq, unwritable] at writable
      cases writable
  | decided makes writable => cases makes <;> exact ⟨rfl, rfl⟩
  | next | belowNothing | belowNothingUnless | givenUp => exact ⟨rfl, rfl⟩

/-- Queries that are put to a source one after the other, from a seed on, with a detailed trace.

The lines of the trace are numbered from 1 without gaps.  There is one line for each coin and for each draw below a
positive bound that was answered, in the order of the queries, and it tells the decision: a draw below a bound is
`U bound -> value tries=… raw=…`, where the raw value is the one that the stream shows after as many others as there
were redraws, and the value is its remainder; a coin is `F percent -> … raw=…`, where the percentage is clamped, and
the outcome is 1 if the remainder of the raw value by 100 is below it, else 0.

If all bounds can be written, the number of values drawn is the sum of one and the redraws over all lines, the number
of queries for a plain value, and all looks of the draws with a filter that were not answered.  In general, a query
whose decision has a bound with too many digits is not answered, and what was drawn for that decision comes on top. -/
theorem queries_are_recorded (seed : Int) (queries : List Query) :
    let source := Source.ofSeed seed true
    let exchanges := source.exchanges queries
    let last := source.afterAll queries
    let decisions := last.decisions.toList
    last.traceLines true = (decisions.mapIdx fun index decision => s!"{index + 1} {decision.text}") ∧
      List.Forall₂ Exchange.Decides (exchanges.filter Exchange.isDecided) decisions ∧
      ((∀ query ∈ queries, query.isWritable) → last.drawn =
        (decisions.map fun decision => 1 + decision.tries).sum + exchanges.countP Exchange.isNext +
          (maxRedraws + 1) * exchanges.countP Exchange.isUnansweredFilter) ∧
      last.drawn = cost exchanges decisions ∧
      ∀ exchange ∈ exchanges, exchange.isWithheld → ∃ decision answer,
        exchange.query.Makes exchange.before decision answer ∧ exchange.query.isWritable = false ∧
          exchange.drawn = 1 + decision.tries ∧ exchange.after.decisions = exchange.before.decisions := by
  intro source exchanges last decisions
  have tracing : source.tracing = true := rfl
  have takes (exchange : Exchange) (member : exchange ∈ exchanges) :
      exchange.query ∈ queries ∧ Query.Course exchange.before exchange.query exchange.answer exchange.after :=
    source.course_of_mem tracing member
  obtain ⟨made, recorded⟩ := source.recorded_exchanges tracing queries
  obtain rfl : decisions = made := recorded.record
  have drawn : last.drawn = cost exchanges decisions := recorded.drawn.trans (Nat.zero_add _)
  refine ⟨?_, recorded.decided, ?_, drawn, fun exchange member => (takes exchange member).2.of_withheld⟩
  · simp only [Source.traceLines, ← Decision.line_eq]
    rfl
  · intro writable
    have plain (exchange : Exchange) (member : exchange ∈ exchanges) :
        exchange.isWithheld = false ∧ exchange.isGivenUp = exchange.isUnansweredFilter :=
      (takes exchange member).2.of_writable (writable _ (takes exchange member).1)
    have noneWithheld : exchanges.filter Exchange.isWithheld = [] :=
      List.filter_eq_nil_iff.mpr fun exchange member => by simp [(plain exchange member).1]
    have givenUp : exchanges.countP Exchange.isGivenUp = exchanges.countP Exchange.isUnansweredFilter :=
      List.countP_congr fun exchange member => by rw [(plain exchange member).2]
    rw [drawn, cost, noneWithheld, givenUp]
    rfl

/-- One query of each kind, one that draws nothing, and a coin whose chances are clamped. -/
def smallQueries : List Query := [.below 10, .coin 150, .next, .belowUnless 100 (· != 51), .below 0, .coin (-3)]

/-- Six values are drawn for the queries, one of them outright.  With a bound that has too many digits, one is drawn
for nothing. -/
theorem queries_are_recorded_small :
    let source := Source.ofSeed 17 true
    let last := source.afterAll smallQueries
    (∀ query ∈ smallQueries, query.isWritable) ∧
      last.traceLines true = ["1 U 10 -> 6 tries=0 raw=2092652556", "2 F 100 -> 1 raw=1563238973",
        "3 U 100 -> 51 tries=1 raw=808449751", "4 F 0 -> 0 raw=981935543"] ∧
      last.drawn = ((1 + 0) + ((1 + 0) + ((1 + 1) + ((1 + 0) + 0)))) + 1 + (maxRedraws + 1) * 0 ∧
      ∃ exchange ∈ source.exchanges [.below Text.decimalLimit], exchange.isWithheld ∧ exchange.drawn = 1 := by
  intro source last
  have writable : ∀ query ∈ smallQueries, query.isWritable := by decide +kernel
  have decisions : last.decisions.toList = [.bounded 10 6 0 2092652556, .coin 100 true 1563238973,
      .bounded 100 51 1 808449751, .coin 0 false 981935543] := by decide +kernel
  have plain : (source.exchanges smallQueries).countP Exchange.isNext = 1 := by decide +kernel
  have answered : (source.exchanges smallQueries).countP Exchange.isUnansweredFilter = 0 := by decide +kernel
  obtain ⟨lines, -, drawn, -⟩ := queries_are_recorded 17 smallQueries
  obtain ⟨-, -, -, -, withheld⟩ := queries_are_recorded 17 [.below Text.decimalLimit]
  let lengthy : Exchange :=
    ⟨.below Text.decimalLimit, ((Query.below Text.decimalLimit).answer source).1, source,
      ((Query.below Text.decimalLimit).answer source).2⟩
  have isWithheld : lengthy.isWithheld := by decide +kernel
  refine ⟨writable, ?_, ?_, lengthy, List.mem_cons_self, isWithheld, ?_⟩
  · rw [lines, decisions]
    decide +kernel
  · rw [drawn writable, decisions, plain, answered]
    rfl
  · obtain ⟨decision, answer, makes, -, drawn, -⟩ := withheld lengthy List.mem_cons_self isWithheld
    cases makes
    exact drawn

/-- The value that is drawn below the least bound with too many digits appears nowhere in the record. -/
theorem withheld_draw_unaccounted :
    ¬ ∀ (seed : Int) (queries : List Query),
      let source := Source.ofSeed seed true
      let exchanges := source.exchanges queries
      let last := source.afterAll queries
      last.drawn = (last.decisions.toList.map fun decision => 1 + decision.tries).sum +
        exchanges.countP Exchange.isNext + (maxRedraws + 1) * exchanges.countP Exchange.isUnansweredFilter := by
  intro accounted
  have claimed := accounted 0 [.below Text.decimalLimit]
  revert claimed
  decide +kernel

end RandomC.Random
