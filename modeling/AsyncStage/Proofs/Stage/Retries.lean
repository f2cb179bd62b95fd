import AsyncStage.Proofs.Stage.Awaited
import AsyncStage.Proofs.Stage.InputEnd

/-!
# Retries

The attempts of a record are numbered from one, and one is answered before the next one starts.
What starts an attempt after the first one is a turn at which the backoff is over, and what allows
it is the answer of the attempt before: the strategy wants to retry it, it came early enough, and
it came before the end of the input. A turn of a stage that goes on also leaves out no such
attempt. So a built-in strategy uses its budget: as long as its predicate accepts the outcomes, the
budget lasts and there is time, one attempt follows the other, and then no more do.
-/

namespace AsyncStage

/-- A built-in strategy retries what its predicate accepts, as long as its budget lasts. -/
inductive RetryStrategy.BuiltIn (budget : RetryBudget) (predicate : RetryPredicate) : RetryStrategy → Prop where
  | fixedDelay (backoff : Duration) : BuiltIn budget predicate (FixedDelay.strategy ⟨budget, backoff, predicate⟩)
  | exponentialBackoff (initial longest : Duration) (multiplier : Float) :
      BuiltIn budget predicate (ExponentialBackoff.strategy ⟨budget, initial, longest, multiplier, predicate⟩)

theorem RetryStrategy.BuiltIn.shouldRetry_eq {budget : RetryBudget} {predicate : RetryPredicate}
    {strategy : RetryStrategy} (b : BuiltIn budget predicate strategy) (attempt : Nat) (outcome : Outcome) :
    strategy.shouldRetry attempt outcome = (budget.allows attempt && predicate.accepts outcome) := by
  cases b <;> rfl

/-- The budget allows another attempt after this one. -/
def RetryBudget.Covers (budget : RetryBudget) (attempt : Nat) : Prop :=
  ∀ most, budget = some most → attempt ≤ most.toNat

theorem RetryBudget.allows_iff {budget : RetryBudget} {attempt : Nat} :
    budget.allows attempt = true ↔ RetryBudget.Covers budget attempt := by
  cases budget <;> simp [RetryBudget.allows, RetryBudget.Covers]

/-- An attempt was answered with an outcome that the predicate accepts, so early that there is time for
its backoff, and this is over at `t`. -/
structure Invites (setup : Setup) (predicate : RetryPredicate) (id : EntryId) (first : Instant) (attempt : Nat)
    (answered : Instant) (outcome : Outcome) (t : Instant) (notes : List Note) : Prop where
  taken : ⟨answered, .applied ⟨id, attempt, outcome⟩⟩ ∈ notes
  accepted : predicate.accepts outcome = true
  time : ∃ span, setup.timeout = some span ∧
    answered.since first + (setup.retry.backoffBefore attempt).span < span.span
  due : answered.after (setup.retry.backoffBefore attempt).span ≤ t

/-- With a built-in strategy nothing else is needed for another attempt than that the budget lasts. -/
theorem RetryStrategy.BuiltIn.follows {setup : Setup} {budget : RetryBudget} {predicate : RetryPredicate}
    (b : BuiltIn budget predicate setup.retry) {id : EntryId} {first answered t : Instant} {attempt : Nat}
    {outcome : Outcome} {notes : List Note} (covers : RetryBudget.Covers budget attempt)
    (invites : Invites setup predicate id first attempt answered outcome t notes) :
    Follows setup id first attempt answered outcome t notes where
  taken := invites.taken
  wanted := by rw [b.shouldRetry_eq, RetryBudget.allows_iff.2 covers, invites.accepted, Bool.and_self]
  time := invites.time
  due := invites.due

namespace Stage

variable {s u : Stage} {actions : List Action} {id : EntryId} {r : Record} {first : Instant}

/-- The turn that begins at `u` in this run starts the attempt after this one. -/
structure StartsAfter (s : Stage) (actions : List Action) (u : Stage) (id : EntryId) (first : Instant)
    (attempt : Nat) (value : String) (box : MailboxId) (answered : Instant) (outcome : Outcome) : Prop where
  turn : TurnNotes s u (s.run actions) ⟨u.now, .invoked ⟨id, attempt + 1, value, box⟩⟩
  follows : Follows s.setup id first attempt answered outcome u.now u.turn.told
  /-- The answer was taken up before the end of the input was asked for. -/
  in_time : ∀ before i after, actions = before ++ .finish i :: after →
    ⟨answered, .applied ⟨id, attempt, outcome⟩⟩ ∈ (s.run before).told

/-- On the way from `s` to `f` a turn, after which the stage goes on, began at `u`, and at this turn an attempt
invited another one. -/
structure TurnInvites (s u f : Stage) (predicate : RetryPredicate) (id : EntryId) (first : Instant) (attempt : Nat)
    (answered : Instant) (outcome : Outcome) : Prop where
  before : Moves s u
  after : Moves u.turn f
  on : u.turn.GoesOn
  invites : Invites s.setup predicate id first attempt answered outcome u.now u.turn.told
  /-- The backoff is not put off to the last instant. -/
  early : s.retryAfter answered attempt < .latest

/-- Up to attempt `n`, whatever attempt of the record is started invites another one. -/
def Sustains (s : Stage) (actions : List Action) (id : EntryId) (r : Record) (first : Instant)
    (predicate : RetryPredicate) (n : Nat) : Prop :=
  ∀ attempt, 0 < attempt → attempt ≤ n →
    ∀ t, ⟨t, .invoked (s.setup.call id attempt r.value)⟩ ∈ (s.run actions).told →
      ∃ u answered outcome, TurnInvites s u (s.run actions) predicate id first attempt answered outcome

/-- This attempt of the record, if it is started, is answered with an outcome that the predicate rejects. -/
def Rejects (s : Stage) (actions : List Action) (id : EntryId) (r : Record) (predicate : RetryPredicate)
    (attempt : Nat) : Prop :=
  ∀ t, ⟨t, .invoked (s.setup.call id attempt r.value)⟩ ∈ (s.run actions).told →
    ∃ answered outcome, ⟨answered, .applied ⟨id, attempt, outcome⟩⟩ ∈ (s.run actions).told ∧
      predicate.accepts outcome = false

/-- What a run does about the attempts of a record. -/
structure Discipline (s : Stage) (actions : List Action) (id : EntryId) (r : Record) (first : Instant) : Prop where
  began : ⟨first, .invoked (s.setup.call id 1 r.value)⟩ ∈ (s.run actions).told
  /-- At any time the attempts are numbered without gaps, and at most one is not answered. -/
  counted : Counted s.setup id r ((s.run actions).toldOf id)
  follows : ∀ t attempt value box, 0 < attempt →
    ⟨t, .invoked ⟨id, attempt + 1, value, box⟩⟩ ∈ (s.run actions).told →
    ∃ u answered outcome, u.now = t ∧ StartsAfter s actions u id first attempt value box answered outcome
  budget : ∀ most predicate, RetryStrategy.BuiltIn (some most) predicate s.setup.retry →
    ((s.run actions).invoked.filter fun call => call.entry = id).length ≤ most.toNat + 1
  /-- An outcome that the predicate rejects is that of the last attempt. -/
  rejected : ∀ limit predicate, RetryStrategy.BuiltIn limit predicate s.setup.retry → ∀ t n outcome,
    ⟨t, .applied ⟨id, n + 1, outcome⟩⟩ ∈ (s.run actions).told → predicate.accepts outcome = false →
    (s.run actions).invoked.filter (fun call => call.entry = id) = callsOf s.setup id r (n + 1)
  /-- If the conditions keep holding until an outcome is rejected, or the budget is used up, the attempts
  are as many as were asked for. -/
  sustained : ∀ most predicate, RetryStrategy.BuiltIn (some most) predicate s.setup.retry → ∀ n ≤ most.toNat,
    s.Sustains actions id r first predicate n → (s.Rejects actions id r predicate (n + 1) ∨ n = most.toNat) →
    (s.run actions).invoked.filter (fun call => call.entry = id) = callsOf s.setup id r (n + 1)

/-- The turn that begins at `u` starts every attempt that is allowed and due, if the stage goes on. -/
def StartsDue (u : Stage) : Prop :=
  ∀ id r first attempt answered outcome, (id, Element.record r) ∈ u.turn.admitted →
    ⟨first, .invoked (u.setup.call id 1 r.value)⟩ ∈ u.turn.told →
    Follows u.setup id first attempt answered outcome u.now u.turn.told →
    u.retryAfter answered attempt < .latest → u.turn.GoesOn →
    ∃ t, ⟨t, .invoked (u.setup.call id (attempt + 1) r.value)⟩ ∈ u.turn.told

/-- With a built-in strategy the turn that begins at `u` starts the attempt after every one that invites it
within the budget, if the stage goes on. -/
def StartsInvited (u : Stage) : Prop :=
  ∀ budget predicate, RetryStrategy.BuiltIn budget predicate u.setup.retry →
    ∀ id r first attempt answered outcome, (id, Element.record r) ∈ u.turn.admitted →
      ⟨first, .invoked (u.setup.call id 1 r.value)⟩ ∈ u.turn.told → RetryBudget.Covers budget attempt →
      Invites u.setup predicate id first attempt answered outcome u.now u.turn.told →
      u.retryAfter answered attempt < .latest → u.turn.GoesOn →
      ∃ t, ⟨t, .invoked (u.setup.call id (attempt + 1) r.value)⟩ ∈ u.turn.told

theorem run_finish (s : Stage) (before after : List Action) (i : Interference) :
    s.run (before ++ .finish i :: after) = (((s.run before).perform (.finish i)).1).run after := by
  simp [run]

theorem isRetry_invoked (id : EntryId) {attempt : Nat} (later : 0 < attempt) (value : String) (box : MailboxId) :
    (Event.invoked ⟨id, attempt + 1, value, box⟩).isRetry = true := by
  simpa [Event.isRetry] using later

section Built

variable {b : Builder} {now : Instant}

/-- What was told of an attempt after the first one was told before the end of the input. -/
theorem told_of_finish (built : b.build now = .ok s) {before after : List Action} {i : Interference}
    {n : Note} (again : n.event.isRetry = true) (told : n ∈ (s.run (before ++ .finish i :: after)).told) :
    n ∈ (s.run before).told := by
  have sound := (Kept.run built before).sound
  rw [run_finish] at told
  exact finish_noRetry sound i (run_steps (sound.steps (perform_steps sound _)) after) n told again

/-- **An attempt follows an answer.** -/
theorem startsAfter (built : b.build now = .ok s) (admitted : (id, Element.record r) ∈ (s.run actions).admitted)
    (began : ⟨first, .invoked (s.setup.call id 1 r.value)⟩ ∈ (s.run actions).told) {t : Instant} {attempt : Nat}
    {value : String} {box : MailboxId} (later : 0 < attempt)
    (called : ⟨t, .invoked ⟨id, attempt + 1, value, box⟩⟩ ∈ (s.run actions).told) :
    ∃ u answered outcome, u.now = t ∧ StartsAfter s actions u id first attempt value box answered outcome := by
  have kept := Kept.build built
  have final := Kept.run built actions
  have again := isRetry_invoked id later value box
  have new : s.told = [] := by
    obtain ⟨retry, rfl⟩ := build_eq built
    rfl
  rw [← (fixed_of_steps (run_steps kept.sound actions)).setup] at began
  obtain ⟨u, turn⟩ := Moves.timed (run_moves kept.sound actions) (n := ⟨t, .invoked ⟨id, attempt + 1, value, box⟩⟩)
    (by rw [Event.isTimed, again, Bool.true_or]) called (by simp [new])
  obtain rfl : t = u.now := turn.time
  have keptU := kept.steps (Moves.steps turn.before)
  have ended := keptU.steps (turn_steps keptU.sound)
  have onward := Moves.steps turn.after
  -- The turn ends with a story of the record in which the attempt follows an answer.
  obtain ⟨-, _, course⟩ := ended.course final onward admitted began (mem_toldOf turn.told rfl)
  obtain ⟨answered, outcome, follows⟩ := course.follows _ _ value box later (mem_toldOf turn.told rfl)
  have onwards := (told_extends onward).subset
  rw [(fixed_of_steps ((Moves.steps turn.before).trans (turn_steps keptU.sound))).setup] at follows
  refine ⟨u, answered, outcome, rfl, turn, follows.mono fun n hn => told_of_toldOf hn, ?_⟩
  rintro before i after rfl
  -- The attempt was started before the end of the input, so its answer was taken up before that.
  have early := told_of_finish built again called
  have keptB := Kept.run built before
  have rest : Steps (s.run before) (s.run (before ++ .finish i :: after)) := by
    rw [run_finish]
    have finish := perform_steps keptB.sound (.finish i)
    exact finish.trans (run_steps (keptB.sound.steps finish) after)
  obtain ⟨-, _, courseB⟩ := keptB.course final rest admitted began (mem_toldOf early rfl)
  obtain ⟨answeredB, outcomeB, followsB⟩ := courseB.follows _ _ value box later (mem_toldOf early rfl)
  have takenB := told_of_toldOf followsB.taken
  obtain ⟨_, _, all⟩ := (final.told.recorded.stories id r admitted).course
  obtain ⟨rfl, rfl⟩ := all.taken_once (mem_toldOf (onwards (told_of_toldOf follows.taken)) rfl)
    (mem_toldOf ((told_extends rest).subset takenB) rfl)
  exact takenB

/-- **One attempt follows the other** as long as each invites the next and the budget lasts. -/
theorem reaches (built : b.build now = .ok s) (admitted : (id, Element.record r) ∈ (s.run actions).admitted)
    (began : ⟨first, .invoked (s.setup.call id 1 r.value)⟩ ∈ (s.run actions).told) {budget : RetryBudget}
    {predicate : RetryPredicate} (strategy : RetryStrategy.BuiltIn budget predicate s.setup.retry) {n : Nat}
    (covers : RetryBudget.Covers budget n) (sustains : s.Sustains actions id r first predicate n) :
    ∀ i ≤ n, ∃ t, ⟨t, .invoked (s.setup.call id (i + 1) r.value)⟩ ∈ (s.run actions).told := by
  have kept := Kept.build built
  have final := Kept.run built actions
  intro i within
  induction i with
  | zero => exact ⟨first, began⟩
  | succ i ih =>
    obtain ⟨t, called⟩ := ih (Nat.le_of_succ_le within)
    obtain ⟨u, answered, outcome, turn⟩ := sustains (i + 1) (Nat.succ_pos i) within t called
    have before := Moves.steps turn.before
    have keptU := kept.steps before
    have steps := turn_steps keptU.sound
    have onward := Moves.steps turn.after
    have setup : u.setup = s.setup := (fixed_of_steps before).setup
    have setup' : u.turn.setup = u.setup := (fixed_of_steps steps).setup
    -- The record is known at this turn, and its first attempt began at the same time.
    have began' := began
    rw [← (fixed_of_steps (before.trans (steps.trans onward))).setup] at began'
    obtain ⟨known, _, course⟩ := (keptU.steps steps).course final onward admitted began'
      (mem_toldOf turn.invites.taken rfl)
    have early := told_of_toldOf course.began
    rw [setup'] at early
    have follows := strategy.follows (fun most same => Nat.le_trans within (covers most same)) turn.invites
    rw [← setup] at follows
    have due : u.retryAfter answered (i + 1) < .latest := by
      rw [retryAfter, setup]
      exact turn.early
    obtain ⟨t', next⟩ := keptU.turn_starts (prompt_of_steps built (before.trans steps)) turn.on known early follows due
    rw [setup] at next
    exact ⟨t', (told_extends onward).subset next⟩

theorem discipline (built : b.build now = .ok s) (admitted : (id, Element.record r) ∈ (s.run actions).admitted) :
    ∃ first, s.Discipline actions id r first := by
  have final := Kept.run built actions
  have setup := (fixed_of_steps (run_steps (build_sound built) actions)).setup
  obtain ⟨attempts, first, course⟩ := (final.told.recorded.stories id r admitted).course
  have began := told_of_toldOf course.began
  rw [setup] at course began
  have budget : ∀ most predicate, RetryStrategy.BuiltIn (some most) predicate s.setup.retry →
      attempts ≤ most.toNat + 1 := by
    intro most predicate strategy
    refine Nat.le_of_not_lt fun more => ?_
    obtain ⟨outcome, wanted⟩ := course.retried (Nat.succ_pos most.toNat) more
    rw [strategy.shouldRetry_eq, Bool.and_eq_true, RetryBudget.allows_iff] at wanted
    exact Nat.not_succ_le_self _ (wanted.1 most rfl)
  have rejected : ∀ limit predicate, RetryStrategy.BuiltIn limit predicate s.setup.retry → ∀ t n outcome,
      ⟨t, .applied ⟨id, n, outcome⟩⟩ ∈ (s.run actions).told → predicate.accepts outcome = false → attempts = n := by
    intro limit predicate strategy t n outcome taken rejected
    exact course.last (mem_toldOf taken rfl) (by rw [strategy.shouldRetry_eq, rejected, Bool.and_false])
  refine ⟨first, began, course.counted, fun t attempt value box later => startsAfter built admitted began later,
    ?_, ?_, ?_⟩
  · intro most predicate strategy
    rw [invoked_filter, course.calls, length_callsOf]
    exact budget most predicate strategy
  · intro limit predicate strategy t n outcome taken unwanted
    rw [invoked_filter, course.calls, rejected limit predicate strategy t _ outcome taken unwanted]
  · intro most predicate strategy n within sustains ends
    have covers : RetryBudget.Covers (some most) n := by
      rintro _ ⟨⟩
      exact within
    obtain ⟨t, called⟩ := reaches built admitted began strategy covers sustains n (Nat.le_refl n)
    have listed : s.setup.call id (n + 1) r.value ∈ invocations ((s.run actions).toldOf id) :=
      List.mem_filterMap.2 ⟨_, mem_toldOf called rfl, rfl⟩
    rw [course.calls, Course.mem_calls] at listed
    rw [invoked_filter, course.calls]
    rcases ends with rejects | spent
    · obtain ⟨answered, outcome, taken, unwanted⟩ := rejects t called
      rw [rejected _ predicate strategy answered _ outcome taken unwanted]
    · have most' := budget most predicate strategy
      rw [Nat.le_antisymm (spent ▸ most') listed]

end Built

/-- A stage that gives each record a second, in which a failed attempt is retried twice, after a tenth
of a second each time. -/
def patient : Builder where
  config := { timeout := some (.ofMillis 1000), retry := .fixedDelay (some 2) (.ofMillis 100) {} }
  fallback := some fun _ _ => []
  function _ := []

/-- The strategy of this stage. -/
def tenths : RetryStrategy := FixedDelay.strategy ⟨some 2, .ofMillis 100, .error⟩

/-- The first attempt of a record fails, and the backoff has passed. -/
def firstBad : List Action :=
  [.offer ⟨"a", none⟩ [], .undergo (.completes ⟨0, 1, .failure ⟨"down"⟩⟩), .poll,
    .undergo (.clockReads { nanos := 100000000 })]

/-- The second attempt gives values. -/
def secondGood : List Action := firstBad ++ [.poll, .undergo (.completes ⟨0, 2, .values ["b"]⟩), .poll]

/-- This stage as it is built. -/
def patientStart : Stage := start patient tenths .epoch

theorem goesOn_firstBad : (patientStart.run firstBad).turn.GoesOn := ⟨by decide +kernel, by decide +kernel⟩

theorem invites_firstBad : Invites patientStart.setup .error 0 .epoch 1 .epoch (.failure ⟨"down"⟩)
    (patientStart.run firstBad).now (patientStart.run firstBad).turn.told where
  taken := by decide +kernel
  accepted := rfl
  time := ⟨.ofMillis 1000, by decide +kernel, by decide +kernel⟩
  due := by decide +kernel

theorem sustains_secondGood : patientStart.Sustains secondGood 0 ⟨"a", none⟩ .epoch .error 1 := by
  have built : patient.build .epoch = .ok patientStart := rfl
  have sound := build_sound built
  have middle := sound.steps (run_steps sound firstBad)
  have rest : patientStart.run secondGood =
      (patientStart.run firstBad).turn.run [.undergo (.completes ⟨0, 2, .values ["b"]⟩), .poll] := by
    rw [← poll_fst (by decide +kernel)]
    exact List.foldl_append
  intro attempt pos within t called
  obtain rfl : attempt = 1 := Nat.le_antisymm within pos
  refine ⟨_, _, _, run_moves sound firstBad, ?_, goesOn_firstBad, invites_firstBad, by decide +kernel⟩
  rw [rest]
  exact run_moves (middle.steps (turn_steps middle)) _

theorem rejects_secondGood : patientStart.Rejects secondGood 0 ⟨"a", none⟩ .error 2 := fun _ _ =>
  ⟨{ nanos := 100000000 }, .values ["b"], by decide +kernel, rfl⟩

/-- **Retries keep discipline.** Whatever is done with a stage, the attempts of each record are
counted without gaps, one is answered before the next one starts, each but the first one is started
by a turn after the backoff, and only if the answer before it allows it. A turn of a stage that goes
on starts all attempts that are due. With a built-in strategy these are the attempts within the
budget whose predecessor had an outcome that the predicate accepts, so the budget is kept, and it is
used: the attempts of a record are exactly those up to the first outcome that is rejected. -/
theorem retry_discipline {b : Builder} {now : Instant} (built : b.build now = .ok s) :
    (∀ actions id r, (id, Element.record r) ∈ (s.run actions).admitted → ∃ first, s.Discipline actions id r first) ∧
    ∀ u, Steps s u → u.StartsDue ∧ u.StartsInvited := by
  refine ⟨fun actions id r admitted => discipline built admitted, fun u steps => ?_⟩
  have due : u.StartsDue := by
    intro id r first attempt answered outcome admitted began follows early on
    have kept := (Kept.build built).steps steps
    exact kept.turn_starts (prompt_of_steps built (steps.trans (turn_steps kept.sound))) on admitted began follows early
  refine ⟨due, ?_⟩
  intro budget predicate strategy id r first attempt answered outcome admitted began covers invites early on
  exact due id r first attempt answered outcome admitted began (strategy.follows covers invites) early on

/-- The next turn starts the second attempt. As the first one failed and the second one does not, there are exactly
two. -/
theorem retry_discipline_secondGood : patient.build .epoch = .ok patientStart ∧
    (∃ first, patientStart.Discipline secondGood 0 ⟨"a", none⟩ first) ∧
    (patientStart.Sustains secondGood 0 ⟨"a", none⟩ .epoch .error 1 ∧
      patientStart.Rejects secondGood 0 ⟨"a", none⟩ .error 2) ∧
    (patientStart.run secondGood).invoked.filter (fun call => call.entry = 0) =
      callsOf patientStart.setup 0 ⟨"a", none⟩ 2 ∧
    ∃ t, ⟨t, .invoked (patientStart.setup.call 0 2 "a")⟩ ∈ (patientStart.run firstBad).turn.told := by
  have built : patient.build .epoch = .ok patientStart := rfl
  obtain ⟨run, due⟩ := retry_discipline built
  obtain ⟨first, discipline⟩ := run secondGood 0 ⟨"a", none⟩ (by decide +kernel)
  have began : ∀ n ∈ (patientStart.run secondGood).told, n.event = .invoked (patientStart.setup.call 0 1 "a") →
      n.time = .epoch := by decide +kernel
  obtain rfl : first = .epoch := began _ discipline.began rfl
  have strategy : RetryStrategy.BuiltIn (some 2) .error tenths := .fixedDelay _
  have both := discipline.sustained 2 .error strategy 1 (by decide) sustains_secondGood (.inl rejects_secondGood)
  have steps := run_steps (build_sound built) firstBad
  have setup : (patientStart.run firstBad).setup = patientStart.setup := (fixed_of_steps steps).setup
  have next := (due _ steps).2 (some 2) .error (setup ▸ strategy) 0 ⟨"a", none⟩ .epoch 1 .epoch (.failure ⟨"down"⟩)
    (by decide +kernel) (by decide +kernel) (by rintro _ ⟨⟩; decide) (setup ▸ invites_firstBad) (by decide +kernel)
    goesOn_firstBad
  rw [setup] at next
  exact ⟨built, ⟨.epoch, discipline⟩, ⟨sustains_secondGood, rejects_secondGood⟩, both, next⟩

end Stage

end AsyncStage
