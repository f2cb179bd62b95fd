import AsyncStage.Proofs.Stage.LateRetry
import AsyncStage.Proofs.Stage.Quiescence
import AsyncStage.Proofs.Stage.Signals
import AsyncStage.Proofs.Stage.Timers
import AsyncStage.Proofs.Timer.Commute

/-!
# A turn ends

A turn has two loops. One takes up mail until there is none, the other fires timers until none is
due, and both look again after each round at what their own rounds may have changed. A round of the
first loop neither calls the function nor posts anything, and a round of the second one sets no
timer, so the mail at the beginning of a turn and the timers after its first loop are all that the
rounds can go through. A function that answers at once, and fails every time, with retries that are
due at once, starts one attempt in each turn: its answer is mail of the next one.
-/

namespace AsyncStage.Stage

variable {s s' t : Stage}

/-! ## Loops -/

/-- Going on as long as there is a next stage takes so many rounds and leads to this stage. -/
inductive Repeats (next? : Stage → Option Stage) : Stage → Nat → Stage → Prop where
  | stops {s : Stage} (none : next? s = none) : Repeats next? s 0 s
  | again {s s' t : Stage} {rounds : Nat} (next : next? s = some s') (more : Repeats next? s' rounds t) :
      Repeats next? s (rounds + 1) t

/-- A round of reading: the oldest completion is taken up, unless the stage has ended. -/
def readNext? (s : Stage) : Option Stage :=
  match s.isRunning, s.mailbox with
  | true, c :: rest => some ({ s with mailbox := rest }.apply c)
  | _, _ => none

/-- A round of firing: the first timer fires if it is due, unless the stage has ended. -/
def fireNext? (s : Stage) : Option Stage :=
  if s.isRunning then
    (s.timers.popDue s.now).map fun (target, timers) => { s with timers := timers }.fireTimer target
  else
    none

/-! ## Reading -/

theorem Takes.invoked {c : Completion} {rest : List Completion} (takes : Takes s s' c rest) :
    s'.invoked = s.invoked := by
  cases takes.applies with
  | ignored same =>
    rw [same]
    rfl
  | scheduled e here names accepted wanted works =>
    exact (invoked_noted works.told).trans (List.append_nil _)
  | resolved e here names accepted unwanted resolves =>
    exact (resolves.notes (P := fun v => v.invocation? = none) (by simp [Event.invocation?]) fun _ _ => rfl).invoked_eq

theorem Reads.invoked (reads : Reads s s') : s'.invoked = s.invoked :=
  Reads.between (fun s t => t.invoked = s.invoked) (fun _ => rfl) (fun first later => later.trans first) reads
    Takes.invoked

/-- Mail that is read after the end of a stage is for none of its entries. -/
theorem foldl_apply_of_ended (h : s.Sound) (stopped : s.isRunning = false) (mail : List Completion) :
    mail.foldl apply s = s := by
  have passed : ∀ c, s.apply c = s := fun c => by rw [Stage.apply, find?_of_ended h stopped]
  induction mail with
  | nil => rfl
  | cons c mail ih => rw [List.foldl_cons, passed, ih]

/-- The first loop, with this mail in the mailbox. -/
theorem withMail_reading (s : Stage) (mail : List Completion) (h : (s.withMail mail).Sound) :
    ∃ rounds t, Repeats readNext? (s.withMail mail) rounds t ∧ rounds ≤ mail.length ∧ Reads (s.withMail mail) t ∧
      mail.foldl apply (s.withMail []) = t.withMail [] ∧ (t.isRunning = true → t.mailbox = []) := by
  induction mail generalizing s with
  | nil =>
    have last : readNext? (s.withMail []) = none := by
      unfold readNext?
      cases (s.withMail []).isRunning <;> rfl
    exact ⟨0, s.withMail [], .stops last, Nat.le_refl 0, .refl, rfl, fun _ => rfl⟩
  | cons c mail ih =>
    cases running : s.isRunning with
    | false =>
      have last : readNext? (s.withMail (c :: mail)) = none := by
        rw [readNext?, show (s.withMail (c :: mail)).isRunning = false from running]
      have emptied : (s.withMail []).Sound := h.quiet (quiet_mailbox _ [])
      refine ⟨0, s.withMail (c :: mail), .stops last, Nat.zero_le _, .refl,
        foldl_apply_of_ended emptied running _, fun runs => ?_⟩
      rw [show (s.withMail (c :: mail)).isRunning = false from running] at runs
      cases runs
    | true =>
      have next : readNext? (s.withMail (c :: mail)) = some ((s.apply c).withMail mail) := by
        rw [readNext?, show (s.withMail (c :: mail)).isRunning = true from running, ← apply_withMail]
        rfl
      have takes : Takes (s.withMail (c :: mail)) ((s.apply c).withMail mail) c mail :=
        ⟨rfl, apply_withMail s mail c ▸ apply_applies (s := s.withMail mail) h.queue h.timers c⟩
      obtain ⟨rounds, t, repeats, few, reads, same, empty⟩ := ih (s.apply c) (h.step (.took takes))
      refine ⟨rounds + 1, t, .again next repeats, Nat.succ_le_succ few, .head ⟨c, mail, takes⟩ reads, ?_, empty⟩
      rw [List.foldl_cons, apply_withMail, same]

/-! ## Firing -/

/-- A timer that fires starts one attempt at most, of its own entry, and what that posts is left in the
mailbox. -/
theorem Pops.starts {key : TimerKey} {target : TimerTarget} {rest : TimerQueue} (p : Pops s s' key target rest) :
    ∃ calls : List Invocation, s'.invoked = s.invoked ++ calls ∧
      s'.mailbox = s.mailbox ++ calls.flatMap s.setup.function ∧
      (calls.map fun call => TimerTarget.retry call.entry).Sublist [target] := by
  cases p.fires with
  | retried e here at' set works =>
    refine ⟨[s.nextCall e], ?_, ?_, .refl _⟩
    · rw [invoked_noted works.told, invocations_calls]
    · have posts : (s.calls (s.nextCall e)).filterMap Event.posted? = s.setup.function (s.nextCall e) := by
        rw [Stage.calls, List.filterMap_cons_none rfl, List.filterMap_map]
        exact List.filterMap_some
      rw [works.mailbox, posts, List.flatMap_singleton]
  | expired e here opened started timeout deadline resolves =>
    refine ⟨[], ?_, ?_, List.nil_sublist _⟩
    · have silent : Notes (fun v => v.invocation? = none) s s' :=
        resolves.notes (forall_expiry (fun _ _ => rfl) rfl) fun _ _ => rfl
      rw [silent.invoked_eq, List.append_nil]
    · rw [resolves.adds.mailbox, filterMap_expiry fun _ _ => rfl]
      rfl

theorem nextId_cancelTimer (s : Stage) (timer : Option TimerId) :
    (s.cancelTimer timer).timers.nextId = s.timers.nextId := by
  cases timer with
  | none => rfl
  | some id => exact TimerQueue.nextId_cancel s.timers id

theorem nextId_resolve (s : Stage) (id : EntryId) (result : Resolution) :
    (s.resolve id result).timers.nextId = s.timers.nextId := by
  have cancelled : ∀ first later, ((s.cancelTimer first).cancelTimer later).timers.nextId = s.timers.nextId :=
    fun first later => (nextId_cancelTimer _ later).trans (nextId_cancelTimer s first)
  unfold resolve
  split
  · rfl
  · cases result with
    | values values => exact cancelled _ _
    | error error =>
      dsimp only
      split
      · exact (congrArg TimerQueue.nextId timers_tellListener).trans (cancelled _ _)
      · exact cancelled _ _

theorem nextId_expire (s : Stage) (id : EntryId) : (s.expire id).timers.nextId = s.timers.nextId := by
  unfold expire
  split
  · rfl
  · dsimp only
    split
    · rfl
    · exact (nextId_resolve _ _ _).trans (congrArg TimerQueue.nextId timers_cancelAttempt)

/-- Firing sets no timer, not even one that is gone again. -/
theorem Sound.nextId_fireTimer (h : s.Sound) {target : TimerTarget} {rest : TimerQueue}
    (popped : s.timers.popDue s.now = some (target, rest)) :
    ({ s with timers := rest }.fireTimer target).timers.nextId = s.timers.nextId := by
  rw [← TimerQueue.nextId_of_popDue h.timers popped]
  cases target with
  | deadline id => exact nextId_expire { s with timers := rest } id
  | retry id =>
    obtain ⟨key, pops⟩ := h.fires popped
    cases pops.fires with
    | retried e here at' set works timers => exact congrArg TimerQueue.nextId timers

/-- What the timers that fire between `s` and `t` bring about: these calls. -/
structure Fired (s t : Stage) (calls : List Invocation) : Prop where
  nextId : t.timers.nextId = s.timers.nextId
  timers : t.timers.toList.Sublist s.timers.toList
  invoked : t.invoked = s.invoked ++ calls
  mailbox : t.mailbox = s.mailbox ++ calls.flatMap s.setup.function
  /-- Each of them is the retry of a timer that was pending. -/
  planned : (calls.map fun call => TimerTarget.retry call.entry).Sublist (s.timers.toList.map (·.2))

theorem Fired.refl (s : Stage) : Fired s s [] where
  nextId := rfl
  timers := .refl _
  invoked := (List.append_nil _).symm
  mailbox := (List.append_nil _).symm
  planned := List.nil_sublist _

/-- One timer fires before the others. -/
theorem Fired.head (h : s.Sound) {calls : List Invocation} {target : TimerTarget} {rest : TimerQueue}
    (popped : s.timers.popDue s.now = some (target, rest))
    (later : Fired ({ s with timers := rest }.fireTimer target) t calls) : ∃ first, Fired s t (first ++ calls) := by
  obtain ⟨key, pops⟩ := h.fires popped
  obtain ⟨first, invoked, mailbox, planned⟩ := pops.starts
  have setup := (fixed_of_steps (.single (.fired pops))).setup
  have left := pops.timers_sublist h
  refine ⟨first, ⟨later.nextId.trans (h.nextId_fireTimer popped), ?_, ?_, ?_, ?_⟩⟩
  · rw [pops.first]
    exact (later.timers.trans left).cons _
  · rw [later.invoked, invoked, List.append_assoc]
  · rw [later.mailbox, mailbox, setup, List.append_assoc, List.flatMap_append]
  · rw [List.map_append, pops.first, List.map_cons, ← List.singleton_append]
    exact planned.append (later.planned.trans (left.map _))

theorem Sound.fireNext?_eq (h : s.Sound) : fireNext? s =
    (s.timers.popDue s.now).map fun (target, timers) => { s with timers := timers }.fireTimer target := by
  cases running : s.isRunning with
  | true => rw [fireNext?, if_pos running]
  | false =>
    have none : s.timers.popDue s.now = none := by
      rw [TimerQueue.popDue_eq_none_iff, h.timers_of_empty (h.ended running)]
      exact fun p hp => nomatch hp
    rw [fireNext?, if_neg (ne_true_of_eq_false running), none, Option.map_none]

/-- **The second loop** ends after as many rounds as there are timers, at the latest. -/
theorem fireUpTo_firing (n : Nat) (h : s.Sound) (enough : s.timers.size ≤ n) :
    ∃ rounds calls, Repeats fireNext? s rounds (fireUpTo n s) ∧ rounds ≤ s.timers.size ∧
      Fired s (fireUpTo n s) calls := by
  induction n generalizing s with
  | zero =>
    have none : s.timers.popDue s.now = none := by
      have empty : s.timers.toList = [] := List.eq_nil_of_length_eq_zero (Nat.le_zero.1 enough)
      rw [TimerQueue.popDue_eq_none_iff, empty]
      exact fun p hp => nomatch hp
    exact ⟨0, [], .stops (by rw [h.fireNext?_eq, none, Option.map_none]), Nat.zero_le _, .refl s⟩
  | succ n ih =>
    have next := h.fireNext?_eq
    unfold fireUpTo
    cases popped : s.timers.popDue s.now with
    | none =>
      rw [popped, Option.map_none] at next
      exact ⟨0, [], .stops next, Nat.zero_le _, .refl s⟩
    | some p =>
      obtain ⟨target, rest⟩ := p
      rw [popped, Option.map_some] at next
      obtain ⟨key, pops⟩ := h.fires popped
      have fewer : ({ s with timers := rest }.fireTimer target).timers.size < s.timers.size := by
        have first : s.timers.size = rest.toList.length + 1 := congrArg List.length pops.first
        exact first ▸ Nat.lt_succ_of_le (pops.timers_sublist h).length_le
      obtain ⟨rounds, calls, repeats, few, fired⟩ := ih (h.step (.fired pops)) (by omega)
      obtain ⟨first, fired'⟩ := fired.head h popped
      exact ⟨rounds + 1, first ++ calls, .again next repeats, by omega, fired'⟩

/-! ## The turn -/

/-- A turn from `s`, its mail being taken up by `s₁` and its timers having fired by `s₂`. -/
structure TurnEnds (s s₁ s₂ : Stage) (read fired : Nat) (calls : List Invocation) : Prop where
  reading : Repeats readNext? s read s₁
  /-- Each completion is taken up once, and nothing is called or posted meanwhile. -/
  read_le : read ≤ s.mailbox.length
  uncalled : s₁.invoked = s.invoked
  unposted : s₁.posted = s.posted
  firing : Repeats fireNext? s₁ fired s₂
  /-- Each timer fires once, and none is set meanwhile. -/
  fired_le : fired ≤ s₁.timers.size
  unset : s₂.timers.nextId = s₁.timers.nextId ∧ s₂.timers.toList.Sublist s₁.timers.toList
  /-- The attempts that are started are of different entries. -/
  invoked : s.turn.invoked = s.invoked ++ calls
  once : (calls.map Invocation.entry).Nodup
  /-- What they post is left for the next turn. -/
  left : s.turn.mailbox = calls.flatMap s.setup.function
  /-- Then what may leave the queue is emitted, unless the stage has ended. -/
  result : s.turn = if s₁.isRunning then s₂.emitReady else s₁.withMail []

/-- Once the stage has ended, the rest of the turn does nothing. -/
theorem Sound.turn_of_ended (h : s.Sound) (stopped : s.readMail.isRunning = false) : s.turn = s.readMail := by
  have sound : s.readMail.Sound := h.steps (steps_of_reads (readMail_reads h))
  have timers := sound.timers_of_empty (sound.ended stopped)
  have calm : s.readMail.Calm :=
    ⟨mailbox_readMail s, by simp [timers], sound.atRest_of_stopped stopped⟩
  exact calm.settled_eq

theorem Sound.turnEnds (h : s.Sound) : ∃ s₁ s₂ read fired calls, TurnEnds s s₁ s₂ read fired calls := by
  obtain ⟨read, s₁, reading, read_le, reads, same, emptied⟩ := withMail_reading s s.mailbox h
  have sound : s₁.Sound := h.steps (steps_of_reads reads)
  obtain ⟨fired, calls, firing, fired_le, brought⟩ := fireUpTo_firing s₁.timers.size sound (Nat.le_refl _)
  have setup := (fixed_of_steps (steps_of_reads reads)).setup
  have readMail : s.readMail = s₁.withMail [] := same
  have distinct : (calls.map Invocation.entry).Nodup := by
    have targets : ((calls.map Invocation.entry).map TimerTarget.retry).Nodup := by
      rw [List.map_map]
      exact brought.planned.nodup sound.targets_nodup
    exact targets.of_map
  suffices ending : s.turn.invoked = s₁.invoked ++ calls ∧ s.turn.mailbox = calls.flatMap s.setup.function ∧
      s.turn = if s₁.isRunning then s₁.fireDue.emitReady else s₁.withMail [] from
    ⟨s₁, s₁.fireDue, read, fired, calls,
      { reading, read_le, firing, fired_le
        uncalled := reads.invoked
        unposted := reads.posted
        unset := ⟨brought.nextId, brought.timers⟩
        invoked := reads.invoked ▸ ending.1
        once := distinct
        left := ending.2.1
        result := ending.2.2 }⟩
  cases running : s₁.isRunning with
  | true =>
    have whole : s₁.withMail [] = s₁ := by rw [← emptied running]; rfl
    have turn : s.turn = s₁.fireDue.emitReady := by rw [Stage.turn, readMail, whole]
    have after : s₁.fireDue.Sound := sound.steps (steps_of_expires (fireUpTo_expires sound s₁.timers.size))
    obtain ⟨drained, emits⟩ := emitReady_emits after.queue
    have silent : Notes (fun v => v.invocation? = none) s₁.fireDue s.turn := turn ▸ emits.notes fun _ => rfl
    refine ⟨silent.invoked_eq.trans brought.invoked, ?_, turn⟩
    have posts := brought.mailbox
    rw [emptied running, List.nil_append, setup] at posts
    exact turn ▸ emits.mailbox.trans posts
  | false =>
    have none : calls = [] := by
      have planned := brought.planned
      rw [sound.timers_of_empty (sound.ended running)] at planned
      exact List.map_eq_nil_iff.1 (List.sublist_nil.1 planned)
    have turn : s.turn = s₁.withMail [] := (h.turn_of_ended (readMail ▸ running)).trans readMail
    rw [none, turn]
    exact ⟨(List.append_nil _).symm, rfl, rfl⟩

/-- Every attempt fails before the function returns, and retries are not limited and due at once. -/
def hopeless : Builder where
  config := { timeout := some (.ofMillis 1000), retry := .fixedDelay none .zero {} }
  function call := [⟨call.entry, call.attempt, .failure ⟨"down"⟩⟩]

/-- **A turn ends**, in every state that a stage can be in, whatever mail there is, whatever the function
does before it returns, and whenever retries are due. Its first loop takes up each completion that is in
the mailbox, and calls nothing; its second one fires timers that were pending before it, and sets none.
So in one turn at most one attempt is started for an entry, and the completions that are posted by these
attempts are left in the mailbox. -/
theorem turn_ends {b : Builder} {now : Instant} {error : Option StageError} (begins : b.Begins now s error)
    (steps : Steps s t) : ∃ s₁ s₂ read fired calls, TurnEnds t s₁ s₂ read fired calls :=
  (begins.kept.sound.steps steps).turnEnds

/-- The turn takes up the failure of the second attempt, and starts the third one, which fails. -/
theorem turn_ends_hopeless : ∃ s, hopeless.build .epoch = .ok s ∧ ∃ t, Steps s t ∧
    t.mailbox = [⟨0, 2, .failure ⟨"down"⟩⟩] ∧ t.turn.mailbox = [⟨0, 3, .failure ⟨"down"⟩⟩] ∧
    t.turn.invoked = t.invoked ++ [⟨0, 3, "a", 0⟩] ∧ ∃ s₁ s₂ read fired calls, TurnEnds t s₁ s₂ read fired calls := by
  have built : hopeless.build .epoch = .ok (start hopeless (FixedDelay.strategy ⟨none, .zero, .error⟩) .epoch) := rfl
  have steps := run_steps (build_sound built) [.offer ⟨"a", none⟩ []]
  exact ⟨_, built, _, steps, by decide +kernel, by decide +kernel, by decide +kernel, turn_ends (.built built) steps⟩

end AsyncStage.Stage
