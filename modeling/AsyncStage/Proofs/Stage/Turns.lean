import AsyncStage.Proofs.Stage.Told

/-!
# The order of results

Records are resolved at three places: when mail is taken up, when the timers that are due fire,
and when the end of the input gives up the retries that are awaited. Each of them goes through
something that is already in order, the mail as it was posted, the timers as they fire, and the
entries in the order of the queue, and what it resolves is resolved in this order.
-/

namespace AsyncStage

/-- The result that a completion gives if no retry follows. -/
def Completion.answer (c : Completion) : EntryId × Resolution := (c.entry, .ofOutcome c.outcome)

/-- The entry whose time is up. -/
def TimerTarget.deadline? : TimerTarget → Option EntryId
  | .deadline id => some id
  | .retry _ => none

namespace Stage

/-- The entry whose time is up by this timer, if it is due. -/
def overdue? (now : Instant) (p : TimerKey × TimerTarget) : Option EntryId :=
  if p.1.fireAt ≤ now then p.2.deadline? else none

/-- The entries whose time is up, in the order in which their timers fire. -/
def overdue (s : Stage) : List EntryId := s.timers.toList.filterMap (overdue? s.now)

variable {s s' : Stage}

/-! ## Mail -/

theorem Takes.resolves {c : Completion} {rest : List Completion} (t : Takes s s' c rest) :
    s'.mailbox = rest ∧ ∃ taken, s'.resolved = s.resolved ++ taken ∧ taken.Sublist [c.answer] := by
  cases t.applies with
  | ignored same =>
    subst same
    exact ⟨rfl, [], (List.append_nil _).symm, List.nil_sublist _⟩
  | scheduled e here names accepted wanted works =>
    exact ⟨works.mailbox.trans (List.append_nil _), [], works.resolved, List.nil_sublist _⟩
  | resolved e here names accepted unwanted resolves =>
    refine ⟨?_, [c.answer], resolves.resolved, .refl _⟩
    cases resolves with
    | completed values final works => exact works.mailbox.trans (List.append_nil _)
    | failed error s₁ e₁ final cause works silent ends =>
      exact ends.mailbox.trans (works.mailbox.trans (List.append_nil _))

/-- **Mail resolves in the order of posting.** -/
theorem resolved_of_reads (reads : Reads s s') : ∃ read taken, s.mailbox = read ++ s'.mailbox ∧
    s'.resolved = s.resolved ++ taken ∧ taken.Sublist (read.map Completion.answer) := by
  induction reads with
  | refl => exact ⟨[], [], rfl, (List.append_nil _).symm, .refl _⟩
  | tail _ last ih =>
    obtain ⟨read, taken, mail, resolved, order⟩ := ih
    obtain ⟨c, rest, takes⟩ := last
    obtain ⟨left, next, resolved', order'⟩ := takes.resolves
    refine ⟨read ++ [c], taken ++ next, ?_, ?_, ?_⟩
    · rw [mail, takes.mail, left, List.append_assoc]
      rfl
    · rw [resolved', resolved, List.append_assoc]
    · rw [List.map_append]
      exact order.append order'

/-! ## Timers -/

namespace Pops

variable {key : TimerKey} {target : TimerTarget} {rest : TimerQueue}

theorem now (p : Pops s s' key target rest) : s'.now = s.now := by
  cases p.fires with
  | retried e here at' set works => exact works.now
  | expired e here opened started timeout deadline resolves =>
    cases resolves with
    | completed values final works => exact works.now
    | failed error s₁ e₁ final cause works silent ends => exact ends.now.trans works.now

/-- Firing sets no timer. -/
theorem timers_sublist (p : Pops s s' key target rest) (h : s.Sound) : s'.timers.toList.Sublist rest.toList := by
  cases p.fires with
  | retried e here at' set works timers => exact timers ▸ .refl _
  | expired e here opened started timeout deadline resolves =>
    cases resolves with
    | failed error s₁ e₁ final cause works silent ends =>
      rw [ends.timers]
      exact List.nil_sublist _
    | completed values final works sound left =>
      apply TimerQueue.sublist_of_subset
      intro q hq
      obtain ⟨old, other, -⟩ := (left q).1 hq
      rw [p.first, List.mem_cons] at old
      refine old.resolve_left fun same => other ?_
      obtain ⟨a, ha, owns⟩ := (h.owned q).1 (p.first ▸ List.mem_cons.2 (.inl same))
      subst same
      rcases owns with ⟨target, set, -⟩ | ⟨target, -⟩
      · rwa [← h.record_eq ha here (TimerTarget.deadline.inj target).symm]
      · cases target

/-- A timer that fires resolves nothing but the entry whose time is up. -/
theorem resolves (p : Pops s s' key target rest) : ∃ late, s'.resolved = s.resolved ++ late ∧
    late.map (·.1) = (overdue? s.now (key, target)).toList ∧
    ∀ r ∈ late, ∃ elapsed attempts, r.2 = .error (.timeout elapsed attempts) := by
  have due := p.due
  cases p.fires with
  | retried e here at' set works =>
    refine ⟨[], ?_, ?_, nofun⟩
    · rw [works.resolved, resolved_calls]
    · rw [overdue?, if_pos due]
      rfl
  | @expired e here opened first span started timeout deadline resolves =>
    refine ⟨[(e.id, .error (.timeout (s.now.elapsed first) e.retry.attempts))], ?_, ?_, ?_⟩
    · rw [resolves.resolved, resolved_expiry]
    · rw [overdue?, if_pos due]
      rfl
    · rintro r hr
      rw [List.mem_singleton] at hr
      exact ⟨_, _, congrArg Prod.snd hr⟩

end Pops

/-- **Deadlines resolve in the order of their timers.** -/
theorem resolved_of_expires (h : s.Sound) (expires : Expires s s') : ∃ late, s'.resolved = s.resolved ++ late ∧
    (late.map (·.1)).Sublist s.overdue ∧ ∀ r ∈ late, ∃ elapsed attempts, r.2 = .error (.timeout elapsed attempts) := by
  induction expires using Relation.ReflTransGen.head_induction_on with
  | refl => exact ⟨[], (List.append_nil _).symm, List.nil_sublist _, nofun⟩
  | head first _ ih =>
    obtain ⟨key, target, rest, pops⟩ := first
    obtain ⟨late, resolved, order, timeouts⟩ := ih (h.step (.fired pops))
    obtain ⟨now, resolved', order', timeouts'⟩ := pops.resolves
    refine ⟨now ++ late, ?_, ?_, ?_⟩
    · rw [resolved, resolved', List.append_assoc]
    · have later := order.trans ((pops.timers_sublist h).filterMap _)
      rw [pops.now] at later
      rw [List.map_append, order', overdue, pops.first]
      generalize head : overdue? _ (key, target) = due
      cases due with
      | none => rwa [List.filterMap_cons_none head]
      | some id => rw [List.filterMap_cons_some head]; exact later.cons_cons id
    · intro r hr
      exact (List.mem_append.1 hr).elim (timeouts' r) (timeouts r)

/-! ## The end of the input -/

/-- **Retries that are given up resolve in the order of the queue.** -/
theorem resolved_of_givesUp {ids : List EntryId} (gives : GivesUp s ids s') : ∃ short,
    s'.resolved = s.resolved ++ short ∧ (short.map (·.1)).Sublist ids := by
  induction gives with
  | nil s => exact ⟨[], (List.append_nil _).symm, .refl _⟩
  | passed id stopped later ih =>
    obtain ⟨short, resolved, order⟩ := ih
    exact ⟨short, resolved, order.cons _⟩
  | @cutShort _ _ _ _ e here ended _ _ outcome _ at' resolves later ih =>
    obtain ⟨short, resolved, order⟩ := ih
    refine ⟨(e.id, .ofOutcome outcome) :: short, ?_, order.cons_cons _⟩
    rw [resolved, resolves.resolved, List.append_assoc]
    rfl

/-- In what order records are resolved by a turn, by waking up, and by the end of the input. -/
structure InTurn (s : Stage) : Prop where
  /-- Completions in the order in which they were posted. -/
  mail : ∃ taken, s.readMail.resolved = s.resolved ++ taken ∧
    taken.Sublist (s.mailbox.map Completion.answer)
  /-- Then the entries whose time is up in the order in which their timers fire. -/
  timers : ∃ late, s.turn.resolved = s.readMail.resolved ++ late ∧
    (late.map (·.1)).Sublist s.readMail.overdue ∧
    ∀ r ∈ late, ∃ elapsed attempts, r.2 = .error (.timeout elapsed attempts)
  firing : s.readMail.timers.toList.Pairwise fun p p' => p.1.Before p'.1
  /-- Waking up takes up the oldest completion. -/
  waking : ∀ w : Wake, ∃ taken, (s.sleep w).resolved = s.resolved ++ taken ∧
    taken.Sublist (((s.undergoAll w.arriving).mailbox.take 1).map Completion.answer)
  /-- The end of the input gives up retries in the order of the queue. -/
  ending : s.isRunning = true → ∃ short,
    (s.waitingIds.foldl cutShort { s with retrying := false }).resolved = s.resolved ++ short ∧
      (short.map (·.1)).Sublist (recordIds s.entries)

theorem Sound.inTurn (h : s.Sound) : s.InTurn where
  mail := by
    obtain ⟨read, taken, mail, resolved, order⟩ := resolved_of_reads (readMail_reads h)
    refine ⟨taken, resolved, order.trans ?_⟩
    rw [mail, List.map_append]
    exact List.sublist_append_left _ _
  timers := by
    obtain ⟨reads, expires, drained, emits⟩ := turn_parts h
    rw [emits.resolved]
    exact resolved_of_expires (h.steps (steps_of_reads reads)) expires
  firing := TimerQueue.toList_pairwise _
  waking w := by
    have sound := h.steps (undergoAll_steps w.arriving s)
    have arrived := (quiet_undergoAll w.arriving s).resolved
    unfold sleep
    simp only [(quiet_undergoAll w.resuming _).resolved]
    generalize s.undergoAll w.arriving = t at sound arrived
    cases mail : t.mailbox with
    | nil => exact ⟨[], arrived.trans (List.append_nil _).symm, List.nil_sublist _⟩
    | cons c rest =>
      have takes : Takes t (apply { t with mailbox := rest } c) c rest :=
        ⟨mail, apply_applies (s := { t with mailbox := rest }) sound.queue sound.timers c⟩
      rw [← arrived]
      exact takes.resolves.2
  ending running := by
    obtain ⟨short, resolved, order⟩ := resolved_of_givesUp (waiting_givesUp h running)
    exact ⟨short, resolved, order.trans (waitingIds_sublist s)⟩

end Stage

end AsyncStage
