import AsyncStage.Proofs.Stage.Rest
import AsyncStage.Proofs.Stage.Timeouts

/-!
# Stages that have come to rest

Between two operations the front of the queue has to wait, in ordered mode for its record and in
unordered mode for all records before the first watermark. A turn takes up all mail that was there
before it, so the mail that it leaves is what its own attempts have posted. If there is none of it,
the turn has done everything that there is to do at this time, and another one changes nothing.
-/

namespace AsyncStage

/-! ## The front of a queue -/

/-- The front waits: a record without a result, or a run of records of which none has a result. -/
def Queue.FrontWaits (q : Queue) : Prop :=
  match q.discipline with
  | .ordered o => ∀ e ∈ o.toList.head?, ∃ r, e = .record r ∧ r.isDone = false
  | .unordered u => ∀ s ∈ u.segments.head?, ∃ entries, s = .records entries [] ∧ entries.toList ≠ [] ∧
      ∀ p ∈ entries.toList, p.2.isDone = false

/-- Nothing may leave exactly when the front waits. -/
theorem Queue.frontWaits_iff {q : Queue} (h : q.Sound) : q.FrontWaits ↔ q.hasReady = false := by
  obtain ⟨capacity, o | u⟩ := q
  · refine Iff.trans (forall₂_congr fun e _ => ?_) OrderedQueue.hasReady_eq_false_iff.symm
    cases e with
    | record r => simp [Entry.isDone]
    | watermark id t => simp [Entry.isDone]
  · refine Iff.trans (forall₂_congr fun s first => ?_)
      (UnorderedQueue.hasReady_eq_false_iff u.size h.wellFormed).symm
    cases s with
    | watermark id t => simp [Segment.isRun]
    | records entries ready =>
      obtain ⟨some', -, ready_iff⟩ := h.wellFormed.marked _ (List.mem_of_mem_head? first)
      simp only [Segment.isRun, Segment.ready, true_and]
      constructor
      · rintro ⟨entries', same, -⟩
        exact (Segment.records.inj same).2
      · rintro rfl
        refine ⟨entries, rfl, some', fun p hp => ?_⟩
        by_contra done
        exact List.not_mem_nil ((ready_iff p.1).2 ⟨p.2, hp, by simpa using done⟩)

namespace Stage

variable {s s' t : Stage}

/-! ## Mail of a turn -/

/-- Taking up mail posts nothing. -/
theorem Takes.posted {c : Completion} {rest : List Completion} (takes : Takes s s' c rest) :
    s'.posted = s.posted := by
  cases takes.applies with
  | ignored same => rw [same]; rfl
  | scheduled e here names accepted wanted works => exact works.adds.posted.trans (List.append_nil _)
  | resolved e here names accepted unwanted resolves => exact resolves.adds.posted.trans (List.append_nil _)

theorem Reads.posted (reads : Reads s s') : s'.posted = s.posted :=
  Reads.between (fun s t => t.posted = s.posted) (fun _ => rfl) (fun first later => later.trans first) reads
    Takes.posted

/-- What timers post is left in the mailbox. -/
theorem Expires.posted (expires : Expires s s') :
    ∃ more, s'.posted = s.posted ++ more ∧ s'.mailbox = s.mailbox ++ more := by
  induction expires with
  | refl => exact ⟨[], by simp, by simp⟩
  | tail _ last ih =>
    obtain ⟨more, posted, mailbox⟩ := ih
    obtain ⟨key, target, rest, pops⟩ := last
    obtain ⟨new, adds⟩ : ∃ new, Adds _ _ new := by
      cases pops.fires with
      | retried e here at' set works timers => exact ⟨_, works.adds⟩
      | expired e here opened started timeout deadline resolves => exact ⟨_, resolves.adds⟩
    refine ⟨more ++ new.filterMap Event.posted?, ?_, ?_⟩
    · rw [adds.posted, posted, List.append_assoc]
    · rw [adds.mailbox, mailbox, List.append_assoc]

/-- **The mail that a turn leaves** is what has been posted during it. -/
theorem turn_posted (h : s.Sound) : s.turn.posted = s.posted ++ s.turn.mailbox := by
  obtain ⟨reads, expires, drained, emits⟩ := turn_parts h
  obtain ⟨more, posted, mailbox⟩ := Expires.posted expires
  have silent : s.turn.posted = s.readMail.fireDue.posted := by
    rw [posted_noted emits.told, filterMap_drained fun _ => rfl, List.append_nil]
  rw [silent, emits.mailbox, posted, mailbox, Reads.posted reads, mailbox_readMail, List.nil_append]

/-! ## Quiescence -/

/-- A poll during which nothing was posted leaves nothing to do, and another one does nothing. -/
theorem Sound.poll_again (h : s.Sound) (polled : s.poll = (t, .ok ())) (silent : t.posted = s.posted) :
    t.now = s.now ∧ t.Calm ∧ t.poll = (t, .ok ()) := by
  have goes := poll_goes h
  rw [polled] at goes
  obtain ⟨rfl, running⟩ := poll_ok polled
  have mail : s.turn.mailbox = [] := by
    rw [turn_posted h] at silent
    exact List.append_right_eq_self.1 silent
  have calm := h.calm_turn mail
  refine ⟨now_turn h, calm, ?_⟩
  have running := goes.isRunning running
  rw [poll_eq, if_pos running, calm.turn_eq, failure?_of_running running]

/-- The slow record of the first three elements is answered. -/
def slowPosted : List Action := slowFirst ++ [.undergo (.completes ⟨0, 1, .values ["late"]⟩)]

/-- **A stage is quiescent.** Between two operations nothing may leave the queue, in either mode, whatever has
been posted in the meantime. After a poll that succeeds, and during which no attempt has posted its
completion, there is no mail and no timer is due, and a second poll changes nothing: the stage is the
same with its queue, its timers, its output and its history. -/
theorem quiescent {b : Builder} {now : Instant} {error : Option StageError} (begins : b.Begins now s error)
    (actions : List Action) :
    (s.run actions).queue.hasReady = false ∧ (s.run actions).queue.FrontWaits ∧
      ∀ t, (s.run actions).poll = (t, .ok ()) → t.posted = (s.run actions).posted →
        t.now = (s.run actions).now ∧ t.Calm ∧ t.poll = (t, .ok ()) := by
  have sound := (begins.kept.steps (run_steps begins.kept.sound actions)).sound
  have rest := atRest_of_begins begins actions
  exact ⟨rest, (Queue.frontWaits_iff sound.queue).2 rest, fun t polled silent => sound.poll_again polled silent⟩

/-- The answer waits in the mailbox, so nothing may leave yet. The poll takes it up and empties the queue,
and the next one does nothing. -/
theorem quiescent_slowPosted : ∃ s, (oneSlow .unordered).build .epoch = .ok s ∧
    (s.run slowPosted).queue.FrontWaits ∧ (s.run slowPosted).mailbox = [⟨0, 1, .values ["late"]⟩] ∧
    (s.run slowPosted).entries.length = 2 ∧
    ∃ t, (s.run slowPosted).poll = (t, .ok ()) ∧ t.entries = [] ∧ t.Calm ∧ t.poll = (t, .ok ()) := by
  have built : (oneSlow .unordered).build .epoch = .ok (start (oneSlow .unordered) .never .epoch) := rfl
  obtain ⟨-, front, again⟩ := quiescent (.built built) slowPosted
  have polled := afterTurn_eq (s := (start (oneSlow .unordered) .never .epoch).run slowPosted)
    (by decide +kernel) (by decide +kernel) fun s => (s, .ok ())
  obtain ⟨-, calm, idle⟩ := again _ polled (by decide +kernel)
  exact ⟨_, built, front, by decide +kernel, by decide +kernel, _, polled, by decide +kernel, calm, idle⟩

end Stage

end AsyncStage
