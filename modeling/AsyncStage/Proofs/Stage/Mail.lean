import AsyncStage.Proofs.Stage.Steps

/-!
# Reading the mail

A turn takes the whole mailbox at once and works through it. Taking up a completion does not
look at the mailbox, so this is the same as taking up the oldest completion again and again.
-/

namespace AsyncStage.Stage

/-- The stage with other mail. -/
def withMail (s : Stage) (mail : List Completion) : Stage := { s with mailbox := mail }

variable {s : Stage} {mail mail' : List Completion} {id : EntryId} {e : RecordEntry}

section Fields

@[simp] theorem withMail_withMail : (s.withMail mail).withMail mail' = s.withMail mail' := rfl

@[simp] theorem setup_withMail : (s.withMail mail).setup = s.setup := rfl

@[simp] theorem queue_withMail : (s.withMail mail).queue = s.queue := rfl

@[simp] theorem mailbox_withMail : (s.withMail mail).mailbox = mail := rfl

@[simp] theorem update_withMail {f : RecordEntry → RecordEntry} :
    (s.withMail mail).update id f = (s.update id f).withMail mail := rfl

@[simp] theorem note_withMail {event : Event} : (s.withMail mail).note event = (s.note event).withMail mail := rfl

@[simp] theorem measure_withMail {m : Measurement} :
    (s.withMail mail).measure m = (s.measure m).withMail mail := rfl

@[simp] theorem complete_withMail {values : List String} :
    (s.withMail mail).complete id values = (s.complete id values).withMail mail := rfl

@[simp] theorem scheduleRetry_withMail {c : Completion} {backoff : Duration} :
    (s.withMail mail).scheduleRetry c backoff = (s.scheduleRetry c backoff).withMail mail := rfl

@[simp] theorem retryBackoff?_withMail {c : Completion} :
    (s.withMail mail).retryBackoff? e c = s.retryBackoff? e c := rfl

@[simp] theorem cancelTimer_withMail {timer : Option TimerId} :
    (s.withMail mail).cancelTimer timer = (s.cancelTimer timer).withMail mail := by
  cases timer <;> rfl

@[simp] theorem tellListener_withMail {error : EntryError} :
    (s.withMail mail).tellListener e error = (s.tellListener e error).withMail mail := by
  unfold tellListener
  cases listening : s.setup.listening <;> simp only [setup_withMail, listening] <;> rfl

@[simp] theorem measureAttempt_withMail :
    (s.withMail mail).measureAttempt e = (s.measureAttempt e).withMail mail := by
  unfold measureAttempt
  cases e.retry.attemptStarted <;> rfl

theorem cancelAttempt_withMail : (s.withMail mail).cancelAttempt e = (s.cancelAttempt e).withMail mail := by
  unfold cancelAttempt
  cases e.signal <;> rfl

theorem cancelAttempts_withMail (s : Stage) (mail : List Completion) (es : List RecordEntry) :
    es.foldl cancelAttempt (s.withMail mail) = (es.foldl cancelAttempt s).withMail mail := by
  induction es generalizing s with
  | nil => rfl
  | cons e es ih => rw [List.foldl_cons, List.foldl_cons, cancelAttempt_withMail, ih]

@[simp] theorem teardown_withMail {status : Status} :
    (s.withMail mail).teardown status = (s.teardown status).withMail mail := by
  have all := cancelAttempts_withMail { s with status := status } mail (s.entries.filterMap Entry.record?)
  exact congrArg (fun t : Stage => { t with timers := s.timers.clear, queue := s.queue.clear }.measure
    (.added .inFlight (-s.queue.size))) all

end Fields

theorem resolve_withMail (s : Stage) (mail : List Completion) (id : EntryId) (result : Resolution) :
    (s.withMail mail).resolve id result = (s.resolve id result).withMail mail := by
  unfold resolve
  simp only [queue_withMail]
  cases s.queue.find? id with
  | none => rfl
  | some e =>
    simp only [cancelTimer_withMail, update_withMail, note_withMail]
    cases result with
    | values values => rfl
    | error error =>
      simp only [setup_withMail]
      split
      · simp only [tellListener_withMail, measure_withMail, complete_withMail]
      · exact teardown_withMail

theorem apply_withMail (s : Stage) (mail : List Completion) (c : Completion) :
    (s.withMail mail).apply c = (s.apply c).withMail mail := by
  unfold Stage.apply
  simp only [queue_withMail]
  cases s.queue.find? c.entry with
  | none => rfl
  | some e =>
    simp only [update_withMail, note_withMail, measureAttempt_withMail, retryBackoff?_withMail]
    split
    · cases Stage.retryBackoff? _ e c with
      | some backoff => exact scheduleRetry_withMail
      | none => exact resolve_withMail _ _ _ _
    · rfl

theorem mailbox_apply (s : Stage) (c : Completion) : (s.apply c).mailbox = s.mailbox := by
  have same := congrArg Stage.mailbox (apply_withMail s s.mailbox c)
  exact same

/-- **Reading the mail** is taking up one completion after the other. -/
theorem readMail_reads (h : s.Sound) : Reads s s.readMail := by
  have all : ∀ (mail : List Completion) (s : Stage), (s.withMail mail).Sound →
      Reads (s.withMail mail) (mail.foldl apply (s.withMail [])) := by
    intro mail
    induction mail with
    | nil => intro s _; exact .refl
    | cons c mail ih =>
      intro s sound
      have next : Takes (s.withMail (c :: mail)) ((s.withMail mail).apply c) c mail :=
        ⟨rfl, apply_applies (s := s.withMail mail) sound.queue sound.timers c⟩
      have rest := ih (s.apply c) (apply_withMail s mail c ▸ sound.step (.took next))
      rw [← apply_withMail s mail c, ← apply_withMail s [] c] at rest
      exact .head ⟨c, mail, next⟩ rest
  exact all s.mailbox s h

end AsyncStage.Stage
