import AsyncStage.Proofs.Stage.InputEnd
import AsyncStage.Proofs.Stage.Rest
import AsyncStage.Proofs.Stage.Room
import AsyncStage.Proofs.Stage.Stale

/-!
# When a full queue takes an element again

The turn with which an admission begins makes room in a full queue exactly if it resolves an entry at
the front: in ordered mode the head, in unordered mode a record before the first watermark. Between
two operations the front has no results, so only this turn can have given one, by a completion or by
a timeout, and it does not matter how many entries behind the front have got theirs.
-/

namespace AsyncStage.Stage

variable {s s' : Stage} {e : RecordEntry}

/-! ## What is in the queue -/

/-- An entry has a result exactly if one was noted. -/
theorem Kept.isDone_iff (h : s.Kept) (here : .record e ∈ s.entries) : e.isDone = true ↔ e.id ∈ s.resolvedIds := by
  constructor
  · intro done
    obtain ⟨values, result, -, resolved, -⟩ := h.told.resolved_of_done here done
    have told : (e.id, result) ∈ s.resolved := results_toldOf.1 (resolved.results_eq ▸ List.mem_singleton_self _)
    exact List.mem_map_of_mem told
  · intro listed
    by_contra opened
    exact h.unresolved_of_open here (Bool.not_eq_true _ ▸ opened) listed

section Labels

variable (h : s.Sound) (running : s'.isRunning = true)

include h running

theorem Resolves.labels {result : Resolution} {new : List Event} (r : Resolves s s' e result new) :
    s'.entries.map Entry.label = s.entries.map Entry.label := by
  cases r with
  | completed values final works => exact works.queue.labels h.queue
  | failed error s₁ e₁ final cause works silent ends =>
    rw [not_isRunning_of_ended ends rfl] at running
    cases running

theorem Takes.labels {c : Completion} {rest : List Completion} (takes : Takes s s' c rest) :
    s'.entries.map Entry.label = s.entries.map Entry.label := by
  have sound := h.quiet (quiet_mailbox s rest)
  cases takes.applies with
  | ignored same =>
    rw [same]
    rfl
  | scheduled e here names accepted wanted works => exact works.queue.labels sound.queue
  | resolved e here names accepted unwanted resolves =>
    have same := resolves.labels sound running
    exact same

theorem Pops.labels {key : TimerKey} {target : TimerTarget} {rest : TimerQueue} (pops : Pops s s' key target rest) :
    s'.entries.map Entry.label = s.entries.map Entry.label := by
  cases pops.fires with
  | retried e here at' set works => exact works.queue.labels h.queue
  | expired e here opened started timeout deadline resolves => exact resolves.labels h running

theorem Reads.labels (reads : Reads s s') : s'.entries.map Entry.label = s.entries.map Entry.label := by
  induction reads with
  | refl => rfl
  | @tail t _ before last ih =>
    obtain ⟨c, rest, takes⟩ := last
    exact (takes.labels (h.steps (steps_of_reads before)) running).trans (ih (takes.lasts.ran running))

theorem Expires.labels (expires : Expires s s') : s'.entries.map Entry.label = s.entries.map Entry.label := by
  induction expires with
  | refl => rfl
  | @tail t _ before last ih =>
    obtain ⟨key, target, rest, pops⟩ := last
    exact (pops.labels (h.steps (steps_of_expires before)) running).trans (ih (pops.lasts.ran running))

end Labels

/-! ## Room -/

/-- Emission makes room exactly if something may leave. -/
theorem size_emitReady (h : s.queue.Sound) : s.emitReady.queue.size = s.queue.size ↔ s.queue.hasReady = false := by
  rw [queue_emitReady]
  cases ready : s.queue.hasReady with
  | false => exact iff_of_true rfl rfl
  | true =>
    refine iff_of_false (fun same => ?_) Bool.noConfusion
    have drains := Queue.drain_drains h
    have out : s.queue.drain.1 ≠ [] := (Queue.hasReady_iff h).1 ready
    have lengths := drains.perm.length_eq
    rw [if_pos rfl, drains.sound.size, h.size] at same
    rw [List.length_append, same, Nat.add_eq_right] at lengths
    exact out (List.eq_nil_of_length_eq_zero lengths)

/-- The entries at which an emission may begin. -/
def front (s : Stage) : List Entry := Queue.front s.queue.mode s.entries

theorem mem_front (h : s.Sound) (rest : s.AtRest) {a : Entry} (ha : a ∈ s.front) :
    ∃ e, a = .record e ∧ .record e ∈ s.entries ∧ e.isDone = false := by
  obtain ⟨head, opened⟩ := (Queue.hasReady_eq_false_iff h.queue).1 rest
  have record := Queue.isWatermark_front head a ha
  cases a with
  | watermark id t => cases record
  | record e => exact ⟨e, rfl, Queue.front_subset _ _ ha, opened _ ha⟩

/-- While the front waits for the same entries, those of them that have a result got it in between. -/
theorem Kept.hasReady_iff (h : s.Kept) (h' : s'.Kept) (rest : s.AtRest) (mode : s'.queue.mode = s.queue.mode)
    (labels : s'.entries.map Entry.label = s.entries.map Entry.label) {late : List EntryId}
    (resolved : s'.resolvedIds = s.resolvedIds ++ late) :
    s'.queue.hasReady = false ↔ ∀ a ∈ s.front, a.id ∉ late := by
  have same : s'.front.map Entry.label = s.front.map Entry.label := by
    rw [front, front, mode]
    exact Queue.map_label_front labels _
  obtain ⟨head, -⟩ := (Queue.hasReady_eq_false_iff h.sound.queue).1 rest
  have head' := Queue.isWatermark_head_congr labels head
  rw [Queue.hasReady_eq_false_iff h'.sound.queue]
  constructor
  · rintro ⟨-, opened⟩ a ha listed
    obtain ⟨a', ha', label⟩ := List.mem_map.1 (same.symm ▸ List.mem_map_of_mem (f := Entry.label) ha)
    have record := Queue.isWatermark_front head' a' ha'
    cases a' with
    | watermark id t => cases record
    | record e' =>
      refine h'.unresolved_of_open (Queue.front_subset _ _ ha') (opened _ ha') ?_
      have id : e'.id = a.id := congrArg Prod.fst label
      rw [resolved, id]
      exact List.mem_append_right _ listed
  · intro unlisted
    refine ⟨head', fun a' ha' => ?_⟩
    obtain ⟨a, ha, label⟩ := List.mem_map.1 (same ▸ List.mem_map_of_mem (f := Entry.label) ha')
    obtain ⟨e, rfl, here, opened⟩ := mem_front h.sound rest ha
    cases a' with
    | watermark id t => cases label
    | record e' =>
      have id : e.id = e'.id := congrArg Prod.fst label
      by_contra done
      have told := (h'.isDone_iff (Queue.front_subset _ _ ha')).1 (Bool.not_eq_false _ ▸ done)
      rw [resolved, ← id] at told
      exact (List.mem_append.1 told).elim (h.unresolved_of_open here opened) (unlisted _ ha)

/-- **A turn makes room** exactly if it resolves an entry of the front. -/
theorem Kept.size_turn (h : s.Kept) (rest : s.AtRest) (running : s.turn.isRunning = true) :
    ∃ late, s.turn.resolvedIds = s.resolvedIds ++ late ∧
      (s.turn.queue.size = s.queue.size ↔ ∀ a ∈ s.front, a.id ∉ late) := by
  obtain ⟨reads, expires, drained, emits⟩ := turn_parts h.sound
  have read := h.steps (steps_of_reads reads)
  have fired := read.steps (steps_of_expires expires)
  have fixed := fixed_of_steps ((steps_of_reads reads).trans (steps_of_expires expires))
  have ran : s.readMail.fireDue.isRunning = true := by rwa [isRunning, ← emits.status]
  have labels := (Expires.labels read.sound ran expires).trans
    (Reads.labels h.sound ((Expires.lasts expires).ran ran) reads)
  obtain ⟨taken, resolved, -⟩ := h.sound.inTurn.mail
  obtain ⟨timedOut, resolved', -⟩ := h.sound.inTurn.timers
  have told : s.turn.resolvedIds = s.resolvedIds ++ (taken ++ timedOut).map (·.1) := by
    rw [resolvedIds, resolved', resolved, List.append_assoc, List.map_append]
    rfl
  refine ⟨_, told, ?_⟩
  have known : s.readMail.fireDue.resolvedIds = s.resolvedIds ++ (taken ++ timedOut).map (·.1) := by
    rw [← told, resolvedIds, resolvedIds, emits.resolved]
  rw [← h.hasReady_iff fired rest fixed.mode labels known, ← size_emitReady fired.sound.queue]
  have whole : s.readMail.fireDue.queue.size = s.queue.size := by
    have lengths := congrArg List.length labels
    rwa [List.length_map, List.length_map, entries, entries, ← fired.sound.queue.size, ← h.sound.queue.size] at lengths
  rw [whole]
  rfl

/-! ## Refusals -/

/-- No stage is built without room for an entry. -/
theorem capacity_pos {b : Builder} {now : Instant} (built : b.build now = .ok s) : 0 < b.config.capacity.toNat := by
  by_contra none
  have zero : b.config.capacity = 0 := UInt64.toNat_inj.1 (Nat.eq_zero_of_not_pos none)
  simp [Builder.build, Config.checkCapacity, zero, bind, Except.bind] at built

/-- Three places, and others who answer. -/
def threePlaces (mode : OutputMode) : Builder where
  config := { mode := mode, capacity := 3 }
  function _ := []

/-- They are taken by a record, a watermark and another record, and the last one is answered. -/
def allTaken : List Action :=
  [.offer ⟨"a", none⟩ [], .putWatermark noon {}, .offer ⟨"b", none⟩ [],
    .undergo (.completes ⟨2, 1, .values ["B"]⟩)]

/-- **A full queue takes a record** exactly if the turn with which its admission begins resolves an entry
that may leave first. Let the queue of a running stage be full, between two operations, and let this turn
not fail. In ordered mode the record is handed back exactly if the head, which had no result, is not
resolved by the turn; in unordered mode exactly if no record before the first watermark is. Nothing
else counts: not how many entries behind these the turn resolves, and not how, by a completion, by the
refusal of a retry or by the fallback after a timeout. -/
theorem room_by_front {b : Builder} {now : Instant} {error : Option StageError} (begins : b.Begins now s error)
    (actions : List Action) (running : (s.run actions).isRunning = true)
    (full : (s.run actions).queue.size = b.config.capacity.toNat)
    (fine : (s.run actions).turn.failure? = none) :
    ∃ late, (s.run actions).turn.resolvedIds = (s.run actions).resolvedIds ++ late ∧
      (b.config.mode = .ordered → ∃ e, (s.run actions).entries.head? = some (.record e) ∧ e.isDone = false ∧
        ∀ r meanwhile, ((s.run actions).offer r meanwhile).2 = .ok (.full r) ↔ e.id ∉ late) ∧
      (b.config.mode = .unordered →
        ∀ r meanwhile, ((s.run actions).offer r meanwhile).2 = .ok (.full r) ↔
          ∀ a ∈ (s.run actions).entries.takeWhile (fun a => !a.isWatermark), a.id ∉ late) := by
  have steps := run_steps begins.kept.sound actions
  have rest := atRest_of_begins begins actions
  have kept := begins.kept.steps steps
  have mode := begins.mode steps
  have capacity := begins.capacity (steps.trans (turn_steps kept.sound))
  have pos : 0 < b.config.capacity.toNat := by
    obtain ⟨s₀, before, built, -⟩ := begins.exists_run
    exact capacity_pos built
  generalize s.run actions = u at *
  obtain ⟨late, told, size⟩ := kept.size_turn rest ((turn_lasts kept.sound).isRunning running fine)
  have refused : ∀ r meanwhile, (u.offer r meanwhile).2 = .ok (.full r) ↔ ∀ a ∈ u.front, a.id ∉ late := by
    intro r meanwhile
    rw [offer_eq, refused_iff kept.sound (full_ne_accepted r) running fine, capacity, ← size, full]
  rw [front, mode] at refused
  refine ⟨late, told, fun ordered => ?_, fun unordered => ?_⟩
  · have some' : u.entries ≠ [] := by
      intro none
      rw [kept.sound.queue.size, show u.queue.toList = [] from none] at full
      exact absurd pos (full ▸ Nat.lt_irrefl 0)
    obtain ⟨a, behind, list⟩ := List.exists_cons_of_ne_nil some'
    have first : a ∈ u.front := by rw [front, mode, ordered, list]; exact List.mem_cons_self
    obtain ⟨e, rfl, -, opened⟩ := mem_front kept.sound rest first
    refine ⟨e, by rw [list]; rfl, opened, fun r meanwhile => ?_⟩
    rw [refused r meanwhile, ordered, list]
    exact List.forall_mem_singleton
  · rw [unordered] at refused
    exact refused

/-- The answer behind the watermark is of no use in either mode, and that of the first record makes room. -/
theorem room_by_front_threePlaces :
    (∃ s, (threePlaces .ordered).build .epoch = .ok s ∧
      ((s.run allTaken).offer ⟨"c", none⟩ []).2 = .ok (.full ⟨"c", none⟩) ∧
      ((s.run (allTaken ++ [answered])).offer ⟨"c", none⟩ []).2 ≠ .ok (.full ⟨"c", none⟩)) ∧
    ∃ s, (threePlaces .unordered).build .epoch = .ok s ∧
      ((s.run allTaken).offer ⟨"c", none⟩ []).2 = .ok (.full ⟨"c", none⟩) ∧
      ((s.run (allTaken ++ [answered])).offer ⟨"c", none⟩ []).2 ≠ .ok (.full ⟨"c", none⟩) := by
  have resolves {s : Stage} {late : List EntryId} (ids : List EntryId)
      (told : s.turn.resolvedIds = s.resolvedIds ++ late) (known : s.turn.resolvedIds = s.resolvedIds ++ ids) :
      late = ids :=
    List.append_cancel_left (told.symm.trans known)
  constructor
  · have built : (threePlaces .ordered).build .epoch = .ok (start (threePlaces .ordered) .never .epoch) := rfl
    obtain ⟨late, told, ordered, -⟩ :=
      room_by_front (.built built) allTaken (by decide +kernel) (by decide +kernel) (by decide +kernel)
    obtain ⟨late', told', ordered', -⟩ :=
      room_by_front (.built built) (allTaken ++ [answered]) (by decide +kernel) (by decide +kernel) (by decide +kernel)
    obtain rfl := resolves [2] told (by decide +kernel)
    obtain rfl := resolves [2, 0] told' (by decide +kernel)
    obtain ⟨e, first, -, full⟩ := ordered rfl
    obtain ⟨e', first', -, full'⟩ := ordered' rfl
    have head : e.id = 0 := Option.some.inj ((congrArg (Option.map Entry.id) first).symm.trans (by decide +kernel))
    have head' : e'.id = 0 := Option.some.inj ((congrArg (Option.map Entry.id) first').symm.trans (by decide +kernel))
    refine ⟨_, built, (full _ _).2 (by rw [head]; decide), fun refused => ?_⟩
    exact (full' _ _).1 refused (by rw [head']; decide)
  · have built : (threePlaces .unordered).build .epoch = .ok (start (threePlaces .unordered) .never .epoch) := rfl
    obtain ⟨late, told, -, unordered⟩ :=
      room_by_front (.built built) allTaken (by decide +kernel) (by decide +kernel) (by decide +kernel)
    obtain ⟨late', told', -, unordered'⟩ :=
      room_by_front (.built built) (allTaken ++ [answered]) (by decide +kernel) (by decide +kernel) (by decide +kernel)
    obtain rfl := resolves [2] told (by decide +kernel)
    obtain rfl := resolves [2, 0] told' (by decide +kernel)
    refine ⟨_, built, (unordered rfl _ _).2 (by decide +kernel), fun refused => ?_⟩
    exact absurd ((unordered' rfl _ _).1 refused) (by decide +kernel)

end AsyncStage.Stage
