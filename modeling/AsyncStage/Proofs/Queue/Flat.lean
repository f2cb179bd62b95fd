import AsyncStage.Proofs.Queue.Sound

/-!
# A queue without segments

What the unordered mode means is easier to say of two lists: the entries as they were
admitted, and the numbers of the resolved records as they were marked. A `FlatQueue` looks
through both of them on every call. Draining takes the marked records in front of the first
watermark, in the order in which they were marked; if no record is left in front of this
watermark it leaves too, and the records behind it have their turn.
-/

namespace AsyncStage

/-- What the owner of a queue may do with it. -/
inductive QueueCall where
  | put (entry : Entry)
  /-- Gives the record its final result and notes that it has one. -/
  | resolve (id : EntryId) (slot : Slot)
  | drain
  | clear
deriving DecidableEq

/-- What the owner gets back. -/
inductive QueueAnswer where
  | accepted
  | handedBack (entry : Entry)
  | found (entry : Option RecordEntry)
  | taken (entries : List Entry)
deriving DecidableEq

/-- The answers to calls made one after the other, and the state that they leave. -/
def session {σ : Type} (perform : σ → QueueCall → QueueAnswer × σ) : σ → List QueueCall → List QueueAnswer × σ
  | s, [] => ([], s)
  | s, call :: calls =>
    let (answer, s) := perform s call
    let (answers, s) := session perform s calls
    (answer :: answers, s)

/-- What can be seen of a queue between two calls. -/
structure QueueView where
  entries : List Entry
  size : Nat
  hasRoom : Bool
  find? : EntryId → Option RecordEntry
  hasReady : Bool

/-- The entry once its slot is set. -/
def RecordEntry.given (slot : Slot) (r : RecordEntry) : RecordEntry := { r with slot }

@[simp] theorem RecordEntry.id_given (slot : Slot) (r : RecordEntry) : (r.given slot).id = r.id := rfl

@[simp] theorem RecordEntry.isDone_given (slot : Slot) (r : RecordEntry) :
    (r.given slot).isDone = slot.isFinal := rfl

namespace Queue

/-- One call of the owner. -/
def perform (q : Queue) : QueueCall → QueueAnswer × Queue
  | .put e =>
    match q.put? e with
    | some q => (.accepted, q)
    | none => (.handedBack e, q)
  | .resolve id slot => (.found (q.find? id), q.settle id (.given slot))
  | .drain => (.taken q.drain.1, q.drain.2)
  | .clear => (.taken q.toList, q.clear)

def view (q : Queue) : QueueView where
  entries := q.toList
  size := q.size
  hasRoom := q.hasRoom
  find? := q.find?
  hasReady := q.hasReady

end Queue

/-- Entries as they were admitted, and the numbers of resolved records as they were marked. -/
structure FlatQueue where
  capacity : Nat
  entries : List Entry := []
  marked : List EntryId := []
deriving DecidableEq

namespace QueueCall

/-- The entry that is put in. -/
def entry? : QueueCall → Option Entry
  | .put e => some e
  | .resolve _ _ => none
  | .drain => none
  | .clear => none

/-- The number of the record that is resolved. -/
def resolved? : QueueCall → Option EntryId
  | .put _ => none
  | .resolve id _ => some id
  | .drain => none
  | .clear => none

/-- Whether a record that is put in has no result yet, and what is given to a record is one. -/
def isProper : QueueCall → Bool
  | .put e => e.record?.all (!·.isDone)
  | .resolve _ slot => slot.isFinal
  | .drain => true
  | .clear => true

/-- The numbers of the entries put in grow, records come without a result and are given one at
most once. -/
structure Orderly (calls : List QueueCall) : Prop where
  increasing : Increasing (calls.filterMap entry?)
  proper : ∀ call ∈ calls, call.isProper = true
  once : (calls.filterMap resolved?).Nodup

theorem Orderly.tail {call : QueueCall} {calls : List QueueCall} (h : Orderly (call :: calls)) : Orderly calls where
  increasing := h.increasing.sublist ((List.sublist_cons_self _ _).filterMap _)
  proper := (List.forall_mem_cons.1 h.proper).2
  once := h.once.sublist ((List.sublist_cons_self _ _).filterMap _)

end QueueCall

namespace FlatQueue

def hasRoom (q : FlatQueue) : Bool := q.entries.length < q.capacity

/-- The record entry with this number. -/
def find? (q : FlatQueue) (id : EntryId) : Option RecordEntry :=
  (q.entries.filterMap Entry.record?).find? (·.id == id)

/-- The records before the first watermark. -/
def front (q : FlatQueue) : List Entry := q.entries.takeWhile (!·.isWatermark)

/-- The numbers of the resolved records before the first watermark, as they were marked. -/
def leaving (q : FlatQueue) : List EntryId := q.marked.filter fun id => q.front.any (·.id == id)

/-- The queue without the entries that have these numbers. -/
def without (q : FlatQueue) (ids : List EntryId) : FlatQueue :=
  { q with entries := q.entries.filter (·.id ∉ ids), marked := q.marked.filter (· ∉ ids) }

/-- The entries that may leave, in the order in which they do, and what stays. -/
def drain (q : FlatQueue) : List Entry × FlatQueue :=
  let out := (q.leaving.filterMap q.find?).map Entry.record
  let stay := q.without q.leaving
  match _h : stay.entries with
  | .watermark id time :: rest =>
    let (more, left) := drain { stay with entries := rest }
    (out ++ .watermark id time :: more, left)
  | _ => (out, stay)
termination_by q.entries.length
decreasing_by
  have kept : stay.entries.length ≤ q.entries.length := List.length_filter_le _ _
  simp only [_h, List.length_cons] at kept
  exact kept

/-- Whether draining takes something out. -/
def hasReady (q : FlatQueue) : Bool := !q.drain.1.isEmpty

/-- Gives the record its final result and marks it, if it is there. -/
def settle (q : FlatQueue) (id : EntryId) (slot : Slot) : FlatQueue :=
  match q.find? id with
  | none => q
  | some _ =>
    { q with
      entries := q.entries.map (Entry.modify id (.given slot))
      marked := q.marked ++ [id] }

/-- One call of the owner. -/
def perform (q : FlatQueue) : QueueCall → QueueAnswer × FlatQueue
  | .put e => if q.hasRoom then (.accepted, { q with entries := q.entries ++ [e] }) else (.handedBack e, q)
  | .resolve id slot => (.found (q.find? id), q.settle id slot)
  | .drain => (.taken q.drain.1, q.drain.2)
  | .clear => (.taken q.entries, { q with entries := [], marked := [] })

def view (q : FlatQueue) : QueueView where
  entries := q.entries
  size := q.entries.length
  hasRoom := q.hasRoom
  find? := q.find?
  hasReady := q.hasReady

/-- Whether an entry that is put in has a new number, and a record that is resolved has no result yet. -/
def isOpenTo (q : FlatQueue) : QueueCall → Bool
  | .put e => q.entries.all (·.id < e.id)
  | .resolve id _ => (q.find? id).all (!·.isDone)
  | .drain => true
  | .clear => true

def allows (q : FlatQueue) (call : QueueCall) : Bool := call.isProper && q.isOpenTo call

/-- Each of the calls is allowed where it is made. -/
def allowsAll : FlatQueue → List QueueCall → Bool
  | _, [] => true
  | q, call :: calls => q.allows call && (q.perform call).2.allowsAll calls

/-! ## Records by number -/

variable {q : FlatQueue} {id : EntryId}

theorem find?_eq_some_iff (h : Increasing q.entries) {e : RecordEntry} :
    q.find? id = some e ↔ .record e ∈ q.entries ∧ e.id = id := by
  have sound : ∀ {e : RecordEntry}, q.find? id = some e → .record e ∈ q.entries ∧ e.id = id := by
    intro e found
    obtain ⟨a, ha, rec⟩ := List.mem_filterMap.1 (List.mem_of_find?_eq_some found)
    exact ⟨Entry.record?_eq_some_iff.1 rec ▸ ha, by simpa using List.find?_some found⟩
  refine ⟨sound, fun ⟨he, hid⟩ => ?_⟩
  have listed : e ∈ q.entries.filterMap Entry.record? := List.mem_filterMap.2 ⟨_, he, rfl⟩
  have known : (q.find? id).isSome := List.find?_isSome.2 ⟨e, listed, by simpa using hid⟩
  obtain ⟨e', found⟩ := Option.isSome_iff_exists.1 known
  obtain ⟨he', hid'⟩ := sound found
  rw [found, h.record_eq he' he (hid'.trans hid.symm)]

/-! ## One round of draining -/

@[simp] theorem without_nil (q : FlatQueue) : q.without [] = q := by
  simp [without]

/-- While a record is left in front of the first watermark, or nothing is left, draining ends. -/
theorem drain_of_waits (waits : ∀ e ∈ (q.without q.leaving).entries.head?, e.isWatermark = false) :
    q.drain = ((q.leaving.filterMap q.find?).map Entry.record, q.without q.leaving) := by
  rw [drain]
  split
  next id time rest first =>
    have never : (Entry.watermark id time).isWatermark = false := waits _ (by rw [first]; rfl)
    cases never
  next => rfl

/-- A watermark that has come to the head leaves, and draining goes on behind it. -/
theorem drain_of_watermark {time : Timestamp} {rest : List Entry}
    (first : (q.without q.leaving).entries = .watermark id time :: rest) :
    q.drain =
      ((q.leaving.filterMap q.find?).map Entry.record ++
        .watermark id time :: ({ q.without q.leaving with entries := rest } : FlatQueue).drain.1,
       ({ q.without q.leaving with entries := rest } : FlatQueue).drain.2) := by
  rw [drain]
  split
  next id' time' rest' same =>
    obtain ⟨head, rfl⟩ := List.cons.inj (first.symm.trans same)
    cases head
    rfl
  next other => exact absurd first (other _ _ _)

/-- With no record before the first watermark no number leaves. -/
theorem leaving_of_front (empty : q.front = []) : q.leaving = [] := by
  simp [leaving, empty]

@[simp] theorem drain_nil (capacity : Nat) (marked : List EntryId) :
    (⟨capacity, [], marked⟩ : FlatQueue).drain = ([], ⟨capacity, [], marked⟩) := by
  have none' : (⟨capacity, [], marked⟩ : FlatQueue).leaving = [] := leaving_of_front rfl
  rw [drain_of_waits (by simp [none'])]
  simp [none']

theorem drain_watermark (capacity : Nat) (time : Timestamp) (rest : List Entry) (marked : List EntryId) :
    (⟨capacity, .watermark id time :: rest, marked⟩ : FlatQueue).drain =
      (.watermark id time :: (⟨capacity, rest, marked⟩ : FlatQueue).drain.1,
       (⟨capacity, rest, marked⟩ : FlatQueue).drain.2) := by
  have none' : (⟨capacity, .watermark id time :: rest, marked⟩ : FlatQueue).leaving = [] :=
    leaving_of_front rfl
  rw [drain_of_watermark (by rw [none', without_nil])]
  simp [none']

/-- Once no record is left in front of the first watermark, what is left drains as well. -/
theorem drain_of_opened (opened : ∀ e ∈ (q.without q.leaving).entries.head?, e.isWatermark = true) :
    q.drain =
      ((q.leaving.filterMap q.find?).map Entry.record ++ (q.without q.leaving).drain.1,
       (q.without q.leaving).drain.2) := by
  have waits := drain_of_waits (q := q)
  have goes := @drain_of_watermark q
  generalize q.without q.leaving = stay at opened waits goes ⊢
  obtain ⟨capacity, entries, marked⟩ := stay
  cases entries with
  | nil => rw [waits (by simp), drain_nil, List.append_nil]
  | cons e rest =>
    cases e with
    | record r => cases opened _ rfl
    | watermark id time => rw [goes rfl, drain_watermark]

/-! ## Orderly calls are allowed -/

theorem entries_drain_sublist (q : FlatQueue) : q.drain.2.entries.Sublist q.entries := by
  fun_induction drain q with
  | case1 q out stay id time rest first more left out' ih =>
    have stays : (Entry.watermark id time :: rest).Sublist q.entries := first ▸ List.filter_sublist
    rw [out'] at ih
    exact ih.trans ((List.sublist_cons_self _ _).trans stays)
  | case2 q out stay => exact List.filter_sublist

/-- Later calls put in higher numbers and resolve none of the records that have a result. -/
structure Ready (q : FlatQueue) (calls : List QueueCall) : Prop where
  higher : ∀ e ∈ q.entries, ∀ e' ∈ calls.filterMap QueueCall.entry?, e.id < e'.id
  done : ∀ r, .record r ∈ q.entries → r.isDone = true → r.id ∉ calls.filterMap QueueCall.resolved?

theorem Ready.sublist {q' : FlatQueue} {calls : List QueueCall} (h : q.Ready calls)
    (fewer : q'.entries.Sublist q.entries) : q'.Ready calls where
  higher e he := h.higher e (fewer.subset he)
  done r hr := h.done r (fewer.subset hr)

theorem Ready.put {calls : List QueueCall} {e : Entry} (h : q.Ready (.put e :: calls))
    (higher : ∀ e' ∈ calls.filterMap QueueCall.entry?, e.id < e'.id)
    (opened : ∀ r, e = .record r → r.isDone = false) :
    ({ q with entries := q.entries ++ [e] } : FlatQueue).Ready calls where
  higher a ha := by
    rcases List.mem_append.1 ha with old | new
    · exact fun b hb => h.higher a old b (List.mem_cons_of_mem _ hb)
    · rw [List.mem_singleton.1 new]
      exact higher
  done r hr done := by
    rcases List.mem_append.1 hr with old | new
    · exact h.done r old done
    · rw [opened r (List.mem_singleton.1 new).symm] at done
      cases done

theorem Ready.settle {calls : List QueueCall} {slot : Slot} (h : q.Ready (.resolve id slot :: calls))
    (once : id ∉ calls.filterMap QueueCall.resolved?) : (q.settle id slot).Ready calls := by
  rw [FlatQueue.settle]
  split
  · exact ⟨h.higher, fun r hr done later => h.done r hr done (List.mem_cons_of_mem _ later)⟩
  refine ⟨fun a ha => ?_, fun r hr done => ?_⟩
  · obtain ⟨b, hb, rfl⟩ := List.mem_map.1 ha
    rw [Entry.id_modify (RecordEntry.id_given slot)]
    exact h.higher b hb
  · obtain ⟨b, hb, same⟩ := List.mem_map.1 hr
    by_cases here : b.id = id
    · have number : r.id = id := by
        rw [← here, ← Entry.id_record r, ← same, Entry.id_modify (RecordEntry.id_given slot)]
      rwa [number]
    · rw [Entry.modify_of_ne here] at same
      exact fun later => h.done r (same ▸ hb) done (List.mem_cons_of_mem _ later)

/-- One call of an orderly list is allowed, and the others stay in order. -/
theorem Ready.perform {call : QueueCall} {calls : List QueueCall} (h : q.Ready (call :: calls))
    (orderly : QueueCall.Orderly (call :: calls)) :
    q.allows call = true ∧ (q.perform call).2.Ready calls := by
  have proper := orderly.proper call List.mem_cons_self
  rw [allows, proper, Bool.true_and]
  cases call with
  | put e =>
    have later : Increasing (e :: calls.filterMap QueueCall.entry?) := orderly.increasing
    have opened : ∀ r, e = .record r → r.isDone = false := fun r eq => by
      simpa [eq, QueueCall.isProper, Entry.record?] using proper
    refine ⟨List.all_eq_true.2 fun a ha => decide_eq_true (h.higher a ha e List.mem_cons_self), ?_⟩
    simp only [FlatQueue.perform]
    split
    · exact h.put (List.pairwise_cons.1 later).1 opened
    · exact ⟨fun a ha b hb => h.higher a ha b (List.mem_cons_of_mem _ hb), h.done⟩
  | resolve id slot =>
    refine ⟨(Option.all_eq_true _ _).2 fun r found => ?_, h.settle (List.nodup_cons.1 orderly.once).1⟩
    obtain ⟨a, ha, rec⟩ := List.mem_filterMap.1 (List.mem_of_find?_eq_some found)
    rw [Entry.record?_eq_some_iff] at rec
    have number : r.id = id := by simpa using List.find?_some found
    have opened : r.isDone ≠ true := fun done => h.done r (rec ▸ ha) done (number ▸ List.mem_cons_self)
    simpa using opened
  | drain => exact ⟨rfl, Ready.sublist ⟨h.higher, h.done⟩ q.entries_drain_sublist⟩
  | clear => exact ⟨rfl, by simp [FlatQueue.perform], by simp [FlatQueue.perform]⟩

/-- Of calls that are in order from the beginning, each is allowed where it is made. -/
theorem allowsAll_of_orderly (capacity : Nat) {calls : List QueueCall} (orderly : QueueCall.Orderly calls) :
    (⟨capacity, [], []⟩ : FlatQueue).allowsAll calls = true := by
  have ready : (⟨capacity, [], []⟩ : FlatQueue).Ready calls := ⟨by simp, by simp⟩
  generalize (⟨capacity, [], []⟩ : FlatQueue) = q at ready ⊢
  induction calls generalizing q with
  | nil => rfl
  | cons call calls ih =>
    obtain ⟨allowed, rest⟩ := ready.perform orderly
    rw [allowsAll, allowed, Bool.true_and]
    exact ih orderly.tail _ rest

end FlatQueue

end AsyncStage
