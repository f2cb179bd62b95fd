import AsyncStage.Proofs.Snapshot.Encoding
import AsyncStage.Scenario.Scene

/-!
# Snapshots that were cut off

A reader asks for the bytes that it takes before it looks at what they say. So what is left of
a snapshot after a cut is too short wherever the cut falls: in a count, in a length, inside a
character, in an event time, or between two elements. Nothing else is ever found wrong with it,
because everything that is there was written so.
-/

namespace AsyncStage.Snapshot

variable {α β : Type} {bytes first later : Bytes}

/-- A reader that needs all of these bytes: any beginning of them that is not the whole is too
short. -/
def Needs (read : Bytes → Except DecodeError α) (bytes : Bytes) : Prop :=
  ∀ part, part <+: bytes → part ≠ bytes → read part = .error .inputTooShort

/-! ## Reading one thing after another -/

/-- What is done with what was read does not matter: it comes too late for a reader that fails. -/
theorem Needs.before {read : Reader α} (needs : Needs read bytes) (next : α × Bytes → Except DecodeError β) :
    Needs (fun bytes => read bytes >>= next) bytes := by
  intro part cut short
  change Except.bind (read part) next = _
  rw [needs part cut short, Except.bind]

/-- A cut falls in what is read first or in what is read later. -/
theorem Needs.bind {read : Reader α} {a : α} {next : α × Bytes → Except DecodeError β} (needs : Needs read first)
    (whole : ∀ rest, read (first ++ rest) = .ok (a, rest)) (more : Needs (fun bytes => next (a, bytes)) later) :
    Needs (fun bytes => read bytes >>= next) (first ++ later) := by
  intro part cut short
  by_cases within : first <+: part
  · obtain ⟨rest, rfl⟩ := within
    have cut : rest <+: later := (List.prefix_append_right_inj first).1 cut
    have short : rest ≠ later := fun same => short (congrArg (first ++ ·) same)
    change Except.bind (read (first ++ rest)) next = _
    rw [whole rest]
    exact more rest cut short
  · have inFirst : part <+: first :=
      (List.prefix_or_prefix_of_prefix cut (List.prefix_append first later)).resolve_right within
    have notWhole : part ≠ first := fun same => within (same ▸ List.prefix_rfl)
    exact needs.before next part inFirst notWhole

/-! ## Numbers and texts -/

theorem needs_take (bytes : Bytes) : Needs (take bytes.length) bytes := by
  intro part cut short
  have less : part.length < bytes.length :=
    Nat.lt_of_le_of_ne cut.length_le fun same => short (cut.eq_of_length same)
  rw [take, if_pos less]

theorem needs_number (width n : Nat) : Needs (number width) (littleEndian width n) := by
  have taken := needs_take (littleEndian width n)
  rw [length_littleEndian] at taken
  exact taken.before _

/-- A text is cut in its length or in its characters; they are only decoded when all of them are
there. -/
theorem needs_text {s : String} (fits : Fits s) : Needs text (encodeText s) := by
  have taken := needs_take s.toUTF8.toList
  rw [length_toUTF8] at taken
  exact (needs_number 8 s.utf8ByteSize).bind (fun _ => number_littleEndian 8 fits) (taken.before _)

theorem needs_timestamp (t : Timestamp) : Needs timestamp (encodeTimestamp t) := (needs_text (fits_text t)).before _

/-! ## Elements -/

/-- The bytes of an event time that a record may have. -/
theorem needs_timestamp? (t : Option Timestamp) :
    Needs timestamp? (match t with
      | none => [0]
      | some t => 1 :: encodeTimestamp t) := by
  cases t with
  | none => exact (needs_number 1 0).before _
  | some t =>
    have tag (rest : Bytes) : number 1 (littleEndian 1 1 ++ rest) = .ok (1, rest) :=
      number_littleEndian 1 (by decide)
    exact (needs_number 1 1).bind tag ((needs_timestamp t).before _)

theorem needs_element {e : Element} (writable : Writable e) : Needs element (encodeElement e) := by
  have kind {n : Nat} (small : n < 2) (rest : Bytes) : number 4 (littleEndian 4 n ++ rest) = .ok (n, rest) :=
    number_littleEndian 4 (Nat.lt_of_lt_of_le small (by decide))
  cases e with
  | watermark t => exact (needs_number 4 1).bind (kind (by decide)) ((needs_timestamp t).before _)
  | record r =>
    rw [encodeElement, List.append_assoc]
    refine (needs_number 4 0).bind (kind (by decide)) ?_
    exact (needs_text writable).bind (fun _ => text_encodeText writable) ((needs_timestamp? r.timestamp).before _)

theorem needs_elements {es : List Element} (writable : ∀ e ∈ es, Writable e) :
    Needs (elements es.length) (es.flatMap encodeElement) := by
  induction es with
  | nil => exact fun part cut short => absurd (List.prefix_nil.1 cut) short
  | cons e es ih =>
    obtain ⟨first, later⟩ := List.forall_mem_cons.1 writable
    rw [List.flatMap_cons]
    exact (needs_element first).bind (fun _ => element_encodeElement first) ((ih later).before _)

theorem needs_decode {es : List Element} (held : Storable es) : Needs decode (encode es) :=
  (needs_number 8 es.length).bind (fun _ => number_littleEndian 8 held.few) ((needs_elements held.writable).before _)

/-! ## Restoring -/

/-- No stage is built from a snapshot that cannot be read, whatever the configuration. -/
theorem restore_of_unread {part : Bytes} {error : DecodeError} (unread : decode part = .error error) (b : Builder)
    (now : Instant) (around : Nat → Interference) :
    b.restore now part around = .refused (.recovery (.decoding error)) := by
  rw [Builder.restore, unread]

/-- Waking more often does not help where the answer is always the same. -/
theorem patiently_const {α : Type} (goesOn : α → Bool) (answer : α) (wakes doublings : Nat) :
    Scenario.Scene.patiently goesOn (fun _ => answer) wakes doublings = answer := by
  induction doublings generalizing wakes with
  | zero => rfl
  | succ doublings ih => simp only [Scenario.Scene.patiently, ih, ite_self]

open Scenario in
/-- In a scenario the stage before it is gone, and nothing is called or emitted in its place. -/
theorem perform_restore_of_unread {part : Bytes} {error : DecodeError} (unread : decode part = .error error)
    (s : Scene) (config : Config) :
    s.perform (.restore (some part) (some (some config)) {}) =
      (.failed (.recovery (.decoding error)), s.dropStage.beginStage) := by
  simp only [Scene.perform, Scene.rebuild, List.foldlM_nil, Option.getD_some, restore_of_unread unread,
    patiently_const, pure]

/-- **A snapshot that was cut off is never accepted.** Any beginning of a snapshot that is not the
whole is too short, the empty one as well, and nothing else is wrong with it. So no stage is
restored from it, whatever the configuration, the clock and the other threads: the answer tells
that the snapshot could not be read, and what a scenario is left with has made no call and has
emitted nothing. -/
theorem truncated_snapshot {es : List Element} (held : Storable es) {part : Bytes} (cut : part <+: encode es)
    (short : part ≠ encode es) :
    decode part = .error .inputTooShort ∧
      (∀ (b : Builder) (now : Instant) (around : Nat → Interference),
        b.restore now part around = .refused (.recovery (.decoding .inputTooShort))) ∧
      ∀ (s : Scenario.Scene) (config : Config),
        s.perform (.restore (some part) (some (some config)) {}) =
          (.failed (.recovery (.decoding .inputTooShort)), s.dropStage.beginStage) := by
  have unread : decode part = .error .inputTooShort := needs_decode held part cut short
  exact ⟨unread, restore_of_unread unread, perform_restore_of_unread unread⟩

/-- Cut inside a character of the first text. -/
theorem truncated_snapshot_remoteTimes :
    String.fromUTF8? ((((encode remoteTimes).take 23).drop 20).toByteArray) = none ∧
      decode ((encode remoteTimes).take 23) = .error .inputTooShort := by
  have held : Storable remoteTimes := ⟨by decide, by decide⟩
  have short : (encode remoteTimes).take 23 ≠ encode remoteTimes := by decide +kernel
  exact ⟨by decide +kernel, (truncated_snapshot held (List.take_prefix 23 _) short).1⟩

end AsyncStage.Snapshot
