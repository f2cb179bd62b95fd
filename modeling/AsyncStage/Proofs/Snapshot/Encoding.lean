import AsyncStage.Proofs.Time.TimestampText
import AsyncStage.Snapshot.Encoding

/-!
# Snapshots are read back

Each reader takes exactly what the corresponding writer wrote and leaves what stands behind
it, so a snapshot gives the elements again that it was made of. Counts and lengths are written
in eight bytes, which is what bounds a text here: no machine holds a longer one.
-/

namespace AsyncStage.Snapshot

/-- Whether the length of a text can be written in eight bytes. -/
def Fits (s : String) : Prop := s.utf8ByteSize < 2 ^ 64

/-- Whether the texts of an element can be written. -/
def Writable : Element → Prop
  | .record r => Fits r.value
  | .watermark _ => True

instance (e : Element) : Decidable (Writable e) :=
  match e with
  | .record r => inferInstanceAs (Decidable (r.value.utf8ByteSize < 2 ^ 64))
  | .watermark _ => .isTrue trivial

variable {rest : Bytes}

/-! ## Numbers -/

theorem length_littleEndian (width n : Nat) : (littleEndian width n).length = width := by
  induction width generalizing n with
  | zero => rfl
  | succ width ih => rw [littleEndian, List.length_cons, ih]

theorem ofLittleEndian_littleEndian {width n : Nat} (small : n < 256 ^ width) :
    ofLittleEndian (littleEndian width n) = n := by
  induction width generalizing n with
  | zero =>
    rw [Nat.pow_zero, Nat.lt_one_iff] at small
    rw [small]
    rfl
  | succ width ih =>
    rw [Nat.pow_succ] at small
    rw [littleEndian, ofLittleEndian, ih (by omega), UInt8.toNat_ofNat']
    omega

theorem take_append (bytes rest : Bytes) : take bytes.length (bytes ++ rest) = .ok (bytes, rest) := by
  rw [take, if_neg (by simp), List.take_left, List.drop_left]

theorem number_littleEndian (width : Nat) {n : Nat} (small : n < 256 ^ width) :
    number width (littleEndian width n ++ rest) = .ok (n, rest) := by
  have taken := take_append (littleEndian width n) rest
  rw [length_littleEndian] at taken
  simp only [number, taken, bind, Except.bind, pure, Except.pure, ofLittleEndian_littleEndian small]

/-! ## Texts -/

theorem toList_loop (bytes : ByteArray) (i : Nat) (taken : List UInt8) :
    ByteArray.toList.loop bytes i taken = taken.reverse ++ bytes.data.toList.drop i := by
  fun_induction ByteArray.toList.loop bytes i taken with
  | case1 i taken inside ih =>
    have next : bytes.data.toList.drop i = bytes.get! i :: bytes.data.toList.drop (i + 1) := by
      rw [List.drop_eq_getElem_cons (by rw [Array.length_toList]; exact inside), Array.getElem_toList]
      exact congrArg (· :: _) (getElem!_pos bytes.data i inside).symm
    rw [ih, next, List.reverse_cons, List.append_assoc, List.singleton_append]
  | case2 i taken outside =>
    rw [List.drop_eq_nil_of_le (by rw [Array.length_toList]; exact Nat.not_lt.1 outside), List.append_nil]

theorem toList_eq (bytes : ByteArray) : bytes.toList = bytes.data.toList := toList_loop bytes 0 []

theorem fromUTF8?_toList (s : String) : String.fromUTF8? s.toUTF8.toList.toByteArray = some s := by
  have same : s.toUTF8.toList.toByteArray = s.toByteArray := by
    rw [toList_eq]
    exact ByteArray.ext (by rw [List.data_toByteArray, Array.toArray_toList]; rfl)
  rw [same, String.fromUTF8?, dif_pos s.isValidUTF8]
  rfl

theorem length_toUTF8 (s : String) : s.toUTF8.toList.length = s.utf8ByteSize := by
  rw [toList_eq, Array.length_toList]
  rfl

theorem text_encodeText {s : String} (fits : Fits s) : text (encodeText s ++ rest) = .ok (s, rest) := by
  have taken := take_append s.toUTF8.toList rest
  rw [length_toUTF8] at taken
  simp only [text, encodeText, List.append_assoc, number_littleEndian 8 fits, taken, fromUTF8?_toList,
    bind, Except.bind, pure, Except.pure]

/-! ## Event times -/

theorem utf8ByteSize_ofList_le (cs : List Char) : (String.ofList cs).utf8ByteSize ≤ 4 * cs.length := by
  induction cs with
  | nil => exact Nat.le_refl 0
  | cons c cs ih =>
    have first := c.utf8Size_le_four
    rw [← List.singleton_append, String.ofList_append, String.utf8ByteSize_append, List.length_append,
      List.length_singleton, show String.ofList [c] = String.singleton c from rfl, String.utf8ByteSize_singleton]
    omega

theorem fits_text (t : Timestamp) : Fits t.text := by
  have size := utf8ByteSize_ofList_le t.chars
  have few := t.length_chars_le
  rw [Fits, Timestamp.text]
  omega

theorem timestamp_encodeTimestamp (t : Timestamp) : timestamp (encodeTimestamp t ++ rest) = .ok (t, rest) := by
  simp only [timestamp, encodeTimestamp, text_encodeText (fits_text t), Timestamp.ofText?_text, bind, Except.bind,
    pure, Except.pure]

/-! ## Elements -/

theorem element_encodeElement {e : Element} (writable : Writable e) :
    element (encodeElement e ++ rest) = .ok (e, rest) := by
  have kind : ∀ n < 2, ∀ bytes, number 4 (littleEndian 4 n ++ bytes) = .ok (n, bytes) := fun n small bytes =>
    number_littleEndian 4 (Nat.lt_of_lt_of_le small (by decide))
  cases e with
  | watermark t =>
    simp only [element, encodeElement, List.append_assoc, kind 1 (by decide), timestamp_encodeTimestamp, bind,
      Except.bind, pure, Except.pure]
  | record r =>
    obtain ⟨value, time⟩ := r
    have absent : ∀ bytes, number 1 (0 :: bytes) = .ok (0, bytes) := fun bytes =>
      number_littleEndian 1 (show 0 < 256 ^ 1 by decide)
    have present : ∀ bytes, number 1 (1 :: bytes) = .ok (1, bytes) := fun bytes =>
      number_littleEndian 1 (show 1 < 256 ^ 1 by decide)
    cases time with
    | none =>
      simp only [element, encodeElement, List.append_assoc, kind 0 (by decide), text_encodeText writable,
        timestamp?, List.cons_append, List.nil_append, absent, bind, Except.bind, pure, Except.pure]
    | some t =>
      simp only [element, encodeElement, List.append_assoc, kind 0 (by decide), text_encodeText writable,
        timestamp?, List.cons_append, present, timestamp_encodeTimestamp, bind, Except.bind, pure,
        Except.pure]

theorem elements_encode {es : List Element} (writable : ∀ e ∈ es, Writable e) (rest : Bytes) :
    elements es.length (es.flatMap encodeElement ++ rest) = .ok (es, rest) := by
  induction es with
  | nil => rfl
  | cons e es ih =>
    obtain ⟨first, later⟩ := List.forall_mem_cons.1 writable
    simp only [elements, List.length_cons, List.flatMap_cons, List.append_assoc, element_encodeElement first,
      ih later, bind, Except.bind, pure, Except.pure]

/-- A snapshot is read back, and what stands behind it is ignored. -/
theorem decode_encode_append {es : List Element} (few : es.length < 2 ^ 64) (writable : ∀ e ∈ es, Writable e)
    (rest : Bytes) : decode (encode es ++ rest) = .ok es := by
  simp only [decode, encode, List.append_assoc, number_littleEndian 8 few, elements_encode writable rest, bind,
    Except.bind, pure, Except.pure]

/-- **A snapshot is read back.** -/
theorem decode_encode {es : List Element} (few : es.length < 2 ^ 64) (writable : ∀ e ∈ es, Writable e) :
    decode (encode es) = .ok es := by
  have read := decode_encode_append few writable []
  rwa [List.append_nil] at read

/-! ## Snapshots and what stands behind them -/

/-- What a machine can hold: its counts and lengths can be written in eight bytes. -/
structure Storable (es : List Element) : Prop where
  few : es.length < 2 ^ 64
  writable : ∀ e ∈ es, Writable e

/-- The first and the last event time there is, and one shortly before the first year. -/
def remoteTimes : List Element :=
  [.record ⟨"naïve 🚀", some ⟨-8334601228800, 0, by decide, by decide, by decide⟩⟩, .record ⟨"", none⟩,
    .watermark ⟨8210266876799, 999999999, by decide, by decide, by decide⟩,
    .watermark ⟨-62167219201, 250000000, by decide, by decide, by decide⟩]

/-- **A snapshot is read back whatever stands behind it.** So different elements are never written
alike, and no snapshot is the beginning of another. -/
theorem snapshot_reads_back {es : List Element} (held : Storable es) :
    (∀ rest, decode (encode es ++ rest) = .ok es) ∧
      ∀ es', Storable es' → ∀ rest rest', encode es ++ rest = encode es' ++ rest' → es = es' ∧ rest = rest' := by
  refine ⟨decode_encode_append held.few held.writable, ?_⟩
  intro es' held' rest rest' alike
  have read : decode (encode es ++ rest) = decode (encode es' ++ rest') := congrArg decode alike
  rw [decode_encode_append held.few held.writable, decode_encode_append held'.few held'.writable] at read
  obtain rfl := Except.ok.inj read
  exact ⟨rfl, List.append_cancel_left alike⟩

theorem snapshot_reads_back_remoteTimes : Storable remoteTimes ∧ decode (encode remoteTimes ++ [1, 2, 3]) = .ok remoteTimes ∧
    (remoteTimes.filterMap fun e => match e with
      | .record r => r.timestamp.map Timestamp.text
      | .watermark t => some t.text) =
      ["-262143-01-01T00:00:00Z", "+262142-12-31T23:59:59.999999999Z", "-0001-12-31T23:59:59.250Z"] := by
  have held : Storable remoteTimes := ⟨by decide, by decide⟩
  exact ⟨held, (snapshot_reads_back held).1 [1, 2, 3], by decide +kernel⟩

end AsyncStage.Snapshot
