import AsyncStage.Element
import AsyncStage.Error
import AsyncStage.Time.TimestampText

/-!
# The bytes of a snapshot

A snapshot lists the elements in flight. Numbers are little-endian and of fixed width: a
count of elements in eight bytes, then for each element its kind in four bytes and its
content. A text is its length in eight bytes and its UTF-8; an optional part is a byte that
tells whether it is there; an event time is its text. Bytes after the last element are
ignored.
-/

namespace AsyncStage.Snapshot

abbrev Bytes := List UInt8

/-! ## Writing -/

/-- The lowest `width` bytes of a number, the lowest first. -/
def littleEndian : (width : Nat) → Nat → Bytes
  | 0, _ => []
  | width + 1, n => UInt8.ofNat n :: littleEndian width (n / 256)

def encodeText (s : String) : Bytes :=
  littleEndian 8 s.utf8ByteSize ++ s.toUTF8.toList

def encodeTimestamp (t : Timestamp) : Bytes := encodeText t.text

def encodeElement : Element → Bytes
  | .record r =>
    littleEndian 4 0 ++ encodeText r.value ++
      (match r.timestamp with
        | none => [0]
        | some t => 1 :: encodeTimestamp t)
  | .watermark t => littleEndian 4 1 ++ encodeTimestamp t

/-- The bytes of some elements. -/
def encode (elements : List Element) : Bytes :=
  littleEndian 8 elements.length ++ elements.flatMap encodeElement

/-! ## Reading -/

/-- A reading step: what was read and the bytes behind it. -/
abbrev Reader (α : Type) := Bytes → Except DecodeError (α × Bytes)

/-- The number that some bytes denote, the lowest first. -/
def ofLittleEndian : Bytes → Nat
  | [] => 0
  | b :: bs => b.toNat + 256 * ofLittleEndian bs

/-- Takes the next `n` bytes. -/
def take (n : Nat) : Reader Bytes := fun bytes =>
  if bytes.length < n then .error .inputTooShort else .ok (bytes.take n, bytes.drop n)

def number (width : Nat) : Reader Nat := fun bytes => do
  let (bs, bytes) ← take width bytes
  pure (ofLittleEndian bs, bytes)

def text : Reader String := fun bytes => do
  let (length, bytes) ← number 8 bytes
  let (bs, bytes) ← take length bytes
  match String.fromUTF8? bs.toByteArray with
  | some s => pure (s, bytes)
  | none => .error .invalidUtf8

def timestamp : Reader Timestamp := fun bytes => do
  let (s, bytes) ← text bytes
  match Timestamp.ofText? s with
  | some t => pure (t, bytes)
  | none => .error .invalidContent

def timestamp? : Reader (Option Timestamp) := fun bytes => do
  let (tag, bytes) ← number 1 bytes
  match tag with
  | 0 => pure (none, bytes)
  | 1 =>
    let (t, bytes) ← timestamp bytes
    pure (some t, bytes)
  | _ => .error .invalidTag

def element : Reader Element := fun bytes => do
  let (kind, bytes) ← number 4 bytes
  match kind with
  | 0 =>
    let (value, bytes) ← text bytes
    let (t, bytes) ← timestamp? bytes
    pure (.record ⟨value, t⟩, bytes)
  | 1 =>
    let (t, bytes) ← timestamp bytes
    pure (.watermark t, bytes)
  | _ => .error .invalidContent

/-- Reads so many elements. -/
def elements : Nat → Reader (List Element)
  | 0, bytes => .ok ([], bytes)
  | n + 1, bytes => do
    let (e, bytes) ← element bytes
    let (es, bytes) ← elements n bytes
    pure (e :: es, bytes)

/-- The elements that a snapshot lists. -/
def decode (bytes : Bytes) : Except DecodeError (List Element) := do
  let (count, bytes) ← number 8 bytes
  let (es, _) ← elements count bytes
  pure es

end AsyncStage.Snapshot
