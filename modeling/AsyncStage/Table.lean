/-!
# Finite maps with increasing keys

A `Table` keeps its pairs in a list with strictly increasing keys, so two tables that
hold the same pairs are the same value, and the first pair is the one with the least key.
Each operation is described by its effect on `toList` or on `get?`.
-/

namespace AsyncStage

/-- The pairs of a finite map, listed by strictly increasing key. -/
structure Table (α β : Type) [Ord α] where
  toList : List (α × β)
  increasing : toList.Pairwise (fun a b => compare a.1 b.1 = .lt)

namespace Table

variable {α β : Type} [Ord α]

theorem ext {s t : Table α β} (h : s.toList = t.toList) : s = t := by
  cases s; cases t; simp_all

instance [DecidableEq α] [DecidableEq β] : DecidableEq (Table α β) := fun s t =>
  if h : s.toList = t.toList then isTrue (ext h) else isFalse fun e => h (e ▸ rfl)

/-- The map without pairs. -/
def empty : Table α β := ⟨[], List.Pairwise.nil⟩

instance : Inhabited (Table α β) := ⟨empty⟩

def size (t : Table α β) : Nat := t.toList.length

def isEmpty (t : Table α β) : Bool := t.toList.isEmpty

def keys (t : Table α β) : List α := t.toList.map (·.1)

def values (t : Table α β) : List β := t.toList.map (·.2)

/-- The value at key `k`. -/
def get? (t : Table α β) (k : α) : Option β :=
  (t.toList.find? fun p => compare p.1 k == .eq).map (·.2)

def contains (t : Table α β) (k : α) : Bool := (t.get? k).isSome

/-- The pair with the least key. -/
def first? (t : Table α β) : Option (α × β) := t.toList.head?

/-- The pair with the greatest key. -/
def last? (t : Table α β) : Option (α × β) := t.toList.getLast?

/-- Keeps the pairs whose key satisfies `p`. -/
def filterKeys (t : Table α β) (p : α → Bool) : Table α β :=
  ⟨t.toList.filter fun q => p q.1, t.increasing.filter _⟩

/-- The map without a value at key `k`. -/
def erase (t : Table α β) (k : α) : Table α β := t.filterKeys fun k' => compare k' k != .eq

/-- Puts `v` at key `k` into a list of pairs with increasing keys. -/
def insertInto (k : α) (v : β) : List (α × β) → List (α × β)
  | [] => [(k, v)]
  | (k', v') :: rest =>
    match compare k k' with
    | .lt => (k, v) :: (k', v') :: rest
    | .eq => (k, v) :: rest
    | .gt => (k', v') :: insertInto k v rest

theorem mem_insertInto {k : α} {v : β} {l : List (α × β)} {p : α × β}
    (h : p ∈ insertInto k v l) : p = (k, v) ∨ p ∈ l := by
  induction l with
  | nil => simpa [insertInto] using h
  | cons q rest ih =>
    obtain ⟨k', v'⟩ := q
    unfold insertInto at h
    split at h <;> grind

theorem insertInto_increasing [Std.TransOrd α] {k : α} {v : β} {l : List (α × β)}
    (h : l.Pairwise (fun a b => compare a.1 b.1 = .lt)) :
    (insertInto k v l).Pairwise (fun a b => compare a.1 b.1 = .lt) := by
  induction l with
  | nil => simp [insertInto]
  | cons q rest ih =>
    obtain ⟨k', v'⟩ := q
    obtain ⟨hq, hrest⟩ := List.pairwise_cons.1 h
    unfold insertInto
    split
    next hlt =>
      refine List.pairwise_cons.2 ⟨fun p hp => ?_, h⟩
      rcases List.mem_cons.1 hp with rfl | hp
      · exact hlt
      · exact Std.TransCmp.lt_trans hlt (hq p hp)
    next heq =>
      refine List.pairwise_cons.2 ⟨fun p hp => ?_, hrest⟩
      exact Std.TransCmp.lt_of_eq_of_lt heq (hq p hp)
    next hgt =>
      refine List.pairwise_cons.2 ⟨fun p hp => ?_, ih hrest⟩
      rcases mem_insertInto hp with rfl | hp
      · exact Std.OrientedCmp.gt_iff_lt.1 hgt
      · exact hq p hp

/-- The map with value `v` at key `k`, in place of any value held there. -/
def insert [Std.TransOrd α] (t : Table α β) (k : α) (v : β) : Table α β :=
  ⟨insertInto k v t.toList, insertInto_increasing t.increasing⟩

/-- Applies `f` to the value at key `k`, if there is one. -/
def modify (t : Table α β) (k : α) (f : β → β) : Table α β where
  toList := t.toList.map fun p => (p.1, if compare p.1 k = .eq then f p.2 else p.2)
  increasing := by
    rw [List.pairwise_map]
    exact t.increasing

end Table

end AsyncStage
