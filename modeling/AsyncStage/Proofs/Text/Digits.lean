import AsyncStage.Text.Blank
import AsyncStage.Text.Digits
import Mathlib.Algebra.Order.Group.Nat

/-!
# Numbers and their digits

`ofDigits` reads back what `digits` and `padded` write, which are digits only and as many as
the number needs.
-/

namespace AsyncStage.Text

theorem toNat_digitChar {d : Nat} (small : d < 10) : (digitChar d).toNat = 48 + d := by
  have valid : (48 + d).isValidChar := by
    left
    omega
  rw [digitChar, Char.ofNat, dif_pos valid]
  rfl

theorem digitValue?_digitChar {d : Nat} (small : d < 10) : digitValue? (digitChar d) = some d := by
  have value := toNat_digitChar small
  have low : '0' ≤ digitChar d := by
    refine Char.le_def.2 (UInt32.le_iff_toNat_le.2 ?_)
    change 48 ≤ (digitChar d).toNat
    omega
  have high : digitChar d ≤ '9' := by
    refine Char.le_def.2 (UInt32.le_iff_toNat_le.2 ?_)
    change (digitChar d).toNat ≤ 57
    omega
  rw [digitValue?, if_pos ⟨low, high⟩, value, Nat.add_sub_cancel_left]

theorem isDigit_digitChar {d : Nat} (small : d < 10) : isDigit (digitChar d) = true := by
  rw [isDigit, digitValue?_digitChar small, Option.isSome_some]

/-- A digit is not blank. -/
theorem isBlank_of_isDigit {c : Char} (digit : isDigit c = true) : isBlank c = false := by
  obtain ⟨low, high⟩ : '0' ≤ c ∧ c ≤ '9' := by
    by_contra other
    rw [isDigit, digitValue?, if_neg other, Option.isSome_none] at digit
    cases digit
  have low : 48 ≤ c.toNat := UInt32.le_iff_toNat_le.1 (Char.le_def.1 low)
  have high : c.toNat ≤ 57 := UInt32.le_iff_toNat_le.1 (Char.le_def.1 high)
  simp only [isBlank, Bool.or_eq_false_iff, Bool.and_eq_false_iff, decide_eq_false_iff_not, beq_eq_false_iff_ne]
  omega

theorem ofDigits_append (cs ds : List Char) :
    ofDigits (cs ++ ds) = ds.foldl (fun n c => 10 * n + (digitValue? c).getD 0) (ofDigits cs) := List.foldl_append

/-! ## Digits without leading zeros -/

theorem digits_of_lt {n : Nat} (small : n < 10) : digits n = [digitChar n] := by
  rw [digits, if_pos small]

theorem digits_of_le {n : Nat} (large : 10 ≤ n) : digits n = digits (n / 10) ++ [digitChar (n % 10)] := by
  rw [digits, if_neg (Nat.not_lt.2 large)]

theorem isDigit_of_mem_digits (n : Nat) : ∀ c ∈ digits n, isDigit c = true := by
  induction n using digits.induct with
  | case1 n small =>
    rw [digits_of_lt small]
    simpa using isDigit_digitChar small
  | case2 n large ih =>
    rw [digits_of_le (Nat.not_lt.1 large)]
    intro c hc
    rcases List.mem_append.1 hc with left | last
    · exact ih c left
    · rw [List.mem_singleton.1 last]
      exact isDigit_digitChar (Nat.mod_lt n (by omega))

theorem ofDigits_digits (n : Nat) : ofDigits (digits n) = n := by
  induction n using digits.induct with
  | case1 n small => simp [digits_of_lt small, ofDigits, digitValue?_digitChar small]
  | case2 n large ih =>
    rw [digits_of_le (Nat.not_lt.1 large), ofDigits_append, ih]
    simp only [List.foldl_cons, List.foldl_nil, digitValue?_digitChar (Nat.mod_lt n (show 10 > 0 by omega)),
      Option.getD_some]
    omega

/-- Only zero is written with a zero in front. -/
theorem head?_digits_ne_zero {n : Nat} (positive : 0 < n) : (digits n).head? ≠ some '0' := by
  induction n using digits.induct with
  | case1 n small =>
    rw [digits_of_lt small, List.head?_cons, ne_eq, Option.some.injEq]
    intro zero
    have value := digitValue?_digitChar small
    rw [zero] at value
    cases value
    cases positive
  | case2 n large ih =>
    have shorter := ih (by omega)
    rw [digits_of_le (Nat.not_lt.1 large), List.head?_append]
    cases first : (digits (n / 10)).head? with
    | none => exact absurd first (by rw [digits]; split <;> simp)
    | some c => rwa [first] at shorter

theorem length_digits_pos (n : Nat) : 0 < (digits n).length := by
  rw [digits]
  split <;> simp

theorem length_digits_le {n width : Nat} (positive : 0 < width) (small : n < 10 ^ width) :
    (digits n).length ≤ width := by
  induction n using digits.induct generalizing width with
  | case1 n single =>
    rw [digits_of_lt single]
    exact positive
  | case2 n large ih =>
    have large := Nat.not_lt.1 large
    obtain ⟨rest, rfl⟩ : ∃ rest, width = rest + 1 := ⟨width - 1, by omega⟩
    have more : 0 < rest := by
      apply Nat.pos_of_ne_zero
      intro none
      rw [none] at small
      omega
    rw [digits_of_le large, List.length_append, List.length_singleton]
    rw [Nat.pow_succ] at small
    exact Nat.succ_le_succ (ih more (by omega))

/-! ## Digits after zeros -/

theorem isDigit_of_mem_padded (width n : Nat) : ∀ c ∈ padded width n, isDigit c = true := by
  intro c hc
  rcases List.mem_append.1 hc with zero | digit
  · rw [List.eq_of_mem_replicate zero]
    rfl
  · exact isDigit_of_mem_digits n c digit

theorem ofDigits_padded (width n : Nat) : ofDigits (padded width n) = n := by
  have zeros : ∀ k, ofDigits (List.replicate k '0') = 0 := by
    intro k
    induction k with
    | zero => rfl
    | succ k ih =>
      rw [List.replicate_succ', ofDigits_append, ih]
      rfl
  have digits := ofDigits_digits n
  rw [padded, ofDigits_append, zeros]
  exact digits

theorem length_padded {n width : Nat} (positive : 0 < width) (small : n < 10 ^ width) :
    (padded width n).length = width := by
  have few := length_digits_le positive small
  rw [padded, List.length_append, List.length_replicate]
  omega

theorem length_padded_le {n width most : Nat} (positive : 0 < most) (wide : width ≤ most) (small : n < 10 ^ most) :
    (padded width n).length ≤ most := by
  have few := length_digits_le positive small
  rw [padded, List.length_append, List.length_replicate]
  omega

theorem padded_ne_nil (width n : Nat) : padded width n ≠ [] := by
  have some' := length_digits_pos n
  intro none
  rw [padded, List.append_eq_nil_iff] at none
  rw [none.2] at some'
  cases some'

end AsyncStage.Text
