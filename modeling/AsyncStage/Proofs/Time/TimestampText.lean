import AsyncStage.Proofs.Text.Digits
import AsyncStage.Proofs.Time.Calendar
import AsyncStage.Time.TimestampText

/-!
# Event times are read back

Reading the text of an event time gives the event time again. Each reader below takes exactly
what the corresponding part of the text is and leaves what stands behind it.
-/

namespace AsyncStage.Timestamp

open Text

variable {ds rest : List Char}

/-! ## Parts -/

/-- A run of digits is read up to its end, or as far as the reader goes. -/
theorem takeWhile_digits {most : Nat} (digits : ∀ c ∈ ds, isDigit c = true) (fits : ds.length ≤ most)
    (ends : ds.length = most ∨ ∀ c ∈ rest.head?, isDigit c = false) :
    ((ds ++ rest).take most).takeWhile isDigit = ds := by
  rw [List.take_append, List.take_of_length_le fits, List.takeWhile_append_of_pos digits]
  refine (congrArg (ds ++ ·) ?_).trans (List.append_nil ds)
  rcases ends with whole | stop
  · rw [whole, Nat.sub_self, List.take_zero, List.takeWhile_nil]
  · cases rest with
    | nil => rw [List.take_nil, List.takeWhile_nil]
    | cons c rest =>
      cases most - ds.length with
      | zero => rfl
      | succ n => rw [List.take_succ_cons, List.takeWhile_cons_of_neg (by simp [stop c rfl])]

theorem readNumber_digits {most : Nat} (digits : ∀ c ∈ ds, isDigit c = true) (nonempty : ds ≠ [])
    (fits : ds.length ≤ most) (ends : ds.length = most ∨ ∀ c ∈ rest.head?, isDigit c = false) :
    readNumber most (ds ++ rest) = some (ofDigits ds, rest) := by
  unfold readNumber
  simp only [takeWhile_digits digits fits ends, List.isEmpty_iff, nonempty, if_false, List.drop_left]

/-- There are no blanks before a digit. -/
theorem skipBlanks_digits (digits : ∀ c ∈ ds, isDigit c = true) (nonempty : ds ≠ []) :
    skipBlanks (ds ++ rest) = ds ++ rest := by
  cases ds with
  | nil => exact absurd rfl nonempty
  | cons c ds =>
    have digit := isBlank_of_isDigit (digits c List.mem_cons_self)
    rw [skipBlanks, List.cons_append, List.dropWhile_cons_of_neg (by simp [digit])]

theorem readField_padded {n : Nat} (small : n < 100) : readField (padded 2 n ++ rest) = some (n, rest) := by
  have digits := isDigit_of_mem_padded 2 n
  have nonempty := padded_ne_nil 2 n
  have length : (padded 2 n).length = 2 := length_padded (by omega) small
  rw [readField, skipBlanks_digits digits nonempty, readNumber_digits digits nonempty length.le (.inl length),
    ofDigits_padded]

theorem readSeparator_cons {c : Char} (solid : isBlank c = false) : readSeparator c (c :: rest) = some rest := by
  rw [readSeparator, skipBlanks, List.dropWhile_cons_of_neg (by simp [solid])]
  exact if_pos rfl

/-- A year without a sign has four digits. -/
theorem readYear_digits (digits : ∀ c ∈ ds, isDigit c = true) (length : ds.length = 4) :
    readYear (ds ++ rest) = some ((ofDigits ds : Int), rest) := by
  have nonempty : ds ≠ [] := fun none => by simp [none] at length
  rw [readYear, skipBlanks_digits digits nonempty]
  have number : readNumber 4 (ds ++ rest) = _ := readNumber_digits digits nonempty length.le (.inl length)
  split
  next minus =>
    obtain ⟨c, ds, rfl⟩ := List.exists_cons_of_ne_nil nonempty
    cases minus
    exact absurd (digits '-' List.mem_cons_self) (by decide)
  next plus =>
    obtain ⟨c, ds, rfl⟩ := List.exists_cons_of_ne_nil nonempty
    cases plus
    exact absurd (digits '+' List.mem_cons_self) (by decide)
  next => rw [number, Option.map_some]

/-- A year with a sign has any number of digits. -/
theorem readNumber_year (n : Nat) (rest : List Char) : readNumber (padded 4 n ++ '-' :: rest).length (padded 4 n ++ '-' :: rest) =
    some (n, '-' :: rest) := by
  have fits : (padded 4 n).length ≤ (padded 4 n ++ '-' :: rest).length := by
    rw [List.length_append]
    exact Nat.le_add_right _ _
  have stop : ∀ c ∈ ('-' :: rest).head?, isDigit c = false := by
    rintro c ⟨⟩
    rfl
  rw [readNumber_digits (isDigit_of_mem_padded 4 n) (padded_ne_nil 4 n) fits (.inr stop), ofDigits_padded]

theorem readYear_yearText (year : Int) : readYear (yearText year ++ '-' :: rest) = some (year, '-' :: rest) := by
  unfold yearText
  split
  next common =>
    rw [readYear_digits (isDigit_of_mem_padded 4 _) (length_padded (by omega) (by omega)), ofDigits_padded,
      Int.toNat_of_nonneg common.1]
  next uncommon =>
    have read := readNumber_year year.natAbs rest
    by_cases negative : year < 0
    · have same : -(year.natAbs : Int) = year := by omega
      rw [if_pos negative]
      exact (congrArg (Option.map _) read).trans (congrArg (fun y => some (y, '-' :: rest)) same)
    · have same : (year.natAbs : Int) = year := by omega
      rw [if_neg negative]
      exact (congrArg (Option.map _) read).trans (congrArg (fun y => some (y, '-' :: rest)) same)

theorem readDate_text {date : Date} (valid : date.isValid = true) :
    readDate (yearText date.year ++ '-' :: (padded 2 date.month ++ '-' :: (padded 2 date.day ++ rest))) =
      some (date, rest) := by
  simp only [Date.isValid, Bool.and_eq_true, decide_eq_true_eq] at valid
  obtain ⟨⟨⟨-, month⟩, -⟩, day⟩ := valid
  have days := Date.daysInMonth_le date.year date.month
  simp only [readDate, readYear_yearText, readSeparator_cons (show isBlank '-' = false by decide),
    readField_padded (show date.month < 100 by omega), readField_padded (show date.day < 100 by omega),
    Option.bind_eq_bind, Option.bind_some, Option.pure_def]

/-- A fraction is read as far as it has digits. -/
theorem readFraction_digits {width : Nat} (digits : ∀ c ∈ ds, isDigit c = true) (nonempty : ds ≠ [])
    (length : ds.length = width) (fits : width ≤ 9) :
    readFraction ('.' :: (ds ++ 'Z' :: rest)) = some (ofDigits ds * 10 ^ (9 - width), 'Z' :: rest) := by
  have stop : ∀ c ∈ ('Z' :: rest).head?, isDigit c = false := by
    rintro c ⟨⟩
    rfl
  subst length
  simp only [readFraction, takeWhile_digits digits fits (.inr stop), List.isEmpty_iff, nonempty, if_false,
    List.drop_left]
  rfl

theorem readFraction_text {nanos : Nat} (small : nanos < 1000000000) :
    readFraction (fractionText nanos ++ 'Z' :: rest) = some (nanos, 'Z' :: rest) := by
  have read : ∀ width n, 0 < width → width ≤ 9 → n < 10 ^ width → n * 10 ^ (9 - width) = nanos →
      readFraction ('.' :: padded width n ++ 'Z' :: rest) = some (nanos, 'Z' :: rest) := by
    intro width n positive fits few exact'
    have length : (padded width n).length = width := length_padded positive few
    rw [← exact', List.cons_append, readFraction_digits (isDigit_of_mem_padded width n) (padded_ne_nil width n)
      length fits, ofDigits_padded]
  unfold fractionText
  split
  next none => rw [none]; rfl
  next =>
    split
    · exact read 3 _ (by omega) (by omega) (by omega) (by omega)
    · split
      · exact read 6 _ (by omega) (by omega) (by omega) (by omega)
      · exact read 9 _ (by omega) (by omega) (by omega) (by omega)

theorem readTime_text {hour minute second nanos : Nat} (hours : hour ≤ 23) (minutes : minute ≤ 59)
    (seconds : second ≤ 60) (small : nanos < 1000000000) :
    readTime (padded 2 hour ++ ':' :: (padded 2 minute ++ ':' :: (padded 2 second ++
      (fractionText nanos ++ 'Z' :: rest)))) = some ((hour, minute, second, nanos), 'Z' :: rest) := by
  simp only [readTime, readField_padded (show hour < 100 by omega), readField_padded (show minute < 100 by omega),
    readField_padded (show second < 100 by omega), readSeparator_cons (show isBlank ':' = false by decide),
    readFraction_text small, Option.bind_eq_bind, Option.bind_some, Option.pure_def]
  exact if_pos ⟨hours, minutes, seconds⟩

/-! ## The whole text -/

theorem ofUnix?_eq (t : Timestamp) : ofUnix? t.secs t.nanos = some t :=
  dif_pos ⟨⟨t.earliest_le, t.le_latest⟩, t.nanos_lt⟩

/-- An event time in its parts: the second of the day, and the nanoseconds without those of a
leap second. -/
theorem ofLocal?_parts (t : Timestamp) :
    ofLocal? (Date.ofDays (t.secs / 86400)) ((t.secs % 86400).toNat / 3600) ((t.secs % 86400).toNat / 60 % 60)
      ((t.secs % 86400).toNat % 60 + if 1000000000 ≤ t.nanos then 1 else 0)
      (if 1000000000 ≤ t.nanos then t.nanos - 1000000000 else t.nanos) 0 = some t := by
  have low := t.earliest_le
  have high := t.le_latest
  have nanos := t.nanos_lt
  have start : ofUnix? (t.secs / 86400 * 86400) 0 =
      some ⟨t.secs / 86400 * 86400, 0, by omega, by omega, .inl (by omega)⟩ :=
    dif_pos ⟨⟨by omega, by omega⟩, .inl (by omega)⟩
  simp only [ofLocal?, Date.isValid_ofDays, Bool.not_true, Bool.false_eq_true, if_false, Date.toDays_ofDays, start,
    Option.bind_eq_bind, Option.bind_some]
  rw [← ofUnix?_eq t]
  by_cases leap : 1000000000 ≤ t.nanos
  · simp only [leap, if_true]
    congr 1
    · omega
    · rw [if_pos (by omega)]
      omega
  · simp only [leap, if_false, Nat.add_zero]
    congr 1
    · omega
    · rw [if_neg (by omega)]

/-- **Event times are read back.** -/
theorem ofText?_text (t : Timestamp) : ofText? t.text = some t := by
  have nanos := t.nanos_lt
  have small : (if 1000000000 ≤ t.nanos then t.nanos - 1000000000 else t.nanos) < 1000000000 := by
    split <;> omega
  have seconds : (t.secs % 86400).toNat % 60 + (if 1000000000 ≤ t.nanos then 1 else 0) ≤ 60 := by
    split <;> omega
  rw [ofText?, text, String.toList_ofList, chars]
  simp only [List.append_assoc, List.cons_append]
  simp only [ofChars?, readDate_text (Date.isValid_ofDays _), Option.bind_eq_bind, Option.bind_some]
  rw [readTime_text (by omega) (by omega) seconds small]
  exact ofLocal?_parts t

/-! ## Its length -/

theorem length_yearText_le {year : Int} (few : year.natAbs < 10 ^ 6) : (yearText year).length ≤ 7 := by
  unfold yearText
  split
  next common =>
    exact Nat.le_succ_of_le (length_padded_le (by omega) (by omega) (show year.toNat < 10 ^ 6 by omega))
  next => exact Nat.succ_le_succ (length_padded_le (by omega) (by omega) few)

theorem length_fractionText_le {nanos : Nat} (small : nanos < 1000000000) : (fractionText nanos).length ≤ 10 := by
  have fits : ∀ width n, width ≤ 9 → n < 10 ^ 9 → ('.' :: padded width n).length ≤ 10 := fun width n wide few =>
    Nat.succ_le_succ (length_padded_le (by omega) wide few)
  unfold fractionText
  split
  · exact Nat.zero_le _
  · split
    · exact fits _ _ (by omega) (by omega)
    · split
      · exact fits _ _ (by omega) (by omega)
      · exact fits _ _ (by omega) small

theorem length_chars_le (t : Timestamp) : t.chars.length ≤ 34 := by
  have low := t.earliest_le
  have high := t.le_latest
  have nanos := t.nanos_lt
  have valid := Date.isValid_ofDays (t.secs / 86400)
  simp only [Date.isValid, Bool.and_eq_true, decide_eq_true_eq] at valid
  obtain ⟨⟨⟨-, month⟩, -⟩, day⟩ := valid
  have days := Date.daysInMonth_le (Date.ofDays (t.secs / 86400)).year (Date.ofDays (t.secs / 86400)).month
  have year := length_yearText_le (Date.natAbs_year_lt (show -100000000 ≤ t.secs / 86400 by omega) (by omega))
  have small : (if 1000000000 ≤ t.nanos then t.nanos - 1000000000 else t.nanos) < 1000000000 := by
    split <;> omega
  have fraction := length_fractionText_le small
  have field : ∀ n < 100, (padded 2 n).length = 2 := fun n few => length_padded (by omega) few
  have seconds : (t.secs % 86400).toNat % 60 + (if 1000000000 ≤ t.nanos then 1 else 0) < 100 := by
    split <;> omega
  simp only [chars, List.length_append, List.length_cons, List.length_nil, field _ seconds,
    field _ (show (Date.ofDays (t.secs / 86400)).month < 100 by omega),
    field _ (show (Date.ofDays (t.secs / 86400)).day < 100 by omega),
    field _ (show (t.secs % 86400).toNat / 3600 < 100 by omega),
    field _ (show (t.secs % 86400).toNat / 60 % 60 < 100 by omega)]
  omega

end AsyncStage.Timestamp
