import AsyncStage.Json.Printer
import AsyncStage.Json.Reader
import AsyncStage.Proofs.Text.Digits

/-!
# What is written is read back

The compact form of a value is read as this value, whatever stands behind it, as long as it does not
go on with a number. So the text of a value without lone surrogates, whose numbers are written as
numbers are, gives the value back.
-/

namespace AsyncStage.Json

open Text (isDigit hexValue? digits)

/-! ## Strings -/

theorem hexValue?_hexDigit {d : Nat} (small : d < 16) : hexValue? (hexDigit d) = some d := by
  revert d
  decide

/-- The two digits of a control character. -/
theorem hexValues?_control {n : Nat} (small : n < 256) :
    hexValues? '0' '0' (hexDigit (n / 16)) (hexDigit (n % 16)) = some n := by
  have high := hexValue?_hexDigit (show n / 16 < 16 by omega)
  have low := hexValue?_hexDigit (show n % 16 < 16 by omega)
  have zero : hexValue? '0' = some 0 := rfl
  simp only [hexValues?, zero, high, low, bind, Option.bind, pure, Option.some.injEq]
  omega

theorem pushUnit_control (t : PartialText) {c : Char} (small : c.toNat < 0x20) : t.pushUnit c.toNat = t.push c := by
  rw [PartialText.pushUnit, if_neg (by omega), if_neg (by omega), Char.ofNat_toNat]

/-- A character in its written form is read as the character. -/
theorem readString_escapeChar (t : PartialText) (c : Char) (rest : List Char) :
    readString t (escapeChar c ++ rest) = readString (t.push c) rest := by
  unfold escapeChar
  split
  case h_8 c quote backslash =>
    split
    next control =>
      simp only [List.cons_append, List.nil_append]
      rw [readString, hexValues?_control (by omega)]
      simp only [pushUnit_control t control]
    next printable =>
      simp only [List.cons_append, List.nil_append]
      rw [readString.eq_def]
      split <;> simp_all
  all_goals rfl

theorem readString_escaped (cs : List Char) (t : PartialText) (rest : List Char) :
    readString t (cs.flatMap escapeChar ++ '"' :: rest) = some ((cs.foldl PartialText.push t).text?, rest) := by
  induction cs generalizing t with
  | nil => rw [List.flatMap_nil, List.nil_append, readString, List.foldl_nil]
  | cons c cs ih => rw [List.flatMap_cons, List.append_assoc, readString_escapeChar, ih, List.foldl_cons]

/-- Characters that are no surrogates make up a text. -/
theorem foldl_push (cs : List Char) (t : PartialText) (whole : t.whole = true) (alone : t.leading = none) :
    cs.foldl PartialText.push t = { chars := cs.reverse ++ t.chars } := by
  induction cs generalizing t with
  | nil =>
    obtain ⟨chars, leading, whole'⟩ := t
    obtain rfl : whole' = true := whole
    obtain rfl : leading = none := alone
    rfl
  | cons c cs ih =>
    rw [List.foldl_cons, ih (t.push c) (by simp [PartialText.push, whole, alone]) rfl]
    simp [PartialText.push]

/-- **Every text** is read as it was written. -/
theorem readString_stringChars (s : String) (rest : List Char) :
    readString {} (s.toList.flatMap escapeChar ++ '"' :: rest) = some (some s, rest) := by
  rw [readString_escaped, foldl_push s.toList {} rfl rfl]
  simp [PartialText.text?]

/-! ## Numbers -/

/-- A number that is written as the grammar has it. -/
structure Number.Proper (n : Number) : Prop where
  digits : ∀ c ∈ n.whole, isDigit c = true
  nonempty : n.whole ≠ []
  /-- A zero in front stands alone. -/
  leading : n.whole.head? = some '0' → n.whole = ['0']
  fraction : ∀ c ∈ n.fraction, isDigit c = true
  exponent : ∀ p, n.exponent = some p → p.2 ≠ [] ∧ ∀ c ∈ p.2, isDigit c = true

theorem Number.proper_ofNat (n : Nat) : (Number.ofNat n).Proper where
  digits := Text.isDigit_of_mem_digits n
  nonempty := List.length_pos_iff.1 (Text.length_digits_pos n)
  leading zero := by
    rcases Nat.eq_zero_or_pos n with rfl | positive
    · rw [Number.ofNat, Text.digits_of_lt (by omega)]
      rfl
    · exact absurd zero (Text.head?_digits_ne_zero positive)
  fraction := nofun
  exponent := nofun

/-- The text ends a number: no character that could belong to it comes first. -/
def EndsNumber (rest : List Char) : Prop :=
  ∀ c ∈ rest.head?, isDigit c = false ∧ c ≠ '.' ∧ c ≠ 'e' ∧ c ≠ 'E'

theorem endsNumber_nil : EndsNumber [] := nofun

theorem spanDigits_append {ds rest : List Char} (digits : ∀ c ∈ ds, isDigit c = true)
    (ends : ∀ c ∈ rest.head?, isDigit c = false) : spanDigits (ds ++ rest) = (ds, rest) := by
  have none : rest.takeWhile isDigit = [] ∧ rest.dropWhile isDigit = rest := by
    cases rest with
    | nil => exact ⟨rfl, rfl⟩
    | cons c rest => simp [ends c rfl]
  rw [spanDigits, List.takeWhile_append_of_pos digits, List.dropWhile_append_of_pos digits, none.1, none.2,
    List.append_nil]

theorem readWhole_append {n : Number} (proper : n.Proper) {rest : List Char}
    (ends : ∀ c ∈ rest.head?, isDigit c = false) : readWhole (n.whole ++ rest) = some (n.whole, rest) := by
  have leading := proper.leading
  have nonempty := proper.nonempty
  rw [readWhole, spanDigits_append proper.digits ends]
  generalize n.whole = ds at leading nonempty
  match ds with
  | [] => exact absurd rfl nonempty
  | d :: ds =>
    split
    next none => cases none
    next zero =>
      cases zero
      cases leading rfl
    next same =>
      cases same
      rfl

/-- The written form of the digits behind the point. -/
theorem readFraction_append {ds rest : List Char} (digits : ∀ c ∈ ds, isDigit c = true)
    (ends : ∀ c ∈ rest.head?, isDigit c = false ∧ c ≠ '.') :
    readFraction ((if ds.isEmpty then [] else '.' :: ds) ++ rest) = some (ds, rest) := by
  match ds with
  | [] =>
    unfold readFraction
    split
    next point => exact absurd rfl (ends '.' (by simp [show rest = _ from point])).2
    · rfl
  | d :: ds =>
    simp only [List.isEmpty_cons, Bool.false_eq_true, if_false, List.cons_append, readFraction]
    rw [← List.cons_append, spanDigits_append digits fun c hc => (ends c hc).1]

theorem readExponentDigits_append {negative : Bool} {ds rest : List Char} (digits : ∀ c ∈ ds, isDigit c = true)
    (nonempty : ds ≠ []) (ends : ∀ c ∈ rest.head?, isDigit c = false) :
    readExponentDigits negative (ds ++ rest) = some (some (negative, ds), rest) := by
  rw [readExponentDigits, spanDigits_append digits ends]
  cases ds with
  | nil => exact absurd rfl nonempty
  | cons d ds => rfl

/-- The written form of an exponent. -/
def exponentChars : Option (Bool × List Char) → List Char
  | none => []
  | some (negative, ds) => 'e' :: (if negative then '-' else '+') :: ds

theorem Number.chars_eq (n : Number) : n.chars = (if n.negative then ['-'] else []) ++ (n.whole ++
    ((if n.fraction.isEmpty then [] else '.' :: n.fraction) ++ exponentChars n.exponent)) := by
  unfold Number.chars exponentChars
  cases n.exponent <;> simp only [List.append_assoc]

theorem readExponent_append {exponent : Option (Bool × List Char)} {rest : List Char}
    (proper : ∀ p, exponent = some p → p.2 ≠ [] ∧ ∀ c ∈ p.2, isDigit c = true) (ends : EndsNumber rest) :
    readExponent (exponentChars exponent ++ rest) = some (exponent, rest) := by
  match exponent with
  | none =>
    have other : ∀ c, rest.head? = some c → c ≠ 'e' ∧ c ≠ 'E' := fun c first => (ends c first).2.2
    rw [exponentChars, List.nil_append, readExponent.eq_def]
    split <;> first | rfl | exact absurd rfl (other _ rfl).1 | exact absurd rfl (other _ rfl).2
  | some (negative, ds) =>
    obtain ⟨nonempty, digits⟩ := proper _ rfl
    cases negative <;>
      exact readExponentDigits_append digits nonempty fun c first => (ends c first).1

theorem head?_exponentChars {exponent : Option (Bool × List Char)} {rest : List Char} (ends : EndsNumber rest) :
    ∀ c ∈ (exponentChars exponent ++ rest).head?, isDigit c = false ∧ c ≠ '.' := by
  match exponent with
  | none => exact fun c first => ⟨(ends c first).1, (ends c first).2.1⟩
  | some (negative, ds) =>
    rintro c ⟨⟩
    decide

theorem Number.Proper.begins {n : Number} (proper : n.Proper) :
    ∃ c cs, n.chars = c :: cs ∧ (c = '-' ∨ isDigit c = true) := by
  obtain ⟨d, ds, whole⟩ := List.exists_cons_of_ne_nil proper.nonempty
  have digit := proper.digits d (whole ▸ List.mem_cons_self)
  rw [Number.chars_eq, whole]
  cases n.negative with
  | true => exact ⟨'-', _, rfl, .inl rfl⟩
  | false => exact ⟨d, _, rfl, .inr digit⟩

/-- **A number** is read as it was written. -/
theorem readNumber_chars {n : Number} (proper : n.Proper) {rest : List Char} (ends : EndsNumber rest) :
    readNumber (n.chars ++ rest) = some (n, rest) := by
  have unsigned : readUnsigned n.negative
      (n.whole ++ ((if n.fraction.isEmpty then [] else '.' :: n.fraction) ++ (exponentChars n.exponent ++ rest))) =
        some (n, rest) := by
    have behind : ∀ c ∈ ((if n.fraction.isEmpty then [] else '.' :: n.fraction) ++
        (exponentChars n.exponent ++ rest)).head?, isDigit c = false := by
      cases n.fraction with
      | nil => exact fun c first => (head?_exponentChars ends c first).1
      | cons d ds =>
        rintro c ⟨⟩
        decide
    simp only [readUnsigned, readWhole_append proper behind,
      readFraction_append proper.fraction (head?_exponentChars ends), readExponent_append proper.exponent ends,
      bind, Option.bind, pure]
  simp only [Number.chars_eq, List.append_assoc]
  cases negative : n.negative with
  | true =>
    rw [negative] at unsigned
    exact unsigned
  | false =>
    rw [negative] at unsigned
    obtain ⟨d, ds, whole⟩ := List.exists_cons_of_ne_nil proper.nonempty
    have digit := proper.digits d (whole ▸ List.mem_cons_self)
    rw [whole] at unsigned ⊢
    simp only [Bool.false_eq_true, if_false, List.nil_append, List.cons_append] at unsigned ⊢
    rw [readNumber.eq_def]
    split
    next minus =>
      cases minus
      cases digit
    · exact unsigned

/-! ## Values -/

mutual

/-- The value can be written down: its texts are texts, and its numbers are as the grammar has them. -/
def Plain : Json → Prop
  | .null => True
  | .bool _ => True
  | .number n => n.Proper
  | .string t => t.isSome = true
  | .array items => AllPlain items
  | .object members => MembersPlain members

/-- Each of some values can be written down. -/
def AllPlain : List Json → Prop
  | [] => True
  | v :: vs => Plain v ∧ AllPlain vs

/-- Each of some members can be written down. -/
def MembersPlain : List (Option String × Json) → Prop
  | [] => True
  | (k, v) :: ms => k.isSome = true ∧ Plain v ∧ MembersPlain ms

end

/-- What a value begins with. -/
def Begins (c : Char) : Prop := c ∈ ['n', 't', 'f', '"', '[', '\x7b', '-'] ∨ isDigit c = true

theorem begins_chars {v : Json} (plain : v.Plain) : ∃ c cs, v.chars = c :: cs ∧ Begins c := by
  match v with
  | .null => exact ⟨_, _, rfl, .inl (by decide)⟩
  | .bool true => exact ⟨_, _, rfl, .inl (by decide)⟩
  | .bool false => exact ⟨_, _, rfl, .inl (by decide)⟩
  | .number n =>
    obtain ⟨c, cs, chars, begins⟩ := Number.Proper.begins plain
    refine ⟨c, cs, chars, begins.imp_left ?_⟩
    rintro rfl
    decide
  | .string (some s) => exact ⟨_, _, rfl, .inl (by decide)⟩
  | .array [] => exact ⟨_, _, rfl, .inl (by decide)⟩
  | .array (v :: vs) => exact ⟨_, _, rfl, .inl (by decide)⟩
  | .object [] => exact ⟨_, _, rfl, .inl (by decide)⟩
  | .object ((k, v) :: ms) => exact ⟨_, _, rfl, .inl (by decide)⟩

theorem Begins.ne {c : Char} (begins : Begins c) :
    isSpace c = false ∧ c ≠ ']' ∧ c ≠ '\x7d' := by
  rcases begins with known | digit
  · revert known
    simp only [List.mem_cons, List.not_mem_nil, or_false]
    rintro (rfl | rfl | rfl | rfl | rfl | rfl | rfl) <;> decide
  · refine ⟨?_, ?_, ?_⟩
    · by_contra space
      simp only [isSpace, Bool.not_eq_false, Bool.or_eq_true, beq_iff_eq] at space
      rcases space with ((rfl | rfl) | rfl) | rfl <;> cases digit
    · rintro rfl
      cases digit
    · rintro rfl
      cases digit

theorem skipSpace_cons {c : Char} {cs : List Char} (solid : isSpace c = false) : skipSpace (c :: cs) = c :: cs := by
  rw [skipSpace, List.dropWhile_cons_of_neg (by simp [solid])]

theorem skipSpace_chars {v : Json} (plain : v.Plain) (rest : List Char) :
    skipSpace (v.chars ++ rest) = v.chars ++ rest := by
  obtain ⟨c, cs, chars, begins⟩ := begins_chars plain
  rw [chars, List.cons_append, skipSpace_cons begins.ne.1]

theorem endsNumber_itemsChars (vs : List Json) (rest : List Char) : EndsNumber (itemsChars vs ++ rest) := by
  cases vs <;> rintro c ⟨⟩ <;> decide

theorem endsNumber_membersChars (ms : List (Option String × Json)) (rest : List Char) :
    EndsNumber (membersChars ms ++ rest) := by
  cases ms <;> rintro c ⟨⟩ <;> decide

/-- What begins with a sign or a digit is read as a number. -/
theorem readValue_number {c : Char} (begins : c = '-' ∨ isDigit c = true) (cs : List Char) (fuel : Nat) :
    readValue (fuel + 1) (c :: cs) = (readNumber (c :: cs)).map fun (n, rest) => (.number n, rest) := by
  have solid : isSpace c = false := by
    rcases begins with rfl | digit
    · rfl
    · exact Begins.ne (.inr digit) |>.1
  have other : c ≠ 'n' ∧ c ≠ 't' ∧ c ≠ 'f' ∧ c ≠ '"' ∧ c ≠ '[' ∧ c ≠ '\x7b' := by
    rcases begins with rfl | digit
    · decide
    · refine ⟨?_, ?_, ?_, ?_, ?_, ?_⟩ <;> rintro rfl <;> cases digit
  rw [readValue, skipSpace_cons solid]
  split <;> simp_all

theorem readValue_opening_array {v : Json} (plain : v.Plain) (rest : List Char) (fuel : Nat) :
    readValue (fuel + 1) ('[' :: (v.chars ++ rest)) = readItems fuel [] (v.chars ++ rest) := by
  obtain ⟨c, cs, chars, begins⟩ := begins_chars plain
  rw [readValue, skipSpace_cons (by decide)]
  simp only [skipSpace_chars plain]
  rw [chars, List.cons_append]
  split
  next closed =>
    cases closed
    exact absurd rfl begins.ne.2.1
  · rfl

theorem readValue_opening_object (s : String) (rest : List Char) (fuel : Nat) :
    readValue (fuel + 1) ('\x7b' :: (stringChars s ++ rest)) = readMembers fuel [] (stringChars s ++ rest) := rfl

/-- What is written with so many characters is read as it was written. -/
structure ReadsBack (fuel : Nat) : Prop where
  value : ∀ (v : Json) (rest : List Char), v.Plain → EndsNumber rest → 2 * v.chars.length ≤ fuel →
    readValue fuel (v.chars ++ rest) = some (v, rest)
  items : ∀ (v : Json) (vs before : List Json) (rest : List Char), v.Plain → AllPlain vs →
    2 * (v.chars.length + (itemsChars vs).length) ≤ fuel →
    readItems fuel before (v.chars ++ (itemsChars vs ++ rest)) = some (.array (before.reverse ++ v :: vs), rest)
  members : ∀ (s : String) (v : Json) (ms before : List (Option String × Json)) (rest : List Char), v.Plain →
    MembersPlain ms → 2 * (v.chars.length + (membersChars ms).length) ≤ fuel →
    readMembers fuel before (stringChars s ++ ':' :: (v.chars ++ (membersChars ms ++ rest))) =
      some (.object (before.reverse ++ (some s, v) :: ms), rest)

namespace ReadsBack

variable {fuel : Nat} {v : Json} {rest : List Char} {s : String}

theorem value_succ (h : ReadsBack fuel) (plain : v.Plain) (ends : EndsNumber rest)
    (enough : 2 * v.chars.length ≤ fuel + 1) : readValue (fuel + 1) (v.chars ++ rest) = some (v, rest) := by
  match v with
  | .null => rfl
  | .bool true => rfl
  | .bool false => rfl
  | .number n =>
    have read := readNumber_chars plain ends
    obtain ⟨c, cs, chars, begins⟩ := Number.Proper.begins plain
    rw [chars, List.cons_append] at read
    rw [Json.chars, chars, List.cons_append, readValue_number begins, read, Option.map_some]
  | .string (some s) =>
    rw [chars, textChars, stringChars, List.cons_append, List.append_assoc, List.singleton_append, readValue,
      skipSpace_cons (by decide)]
    simp only [readString_stringChars, Option.map_some]
  | .array [] => rfl
  | .array (v :: vs) =>
    simp only [chars, List.length_cons, List.length_append] at enough
    rw [chars, List.cons_append, List.append_assoc, readValue_opening_array plain.1]
    exact h.items v vs [] rest plain.1 plain.2 (by omega)
  | .object [] => rfl
  | .object ((some s, v) :: ms) =>
    simp only [chars, List.length_cons, List.length_append] at enough
    rw [chars, List.cons_append, List.append_assoc, List.cons_append, List.append_assoc, textChars,
      readValue_opening_object]
    exact h.members s v ms [] rest plain.2.1 plain.2.2 (by omega)

theorem items_succ (h : ReadsBack fuel) {vs before : List Json} (plain : v.Plain) (plains : AllPlain vs)
    (enough : 2 * (v.chars.length + (itemsChars vs).length) ≤ fuel + 1) :
    readItems (fuel + 1) before (v.chars ++ (itemsChars vs ++ rest)) =
      some (.array (before.reverse ++ v :: vs), rest) := by
  have more : 0 < (itemsChars vs).length := by cases vs <;> exact Nat.succ_pos _
  rw [readItems, h.value v _ plain (endsNumber_itemsChars vs rest) (by omega)]
  match vs with
  | [] => simp [itemsChars, skipSpace_cons (show isSpace ']' = false by decide)]
  | v' :: vs =>
    simp only [itemsChars, List.length_cons, List.length_append] at enough
    simp only [itemsChars, List.cons_append, List.append_assoc, skipSpace_cons (show isSpace ',' = false by decide)]
    rw [h.items v' vs (v :: before) rest plains.1 plains.2 (by omega), List.reverse_cons, List.append_assoc]
    rfl

theorem members_succ (h : ReadsBack fuel) {ms before : List (Option String × Json)} (plain : v.Plain)
    (plains : MembersPlain ms) (enough : 2 * (v.chars.length + (membersChars ms).length) ≤ fuel + 1) :
    readMembers (fuel + 1) before (stringChars s ++ ':' :: (v.chars ++ (membersChars ms ++ rest))) =
      some (.object (before.reverse ++ (some s, v) :: ms), rest) := by
  have more : 0 < (membersChars ms).length := by
    match ms with
    | [] => exact Nat.succ_pos _
    | (_, _) :: _ => exact Nat.succ_pos _
  have read := h.value v _ plain (endsNumber_membersChars ms rest) (by omega)
  rw [readMembers, stringChars, List.cons_append, List.append_assoc, List.singleton_append,
    skipSpace_cons (by decide)]
  simp only [readString_stringChars, skipSpace_cons (show isSpace ':' = false by decide), read]
  match ms with
  | [] => simp [membersChars, skipSpace_cons (show isSpace '\x7d' = false by decide)]
  | (some s', v') :: ms =>
    simp only [membersChars, List.length_cons, List.length_append] at enough
    simp only [membersChars, textChars, List.cons_append, List.append_assoc,
      skipSpace_cons (show isSpace ',' = false by decide)]
    rw [h.members s' v' ms ((some s, v) :: before) rest plains.2.1 plains.2.2 (by omega), List.reverse_cons,
      List.append_assoc]
    rfl

end ReadsBack

/-- Each round reads a value, an item or a member, which takes one character at least, and so does what
is behind it. -/
theorem readsBack (fuel : Nat) : ReadsBack fuel := by
  have positive : ∀ v : Json, v.Plain → 0 < v.chars.length := by
    intro v plain
    obtain ⟨c, cs, chars, -⟩ := begins_chars plain
    rw [chars]
    exact Nat.succ_pos _
  induction fuel with
  | zero =>
    refine ⟨fun v _ plain _ enough => ?_, fun v _ _ _ plain _ enough => ?_, fun _ v _ _ _ plain _ enough => ?_⟩ <;>
      have := positive v plain <;> omega
  | succ fuel ih =>
    exact ⟨fun _ _ plain ends enough => ih.value_succ plain ends enough,
      fun _ _ _ _ plain plains enough => ih.items_succ plain plains enough,
      fun _ _ _ _ _ plain plains enough => ih.members_succ plain plains enough⟩

/-- **A value** is read from its text. -/
theorem parse?_render {v : Json} (plain : v.Plain) : parse? v.render = some v := by
  have read := (readsBack (2 * v.chars.length + 2)).value v [] plain endsNumber_nil (by omega)
  rw [List.append_nil] at read
  rw [parse?, render, String.toList_ofList, ofChars?, read]
  rfl

end AsyncStage.Json
