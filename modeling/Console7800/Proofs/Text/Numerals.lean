import Console7800.Text.Numeral

/-!
# Decimal numerals

Every decimal numeral is read as its number: a run of digits with the value `Nat.ofDigitChars`, any
number of zeros in front included, behind the sign that its type allows. The limit at which a value
stops growing while it is read is out of every range, so it changes no number that is in range.
-/

namespace Console7800.Text

/-! ## Runs of digits -/

/-- A run of decimal digits with a value. -/
structure Digits (n : Nat) (text : List Char) : Prop where
  ne_nil : text ≠ []
  all_isDigit : text.all Char.isDigit
  value : Nat.ofDigitChars 10 text 0 = n

theorem Digits.toDigits (n : Nat) : Digits n (Nat.toDigits 10 n) where
  ne_nil := Nat.toDigits_ne_nil
  all_isDigit :=
    List.all_eq_true.2 fun _ => Nat.isDigit_of_mem_toDigits (by decide) (by decide)
  value := Nat.ofDigitChars_ten_toDigits

theorem digitValue?_of_isDigit {c : Char} (h : c.isDigit) :
    digitValue? 10 c = some (c.toNat - '0'.toNat) := by
  have hrange : '0' ≤ c ∧ c ≤ '9' := by simpa [Char.isDigit, Char.le_def] using h
  have hlt : c.toNat - '0'.toNat < 10 := by
    have hle : c.toNat ≤ '9'.toNat := hrange.2
    have h9 : '9'.toNat = '0'.toNat + 9 := rfl
    omega
  unfold digitValue?
  rw [if_pos hrange]
  exact if_pos (decide_eq_true hlt)

theorem min_digit (limit value digit : Nat) :
    min limit (min limit value * 10 + digit) = min limit (10 * value + digit) := by
  omega

/-- Stopping at the limit after every digit is stopping there once, at the end. -/
theorem digitsValue?_of_isDigit {text : List Char} (h : ∀ c ∈ text, c.isDigit)
    (limit value : Nat) :
    digitsValue? 10 limit (min limit value) text =
      some (min limit (Nat.ofDigitChars 10 text value)) := by
  induction text generalizing value with
  | nil => rfl
  | cons c text ih =>
    obtain ⟨hc, htext⟩ := List.forall_mem_cons.1 h
    rw [digitsValue?, digitValue?_of_isDigit hc, Option.bind_some, min_digit, ih htext,
      Nat.ofDigitChars_cons]

section

variable {n : Nat} {text : List Char} (h : Digits n text)

include h

theorem Digits.isDigit : ∀ c ∈ text, c.isDigit := List.all_eq_true.1 h.all_isDigit

theorem Digits.magnitude? {limit : Nat} (hn : n ≤ limit) : magnitude? 10 limit text = some n := by
  have hvalue := digitsValue?_of_isDigit h.isDigit limit 0
  rw [Nat.min_zero, h.value, Nat.min_eq_right hn] at hvalue
  unfold Text.magnitude?
  split
  · exact absurd rfl h.ne_nil
  · exact hvalue

theorem Digits.ne_cons {c : Char} (hc : c.isDigit = false) (rest : List Char) :
    text ≠ c :: rest := by
  rintro rfl
  exact absurd (h.isDigit c List.mem_cons_self) (by simp [hc])

end

/-! ## Signs -/

/-- A decimal numeral for a number that is not negative. -/
inductive Numeral (n : Nat) : List Char → Prop
  | plain {text : List Char} (h : Digits n text) : Numeral n text
  | plus {text : List Char} (h : Digits n text) : Numeral n ('+' :: text)

/-- A decimal numeral for any number; zero may have a minus. -/
inductive SignedNumeral : Int → List Char → Prop
  | plain {n : Nat} {text : List Char} (h : Digits n text) : SignedNumeral n text
  | plus {n : Nat} {text : List Char} (h : Digits n text) : SignedNumeral n ('+' :: text)
  | minus {n : Nat} {text : List Char} (h : Digits n text) : SignedNumeral (-n) ('-' :: text)

theorem SignedNumeral.exists (n : Int) : ∃ text, SignedNumeral n text := by
  cases n with
  | ofNat n => exact ⟨_, .plain (.toDigits n)⟩
  | negSucc n => exact ⟨_, .minus (.toDigits (n + 1))⟩

theorem Numeral.unsigned? {n bound : Nat} {text : List Char} (h : Numeral n text)
    (hn : n < bound) : unsigned? 10 bound text = some n := by
  have hread {digits : List Char} (hdigits : Digits n digits) :
      (magnitude? 10 bound digits).filter (· < bound) = some n := by
    rw [hdigits.magnitude? (Nat.le_of_lt hn)]
    exact if_pos (decide_eq_true hn)
  unfold Text.unsigned?
  cases h with
  | plain h =>
    split
    · exact absurd rfl (h.ne_cons (by decide) _)
    · exact hread h
  | plus h => exact hread h

theorem natAbs_le_two_pow {n : Int} {bits : Nat} (hlow : -(Nat.pow 2 (bits - 1) : Int) ≤ n)
    (hhigh : n < (Nat.pow 2 (bits - 1) : Int)) : n.natAbs ≤ Nat.pow 2 bits := by
  have hhalf : Nat.pow 2 (bits - 1) ≤ Nat.pow 2 bits :=
    Nat.pow_le_pow_right (by decide) (Nat.sub_le ..)
  omega

theorem SignedNumeral.signed? {n : Int} {bits : Nat} {text : List Char} (h : SignedNumeral n text)
    (hlow : -(Nat.pow 2 (bits - 1) : Int) ≤ n) (hhigh : n < (Nat.pow 2 (bits - 1) : Int)) :
    signed? bits text = some n := by
  have hlimit := natAbs_le_two_pow hlow hhigh
  unfold Text.signed?
  cases h with
  | @plain m _ h =>
    have hread := h.magnitude? hlimit
    split
    · exact absurd rfl (h.ne_cons (by decide) _)
    · exact absurd rfl (h.ne_cons (by decide) _)
    · rw [hread]
      exact if_pos (decide_eq_true ⟨hlow, hhigh⟩)
  | @plus m _ h =>
    have hread := h.magnitude? hlimit
    simp only [hread]
    exact if_pos (decide_eq_true ⟨hlow, hhigh⟩)
  | @minus m _ h =>
    have hread := h.magnitude? (Int.natAbs_neg m ▸ hlimit)
    simp only [hread]
    exact if_pos (decide_eq_true ⟨hlow, hhigh⟩)

end Console7800.Text
