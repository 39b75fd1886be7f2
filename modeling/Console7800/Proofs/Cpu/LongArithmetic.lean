import Console7800.Cpu.Arithmetic
import Mathlib.Data.Nat.Digits.Defs
import Mathlib.Tactic.LinearCombination

/-!
# Numbers of several bytes

A program adds and subtracts numbers of several bytes one byte after the other, the lowest first,
and leaves the carry between them alone (`chain`). To the arithmetic unit a byte is a digit of base
256, in decimal mode one of base 100. It is exact on two digits and a carry (`exact_add`,
`exact_subtract`), so it is on numbers of any length (`chain_exact`).
-/

namespace Console7800.Arithmetic

/-! ## Digits -/

/-- How many digits there are. -/
def base (decimal : Bool) : Nat := if decimal then 100 else 256

/-- In decimal mode both halves of a digit are decimal digits. -/
def IsDigit (decimal : Bool) (byte : UInt8) : Prop :=
  decimal = true → byte.toNat / 16 ≤ 9 ∧ byte.toNat % 16 ≤ 9

instance (decimal : Bool) (byte : UInt8) : Decidable (IsDigit decimal byte) :=
  inferInstanceAs (Decidable (_ → _))

/-- What a byte counts as a digit. -/
def digit (decimal : Bool) (byte : UInt8) : Nat :=
  if decimal then byte.toNat / 16 * 10 + byte.toNat % 16 else byte.toNat

/-- The number whose digits the bytes are, the lowest first. -/
def number (decimal : Bool) (bytes : List UInt8) : Nat :=
  Nat.ofDigits (base decimal) (bytes.map (digit decimal))

theorem isDigit_binary (byte : UInt8) : IsDigit false byte := fun h => nomatch h

theorem number_cons (decimal : Bool) (byte : UInt8) (bytes : List UInt8) :
    number decimal (byte :: bytes) = digit decimal byte + base decimal * number decimal bytes :=
  Nat.ofDigits_cons ..

theorem toNat_digits (high low : Nat) : (digits high low).toNat = high % 16 * 16 + low % 16 := by
  rw [digits, UInt8.toNat_ofNat', Nat.mod_eq_of_lt (by omega)]

theorem digit_digits {high low : Nat} (hhigh : high % 16 ≤ 9) (hlow : low % 16 ≤ 9) :
    IsDigit true (digits high low) ∧ digit true (digits high low) = high % 16 * 10 + low % 16 := by
  unfold IsDigit digit
  rw [toNat_digits]
  simp only [if_true, true_imp_iff]
  omega

/-! ## One byte -/

/-- A sum of two decimal digits with six more above nine, which puts the carry into the fifth
bit. -/
def adjust (sum : Nat) : Nat := if 9 < sum then sum + 6 else sum

theorem adjust_exact {sum : Nat} (h : sum ≤ 19) :
    adjust sum % 16 ≤ 9 ∧ sum = adjust sum % 16 + 10 * (adjust sum / 16) := by
  unfold adjust
  split <;> omega

/-- A difference of two decimal digits leaves a decimal digit, with what it borrows. -/
theorem settle_exact {difference : Int} (hlow : -10 ≤ difference) (hhigh : difference ≤ 9) :
    ∃ left : Nat, left ≤ 9 ∧ (settle difference).1 % 16 = left ∧
      difference = left - 10 * (settle difference).2 ∧
      0 ≤ (settle difference).2 ∧ (settle difference).2 ≤ 1 := by
  unfold settle
  split
  · exact ⟨(difference + 10).toNat, by omega, by dsimp only; omega, by dsimp only; omega, by simp⟩
  · exact ⟨difference.toNat, by omega, by dsimp only; omega, by dsimp only; omega, by simp⟩

section

variable {p : Status} {a data : UInt8}

theorem addBinary_exact (p : Status) (a data : UInt8) :
    a.toNat + data.toNat + p.carry.toNat =
      (addBinary p a data).1.toNat + 256 * (addBinary p a data).2.carry.toNat := by
  have ha := a.toNat_lt
  have hdata := data.toNat_lt
  have hcarry := p.carry.toNat_le
  unfold addBinary Status.describe
  dsimp only
  rw [UInt8.toNat_ofNat']
  by_cases hover : 255 < a.toNat + data.toNat + p.carry.toNat
  · rw [decide_eq_true hover, Bool.toNat_true]
    omega
  · rw [decide_eq_false hover, Bool.toNat_false]
    omega

/-- The carry of the units goes into the tens, and that of the tens out. -/
theorem addDecimal_eq (ha : IsDigit true a) (hdata : IsDigit true data) :
    let units := adjust (a.toNat % 16 + data.toNat % 16 + p.carry.toNat)
    let tens := adjust (a.toNat / 16 + data.toNat / 16 + units / 16)
    (addDecimal p a data).1 = digits tens units ∧
      (addDecimal p a data).2.carry.toNat = tens / 16 := by
  obtain ⟨htensA, hunitsA⟩ := ha rfl
  obtain ⟨htensData, hunitsData⟩ := hdata rfl
  have hcarry := p.carry.toNat_le
  intro units tens
  have hpair : (if 9 < a.toNat % 16 + data.toNat % 16 + p.carry.toNat then
        (a.toNat % 16 + data.toNat % 16 + p.carry.toNat + 6, a.toNat / 16 + data.toNat / 16 + 1)
      else (a.toNat % 16 + data.toNat % 16 + p.carry.toNat, a.toNat / 16 + data.toNat / 16)) =
      (units, a.toNat / 16 + data.toNat / 16 + units / 16) := by
    simp only [units, adjust]
    split
    · rw [show (a.toNat % 16 + data.toNat % 16 + p.carry.toNat + 6) / 16 = 1 by omega]
    · rw [show (a.toNat % 16 + data.toNat % 16 + p.carry.toNat) / 16 = 0 by omega, Nat.add_zero]
  unfold addDecimal
  dsimp only
  rw [hpair]
  refine ⟨rfl, ?_⟩
  show (decide (15 < tens)).toNat = tens / 16
  have htens : tens < 32 := by
    simp only [tens, units, adjust]
    split <;> split <;> omega
  by_cases hover : 15 < tens
  · rw [decide_eq_true hover, Bool.toNat_true]
    omega
  · rw [decide_eq_false hover, Bool.toNat_false]
    omega

theorem addDecimal_exact (ha : IsDigit true a) (hdata : IsDigit true data) :
    digit true a + digit true data + p.carry.toNat =
        digit true (addDecimal p a data).1 + 100 * (addDecimal p a data).2.carry.toNat ∧
      IsDigit true (addDecimal p a data).1 := by
  obtain ⟨hresult, hover⟩ := addDecimal_eq (p := p) ha hdata
  obtain ⟨htensA, hunitsA⟩ := ha rfl
  obtain ⟨htensData, hunitsData⟩ := hdata rfl
  have hcarry := p.carry.toNat_le
  have hunits : a.toNat % 16 + data.toNat % 16 + p.carry.toNat ≤ 19 := by omega
  obtain ⟨hunit, hunitSum⟩ := adjust_exact hunits
  have htens : a.toNat / 16 + data.toNat / 16 +
      adjust (a.toNat % 16 + data.toNat % 16 + p.carry.toNat) / 16 ≤ 19 := by omega
  obtain ⟨hten, htenSum⟩ := adjust_exact htens
  obtain ⟨hvalid, hvalue⟩ := digit_digits hten hunit
  rw [hresult, hover, hvalue]
  refine ⟨?_, hvalid⟩
  simp only [digit, if_true]
  omega

theorem toNat_borrowOf (p : Status) : (borrowOf p : Int) = 1 - p.carry.toNat := by
  unfold borrowOf
  cases p.carry <;> rfl

/-- The carry is left set unless the difference borrows, in decimal mode too. -/
theorem borrow_subtractBinary (p : Status) (a data : UInt8) :
    (1 - (subtractBinary p a data).2.carry.toNat : Int) =
      if (a.toNat : Int) - data.toNat - borrowOf p < 0 then 1 else 0 := by
  show (1 - (decide (data.toNat + borrowOf p ≤ a.toNat)).toNat : Int) = _
  by_cases hborrows : data.toNat + borrowOf p ≤ a.toNat
  · rw [decide_eq_true hborrows, if_neg (by omega)]
    rfl
  · rw [decide_eq_false hborrows, if_pos (by omega)]
    rfl

theorem subtractBinary_exact (p : Status) (a data : UInt8) :
    (a.toNat : Int) - data.toNat - borrowOf p =
      (subtractBinary p a data).1.toNat - 256 * (1 - (subtractBinary p a data).2.carry.toNat) := by
  have ha := a.toNat_lt
  have hdata := data.toNat_lt
  have hborrow : borrowOf p ≤ 1 := Bool.toNat_le _
  have hresult : (subtractBinary p a data).1 = a - data - UInt8.ofNat (borrowOf p) := rfl
  rw [borrow_subtractBinary, hresult, UInt8.toNat_sub, UInt8.toNat_sub, UInt8.toNat_ofNat']
  split <;> omega

theorem subtractDigits_eq (p : Status) (a data : UInt8) :
    let units := settle ((a.toNat % 16 : Nat) - (data.toNat % 16 : Nat) - borrowOf p)
    let tens := settle ((a.toNat / 16 : Nat) - (data.toNat / 16 : Nat) - units.2)
    subtractDigits p a data = digits (tens.1 % 16).toNat (units.1 % 16).toNat := rfl

/-- The units borrow from the tens, and these if the whole difference is negative. -/
theorem subtractDigits_exact (ha : IsDigit true a) (hdata : IsDigit true data) :
    (digit true a : Int) - digit true data - borrowOf p =
        digit true (subtractDigits p a data) -
          100 * (1 - (subtractBinary p a data).2.carry.toNat) ∧
      IsDigit true (subtractDigits p a data) := by
  obtain ⟨htensA, hunitsA⟩ := ha rfl
  obtain ⟨htensData, hunitsData⟩ := hdata rfl
  have hborrow : borrowOf p ≤ 1 := Bool.toNat_le _
  rw [subtractDigits_eq, borrow_subtractBinary]
  obtain ⟨unit, hunit, hunits, hunitDifference, hnone, hone⟩ :=
    @settle_exact ((a.toNat % 16 : Nat) - (data.toNat % 16 : Nat) - borrowOf p) (by omega)
      (by omega)
  rw [hunits]
  generalize (settle ((a.toNat % 16 : Nat) - (data.toNat % 16 : Nat) - borrowOf p)).2 = borrowed
    at *
  obtain ⟨ten, hten, htens, htenDifference, -, -⟩ :=
    @settle_exact ((a.toNat / 16 : Nat) - (data.toNat / 16 : Nat) - borrowed) (by omega) (by omega)
  rw [htens, Int.toNat_natCast, Int.toNat_natCast]
  have hunitMod : unit % 16 = unit := Nat.mod_eq_of_lt (Nat.lt_of_le_of_lt hunit (by decide))
  have htenMod : ten % 16 = ten := Nat.mod_eq_of_lt (Nat.lt_of_le_of_lt hten (by decide))
  obtain ⟨hvalid, hvalue⟩ := digit_digits (htenMod.symm ▸ hten) (hunitMod.symm ▸ hunit)
  refine ⟨?_, hvalid⟩
  rw [hvalue, hunitMod, htenMod]
  clear hunits htens
  simp only [digit, if_true]
  split <;> omega

end

/-- Of two digits and a carry the operation makes a digit and a carry, and nothing is lost: it takes
its operand with a sign, and the carry counts as `carry` says. -/
structure Exact (op : ReadOp) (sign : Int) (carry : Bool → Int) : Prop where
  decimal_eq : ∀ (r : Registers) (b : UInt8), (op.apply b r).p.decimal = r.p.decimal
  digits : ∀ (r : Registers) (b : UInt8), IsDigit r.p.decimal r.a → IsDigit r.p.decimal b →
    (digit r.p.decimal r.a : Int) + sign * digit r.p.decimal b + carry r.p.carry =
        digit r.p.decimal (op.apply b r).a + base r.p.decimal * carry (op.apply b r).p.carry ∧
      IsDigit r.p.decimal (op.apply b r).a

theorem exact_add : Exact .add 1 fun carry => carry.toNat := by
  have happly (r : Registers) (b : UInt8) :
      (ReadOp.add.apply b r).a = (add r.p r.a b).1 ∧
        (ReadOp.add.apply b r).p = (add r.p r.a b).2 := ⟨rfl, rfl⟩
  refine ⟨fun r b => ?_, fun r b ha hb => ?_⟩
  · rw [(happly r b).2]
    unfold add
    split <;> rfl
  · rw [(happly r b).1, (happly r b).2]
    unfold add
    cases hdecimal : r.p.decimal with
    | false =>
      have hvalue := addBinary_exact r.p r.a b
      refine ⟨?_, isDigit_binary _⟩
      simp only [digit, base, Bool.false_eq_true, if_false]
      omega
    | true =>
      rw [hdecimal] at ha hb
      obtain ⟨hvalue, hdigit⟩ := addDecimal_exact (p := r.p) ha hb
      refine ⟨?_, hdigit⟩
      simp only [base, if_true]
      omega

/-- A carry that is clear is a borrow. -/
theorem exact_subtract : Exact .subtract (-1) fun carry => carry.toNat - 1 := by
  have happly (r : Registers) (b : UInt8) :
      (ReadOp.subtract.apply b r).a = (subtract r.p r.a b).1 ∧
        (ReadOp.subtract.apply b r).p = (subtractBinary r.p r.a b).2 := by
    refine ⟨rfl, ?_⟩
    show (subtract r.p r.a b).2 = _
    unfold subtract
    dsimp only
    split <;> rfl
  refine ⟨fun r b => ?_, fun r b ha hb => ?_⟩
  · rw [(happly r b).2]
    rfl
  · rw [(happly r b).1, (happly r b).2]
    have hborrow := toNat_borrowOf r.p
    unfold subtract
    cases hdecimal : r.p.decimal with
    | false =>
      have hvalue := subtractBinary_exact r.p r.a b
      refine ⟨?_, isDigit_binary _⟩
      simp only [digit, base, Bool.false_eq_true, if_false]
      omega
    | true =>
      rw [hdecimal] at ha hb
      obtain ⟨hvalue, hdigit⟩ := subtractDigits_exact (p := r.p) ha hb
      refine ⟨?_, hdigit⟩
      simp only [base, if_true]
      omega

/-! ## Numbers -/

/-- Work through two numbers byte by byte, the lowest first: load a byte of the first one and apply
the operation with the byte of the second one. `between` is what else is done before the next
byte. -/
def chain (op : ReadOp) (between : Registers → Registers) :
    Registers → List UInt8 → List UInt8 → List UInt8 × Registers
  | r, a :: first, b :: second =>
    let r := op.apply b ((ReadOp.load .a).apply a r)
    let (bytes, last) := chain op between (between r) first second
    (r.a :: bytes, last)
  | r, _, _ => ([], r)

theorem chain_cons (op : ReadOp) (between : Registers → Registers) (r : Registers) (a b : UInt8)
    (first second : List UInt8) :
    let after := op.apply b ((ReadOp.load .a).apply a r)
    let rest := chain op between (between after) first second
    chain op between r (a :: first) (b :: second) = (after.a :: rest.1, rest.2) := rfl

/-- The carry and decimal mode are left alone. -/
def KeepsCarry (between : Registers → Registers) : Prop :=
  ∀ r, (between r).p.carry = r.p.carry ∧ (between r).p.decimal = r.p.decimal

/-- What the operation does to bytes it does to numbers. -/
theorem Exact.chain {op : ReadOp} {sign : Int} {carry : Bool → Int} (h : Exact op sign carry)
    {between : Registers → Registers} (hbetween : KeepsCarry between) (r : Registers)
    {first second : List UInt8} (hlength : first.length = second.length)
    (hfirst : ∀ byte ∈ first, IsDigit r.p.decimal byte)
    (hsecond : ∀ byte ∈ second, IsDigit r.p.decimal byte) :
    let result := Arithmetic.chain op between r first second
    (number r.p.decimal first : Int) + sign * number r.p.decimal second + carry r.p.carry =
        number r.p.decimal result.1 + base r.p.decimal ^ first.length * carry result.2.p.carry ∧
      result.1.length = first.length ∧ ∀ byte ∈ result.1, IsDigit r.p.decimal byte := by
  induction first generalizing r second with
  | nil =>
    obtain rfl : second = [] := List.eq_nil_of_length_eq_zero hlength.symm
    simp [Arithmetic.chain, number]
  | cons a first ih =>
    obtain _ | ⟨b, second⟩ := second
    · cases hlength
    obtain ⟨hdigitA, hfirst⟩ := List.forall_mem_cons.1 hfirst
    obtain ⟨hdigitB, hsecond⟩ := List.forall_mem_cons.1 hsecond
    let loaded := (ReadOp.load .a).apply a r
    let after := op.apply b loaded
    obtain ⟨hvalue, hdigit⟩ : (digit r.p.decimal a : Int) + sign * digit r.p.decimal b +
          carry r.p.carry = digit r.p.decimal after.a + base r.p.decimal * carry after.p.carry ∧
        IsDigit r.p.decimal after.a := h.digits loaded b hdigitA hdigitB
    have hmode : (between after).p.decimal = r.p.decimal :=
      (hbetween after).2.trans (h.decimal_eq loaded b)
    obtain ⟨hrest, hlengths, hdigits⟩ := ih (between after) (Nat.succ.inj hlength)
      (hmode ▸ hfirst) (hmode ▸ hsecond)
    rw [hmode, (hbetween after).1] at hrest
    rw [hmode] at hdigits
    rw [chain_cons]
    refine ⟨?_, congrArg Nat.succ hlengths, List.forall_mem_cons.2 ⟨hdigit, hdigits⟩⟩
    dsimp only
    rw [number_cons, number_cons, number_cons, List.length_cons, pow_succ]
    push_cast
    linear_combination hvalue + base r.p.decimal * hrest

/-- Sums and differences of numbers of any length are exact, in base 256 and, of decimal digits, in
base 100: byte by byte with the carry between them, from any carry. The last carry is the digit
that the sum has no place for, or clear if the difference borrows. -/
theorem chain_exact {between : Registers → Registers} (hbetween : KeepsCarry between)
    (r : Registers) {n : Nat} (first second : List UInt8) (hlength : first.length = n)
    (hlength' : second.length = n) (hfirst : ∀ byte ∈ first, IsDigit r.p.decimal byte)
    (hsecond : ∀ byte ∈ second, IsDigit r.p.decimal byte) :
    let number := number r.p.decimal
    let base := base r.p.decimal
    let sum := chain .add between r first second
    let difference := chain .subtract between r first second
    (number first + number second + r.p.carry.toNat =
        number sum.1 + base ^ n * sum.2.p.carry.toNat ∧
      sum.1.length = n ∧ ∀ byte ∈ sum.1, IsDigit r.p.decimal byte) ∧
    ((number first : Int) - number second - (1 - r.p.carry.toNat) =
        number difference.1 - base ^ n * (1 - difference.2.p.carry.toNat) ∧
      difference.1.length = n ∧ ∀ byte ∈ difference.1, IsDigit r.p.decimal byte) := by
  subst hlength
  intro number base sum difference
  obtain ⟨hsum, hsumDigits⟩ := exact_add.chain hbetween r hlength'.symm hfirst hsecond
  obtain ⟨hdifference, hdifferenceDigits⟩ :=
    exact_subtract.chain hbetween r hlength'.symm hfirst hsecond
  refine ⟨⟨?_, hsumDigits⟩, ?_, hdifferenceDigits⟩
  · rw [one_mul] at hsum
    exact_mod_cast hsum
  · linear_combination hdifference

/-- Scores of four digits, 1299 and 801, with the bytes counted in X. -/
theorem chain_exact_scores :
    let r : Registers := { p := { decimal := true } }
    let between (r : Registers) : Registers := r.assign .x (r.x + 1)
    KeepsCarry between ∧ (∀ byte ∈ [0x99, 0x12], IsDigit true byte) ∧
      (∀ byte ∈ [0x01, 0x08], IsDigit true byte) ∧
      number true (chain .add between r [0x99, 0x12] [0x01, 0x08]).1 = 2100 := by
  intro r between
  have hbetween : KeepsCarry between := fun _ => ⟨rfl, rfl⟩
  have hfirst : ∀ byte ∈ ([0x99, 0x12] : List UInt8), IsDigit true byte :=
    List.forall_mem_cons.2 ⟨by decide, List.forall_mem_singleton.2 (by decide)⟩
  have hsecond : ∀ byte ∈ ([0x01, 0x08] : List UInt8), IsDigit true byte :=
    List.forall_mem_cons.2 ⟨by decide, List.forall_mem_singleton.2 (by decide)⟩
  obtain ⟨⟨hsum, -⟩, -⟩ :=
    chain_exact hbetween r [0x99, 0x12] [0x01, 0x08] rfl rfl hfirst hsecond
  have hcarry : (chain .add between r [0x99, 0x12] [0x01, 0x08]).2.p.carry = false := by decide
  rw [hcarry] at hsum
  refine ⟨hbetween, hfirst, hsecond, hsum.symm.trans ?_⟩
  decide

end Console7800.Arithmetic
