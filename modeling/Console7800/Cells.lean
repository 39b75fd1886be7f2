/-!
# Cells

Overwriting a stretch of a vector in place. `getElem_overwrite` and `getElem_fill` say what every
cell holds afterwards; what reaches past the end is dropped.
-/

namespace Console7800

/-- A run of bytes: an image, a file, a block of memory. -/
abbrev Bytes := Array UInt8

namespace Cells

variable {α : Type} {n : Nat}

/-- Put `count` values into the cells from `start` on. -/
def putFrom (cells : Vector α n) (start count : Nat) (value : (i : Nat) → i < count → α) :
    Vector α n :=
  count.fold (fun i h cells => cells.setIfInBounds (start + i) (value i h)) cells

/-- Put `data` into the cells from `start` on. -/
def overwrite (cells : Vector α n) (start : Nat) (data : Array α) : Vector α n :=
  putFrom cells start data.size fun i h => data[i]

/-- Put one value into `count` cells from `start` on. -/
def fill (cells : Vector α n) (start count : Nat) (value : α) : Vector α n :=
  putFrom cells start (min count (n - start)) fun _ _ => value

theorem getElem_putFrom (cells : Vector α n) (start count : Nat)
    (value : (i : Nat) → i < count → α) (j : Nat) (hj : j < n) :
    (putFrom cells start count value)[j] =
      if h : start ≤ j ∧ j < start + count then value (j - start) (by omega) else cells[j] := by
  induction count with
  | zero =>
    rw [dif_neg (by omega)]
    rfl
  | succ count ih =>
    have step : putFrom cells start (count + 1) value =
        (putFrom cells start count fun i h => value i (by omega)).setIfInBounds (start + count)
          (value count (by omega)) := by
      simp [putFrom, Nat.fold_succ]
    rw [step, Vector.getElem_setIfInBounds, ih]
    by_cases h : start + count = j
    · subst h; simp
    · by_cases h1 : start ≤ j ∧ j < start + count
      · have h2 : start ≤ j ∧ j < start + (count + 1) := by omega
        simp [h, h1, h2]
      · have h2 : ¬(start ≤ j ∧ j < start + (count + 1)) := by omega
        simp [h, h1, h2]

theorem getElem_overwrite (cells : Vector α n) (start : Nat) (data : Array α) (j : Nat)
    (hj : j < n) :
    (overwrite cells start data)[j] =
      if h : start ≤ j ∧ j < start + data.size then data[j - start] else cells[j] :=
  getElem_putFrom ..

theorem getElem_fill (cells : Vector α n) (start count : Nat) (value : α) (j : Nat) (hj : j < n) :
    (fill cells start count value)[j] =
      if start ≤ j ∧ j < start + count then value else cells[j] := by
  have within : start ≤ j ∧ j < start + min count (n - start) ↔ start ≤ j ∧ j < start + count := by
    omega
  simp [fill, getElem_putFrom, within]

end Cells
end Console7800
