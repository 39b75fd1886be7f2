import Console7800.Counters
import Console7800.Proofs.Timer

/-!
# When the countdown goes over

A batch counts for at most 2^31 - 1 cycles, but the one that reaches the end of a span may go past
it by as many, and then the timer goes on counting until the next one. So the countdown goes below
what 32 bits hold exactly where the batches since the last start, and the one that comes, go more
than 2^31 past the span while the timer counts (`advance?_eq_none_iff`). Up to there all is in
range, and the whole intervals that are left fit into the byte that shows them (`Timer.Sound`).
Batches of up to 2^30 cycles never get there (`not_overflows_of_le`).
-/

namespace Console7800

/-! ## Uses -/

namespace Riot

open Timer

/-- What can be done with the pins and the timer. -/
inductive Use where
  | event (event : Event)
  | restore (data : Bytes)
  | reset

/-- What it leaves, unless the countdown goes below its range. -/
def after? (riot : Riot) : Use → Option Riot
  | .event (.advance cycles) => riot.advance? cycles
  | .event event => some (riot.after event)
  | .restore data => some (riot.restore data)
  | .reset => some riot.reset

def play? (riot : Riot) (uses : List Use) : Option Riot := uses.foldlM after? riot

/-- The timer that a use puts in the place of the one before, if it does. -/
def Use.timer? : Use → Option Timer
  | .event (.write address value) =>
    if (Event.write address value).starts then some (.start (0x0280 + (address &&& 0x1F)) value)
    else none
  | .event _ => none
  | .restore data => some (Riot.restore {} data).timer
  | .reset => some {}

/-- The cycles that pass in the use, if it is for them. -/
def Use.batch? : Use → Option Nat
  | .event happening => happening.batch?
  | _ => none

end Riot

/-- A timer as it is put in place: all of its intervals are left. -/
structure Timer.Fresh (timer : Timer) : Prop where
  prescaler_pos : 0 < timer.prescaler.toNat
  remaining_eq : timer.remaining = (timer.prescaler.toNat * timer.intervals.toNat : Nat)
  count_eq : timer.count = timer.intervals
  expired_eq : timer.expired = false
  raised_eq : timer.raised = false

namespace Riot

open Timer

theorem fresh_start (register : UInt16) (intervals : UInt8) : (start register intervals).Fresh where
  prescaler_pos := by
    simp only [start, prescalerOf]
    split <;> try split <;> try split
    all_goals decide
  remaining_eq := rfl
  count_eq := rfl
  expired_eq := rfl
  raised_eq := rfl

/-- A prescaler that is restored is not zero. -/
theorem fresh_restore (riot : Riot) (data : Bytes) : (riot.restore data).timer.Fresh where
  prescaler_pos := by
    simp only [restore]
    split
    · decide
    · rename_i hstored
      exact Nat.pos_of_ne_zero fun hzero => hstored (UInt16.toNat_inj.1 hzero)
  remaining_eq := rfl
  count_eq := rfl
  expired_eq := rfl
  raised_eq := rfl

theorem Use.fresh {use : Use} {timer : Timer} (h : use.timer? = some timer) : timer.Fresh := by
  unfold timer? at h
  split at h
  · split at h
    · exact Option.some.inj h ▸ fresh_start _ _
    · cases h
  · cases h
  · exact Option.some.inj h ▸ fresh_restore {} _
  · exact Option.some.inj h ▸ ⟨by decide, by decide, rfl, rfl, rfl⟩

theorem timer_write_of_starts (riot : Riot) {address : UInt16} {value : UInt8}
    (h : (Event.write address value).starts = true) :
    (riot.write address value).timer = .start (0x0280 + (address &&& 0x1F)) value := by
  simp only [Event.starts, Bool.and_eq_true, decide_eq_true_eq] at h
  have hne (register : UInt16) (hlow : register < 0x14) : address &&& 0x1F ≠ register := fun heq =>
    UInt16.not_le.2 hlow (heq ▸ h.1)
  unfold write
  rw [if_neg (hne 0 (by decide)), if_neg (hne 1 (by decide)), if_neg (hne 2 (by decide)),
    if_neg (hne 3 (by decide)), if_pos h]

/-- What a use does to the timer: time passes, or a fresh one is put in place, or the flag may be
taken back. -/
theorem timer_after?_cases {riot after : Riot} {use : Use} (h : riot.after? use = some after) :
    (∃ cycles, use = .event (.advance cycles) ∧ riot.timer.advance? cycles = some after.timer) ∨
      use.timer? = some after.timer ∨
      use.timer? = none ∧ use.batch? = none ∧
        (after.timer = riot.timer ∨ after.timer = { riot.timer with raised := false }) := by
  cases use with
  | restore data =>
    obtain rfl := Option.some.inj h
    exact .inr (.inl rfl)
  | reset =>
    obtain rfl := Option.some.inj h
    exact .inr (.inl rfl)
  | event happening =>
    cases happening with
    | advance cycles =>
      obtain ⟨timer, htimer, rfl⟩ := Option.map_eq_some_iff.1 h
      exact .inl ⟨cycles, rfl, htimer⟩
    | drive =>
      obtain rfl := Option.some.inj h
      exact .inr (.inr ⟨rfl, rfl, .inl rfl⟩)
    | read address =>
      obtain rfl := Option.some.inj h
      refine .inr (.inr ⟨rfl, rfl, ?_⟩)
      simp only [after, read]
      split
      · exact .inl rfl
      · exact .inr rfl
    | write address value =>
      obtain rfl := Option.some.inj h
      by_cases hstarts : (Event.write address value).starts = true
      · refine .inr (.inl ?_)
        exact (if_pos hstarts).trans (congrArg some (riot.timer_write_of_starts hstarts).symm)
      · obtain ⟨_, hadvance⟩ | ⟨-, htimer⟩ :=
          riot.timer_after_cases (Bool.not_eq_true _ ▸ hstarts)
        · cases hadvance
        · exact .inr (.inr ⟨if_neg hstarts, rfl, .inl htimer⟩)

end Riot

/-! ## What is in range -/

namespace Timer

variable {timer after : Timer} {cycles : Nat}

/-- The countdown is in its range and, until the timer has expired, the count shows the whole
intervals that are left of it. -/
structure Sound (timer : Timer) : Prop where
  prescaler_pos : 0 < timer.prescaler.toNat
  lowest_le : lowestCountdown ≤ timer.remaining
  remaining_le : timer.remaining ≤ (255 * timer.prescaler.toNat : Nat)
  count_eq : timer.expired = false →
    0 ≤ timer.remaining ∧ (timer.count.toNat : Int) = timer.remaining / timer.prescaler.toNat

theorem Fresh.sound (h : timer.Fresh) : timer.Sound where
  prescaler_pos := h.prescaler_pos
  lowest_le := by
    rw [h.remaining_eq, lowestCountdown]
    omega
  remaining_le := by
    rw [h.remaining_eq, Int.ofNat_le, Nat.mul_comm]
    exact Nat.mul_le_mul_right _ (Nat.le_of_lt_succ timer.intervals.toNat_lt)
  count_eq _ := by
    rw [h.remaining_eq, h.count_eq, ← Int.natCast_ediv, Nat.mul_div_cancel_left _ h.prescaler_pos]
    omega

theorem Sound.acknowledge (h : timer.Sound) : Sound { timer with raised := false } :=
  ⟨h.prescaler_pos, h.lowest_le, h.remaining_le, h.count_eq⟩

theorem advance?_eq_some (h : timer.advance? cycles = some after) :
    (timer.counting = true →
      lowestCountdown ≤ timer.remaining - (min cycles batchLimit : Nat)) ∧
      after = timer.advance cycles := by
  unfold advance? at h
  split at h
  · cases h
  · rename_i hfits
    refine ⟨fun hcounting => Int.not_lt.1 fun hlow => hfits ⟨hcounting, hlow⟩, ?_⟩
    exact (Option.some.inj h).symm

theorem Sound.advance? (h : timer.Sound) (hafter : timer.advance? cycles = some after) :
    after.Sound := by
  obtain ⟨hfits, rfl⟩ := advance?_eq_some hafter
  have hpos := h.prescaler_pos
  have hhigh := h.remaining_le
  unfold advance
  cases hcounting : timer.counting with
  | false => exact h
  | true =>
    have hlow := hfits hcounting
    rw [if_pos rfl]
    dsimp only
    generalize hleft : timer.remaining - (min cycles batchLimit : Nat) = left at *
    have hle : left ≤ (255 * timer.prescaler.toNat : Nat) := by omega
    split
    · rename_i hexpired
      have hnot : timer.expired ≠ false := Bool.ne_false_iff.2 hexpired
      split <;> exact ⟨hpos, hlow, hle, fun hrunning => absurd hrunning hnot⟩
    · split
      · rename_i hpositive
        refine ⟨hpos, hlow, hle, fun _ => ⟨Int.le_of_lt hpositive, ?_⟩⟩
        have hsmall : left / timer.prescaler.toNat < 256 :=
          Int.ediv_lt_of_lt_mul (by omega) (by omega)
        rw [toNat_ofInt]
        exact Int.emod_eq_of_lt (Int.ediv_nonneg (by omega) (by omega)) hsmall
      · exact ⟨hpos, hlow, hle, nofun⟩

end Timer

namespace Riot

open Timer

variable {riot after : Riot} {use : Use}

theorem sound_after? (h : riot.timer.Sound) (hafter : riot.after? use = some after) :
    after.timer.Sound := by
  rcases timer_after?_cases hafter with ⟨cycles, -, hadvance⟩ | hfresh | ⟨-, -, hsame | hback⟩
  · exact h.advance? hadvance
  · exact (Use.fresh hfresh).sound
  · exact hsame ▸ h
  · exact hback ▸ h.acknowledge

/-! ## The last countdown -/

/-- What a history tells of the countdown that was started last: the cycles it spans, its prescaler,
and the batches since, each as far as it counts. -/
structure Countdown where
  span : Nat
  prescaler : Nat
  batches : List Nat

namespace Countdown

/-- The countdown of a timer that is put in place, if it counts. -/
def ofTimer (timer : Timer) : Option Countdown :=
  if timer.counting then
    some ⟨timer.prescaler.toNat * timer.intervals.toNat, timer.prescaler.toNat, []⟩
  else none

def next (countdown : Option Countdown) (use : Use) : Option Countdown :=
  match use.timer?, use.batch? with
  | some timer, _ => ofTimer timer
  | none, some cycles => countdown.map fun countdown =>
    { countdown with batches := countdown.batches ++ [min cycles batchLimit] }
  | none, none => countdown

/-- The last countdown in a history that begins at power-on. -/
def last (uses : List Use) : Option Countdown := uses.foldl next none

/-- A timer may have come from a history with this last countdown. -/
def Follows (countdown : Option Countdown) (timer : Timer) : Prop :=
  match countdown with
  | none => timer.counting = false
  | some countdown =>
    Tells countdown.span countdown.prescaler countdown.batches timer ∧
      countdown.span ≤ 255 * countdown.prescaler

/-- The next batch takes the countdown below its range: the timer still counts, and comes to be more
than 2^31 cycles past the span. -/
def Overflows (countdown : Countdown) (cycles : Nat) : Prop :=
  ¬ RunOut countdown.span countdown.batches ∧
    countdown.span + 2 ^ 31 < countdown.batches.sum + min cycles batchLimit

end Countdown

open Countdown

theorem follows_ofTimer {timer : Timer} (h : timer.Fresh) : Follows (ofTimer timer) timer := by
  unfold ofTimer
  split
  · rename_i hcounting
    refine ⟨?_, span_le timer.prescaler.toNat timer.intervals⟩
    exact {
      prescaler_eq := rfl
      expired_iff := iff_of_false (by simp [h.expired_eq]) (not_reached_nil _)
      counting_iff := iff_of_true hcounting fun hout => not_reached_nil _ hout.1
      remaining_eq := fun _ => by simp [h.remaining_eq]
      count_eq := by
        rw [shown, if_pos (not_reached_nil _), h.count_eq, List.sum_nil, Int.natCast_zero,
          Int.sub_zero, ← Int.natCast_ediv, Nat.mul_div_cancel_left _ h.prescaler_pos]
      reached_of_raised := fun hraised => by simp [h.raised_eq] at hraised }
  · rename_i hcounting
    exact Bool.eq_false_iff.2 hcounting

theorem advance_min (timer : Timer) (cycles : Nat) :
    timer.advance (min cycles batchLimit) = timer.advance cycles := by
  unfold Timer.advance
  rw [Nat.min_assoc, Nat.min_self]

theorem follows_next {countdown : Option Countdown} (h : Follows countdown riot.timer)
    (hafter : riot.after? use = some after) : Follows (next countdown use) after.timer := by
  rcases timer_after?_cases hafter with
    ⟨cycles, rfl, hadvance⟩ | hfresh | ⟨htimer, hbatch, hkept⟩
  · obtain ⟨-, htimer⟩ := advance?_eq_some hadvance
    show Follows (countdown.map _) after.timer
    rw [htimer]
    cases countdown with
    | none =>
      have hcounting : riot.timer.counting = false := h
      simp [Follows, Timer.advance, hcounting]
    | some countdown =>
      obtain ⟨htells, hspan⟩ := h
      rw [← advance_min]
      exact ⟨htells.advance hspan (Nat.min_le_right ..), hspan⟩
  · simp only [next, hfresh]
    exact follows_ofTimer (Use.fresh hfresh)
  · simp only [next, htimer, hbatch]
    rcases hkept with hsame | hback
    · exact hsame ▸ h
    · rw [hback]
      cases countdown with
      | none => exact h
      | some countdown => exact ⟨h.1.acknowledge, h.2⟩

/-- When a batch takes the countdown below its range. -/
theorem advance?_eq_none_iff {countdown : Option Countdown} (h : Follows countdown riot.timer)
    (cycles : Nat) :
    riot.advance? cycles = none ↔ ∃ last ∈ countdown, Overflows last cycles := by
  have hcheck : riot.advance? cycles = none ↔ riot.timer.counting = true ∧
      riot.timer.remaining - (min cycles batchLimit : Nat) < lowestCountdown := by
    rw [Riot.advance?, Option.map_eq_none_iff, Timer.advance?]
    simp
  rw [hcheck]
  cases countdown with
  | none =>
    have hcounting : riot.timer.counting = false := h
    simp [hcounting]
  | some countdown =>
    obtain ⟨htells, -⟩ := h
    simp only [Option.mem_def, Option.some.injEq, exists_eq_left', Overflows,
      ← htells.counting_iff]
    refine and_congr_right fun hcounting => ?_
    rw [htells.remaining_eq hcounting, lowestCountdown]
    omega

/-! ## Histories -/

theorem play?_concat (uses : List Use) (use : Use) :
    riot.play? (uses ++ [use]) = (riot.play? uses).bind (·.after? use) := by
  simp [play?, List.foldlM_append]

theorem follows_play? {uses : List Use} (h : play? {} uses = some riot) :
    Follows (last uses) riot.timer := by
  induction uses using List.reverseRecOn generalizing riot with
  | nil => exact Option.some.inj h ▸ rfl
  | append_singleton uses use ih =>
    rw [play?_concat] at h
    obtain ⟨before, hbefore, hafter⟩ := Option.bind_eq_some_iff.1 h
    rw [last, List.foldl_append]
    exact follows_next (ih hbefore) hafter

theorem sound_play? {uses : List Use} (h : play? {} uses = some riot) : riot.timer.Sound := by
  induction uses using List.reverseRecOn generalizing riot with
  | nil =>
    obtain rfl := Option.some.inj h
    have hfresh : Use.reset.timer? = some {} := rfl
    exact (Use.fresh hfresh).sound
  | append_singleton uses use ih =>
    rw [play?_concat] at h
    obtain ⟨before, hbefore, hafter⟩ := Option.bind_eq_some_iff.1 h
    exact sound_after? (ih hbefore) hafter

theorem after?_eq_none (h : riot.after? use = none) :
    ∃ cycles, use = .event (.advance cycles) ∧ riot.advance? cycles = none := by
  cases use with
  | restore | reset => cases h
  | event happening =>
    cases happening with
    | advance cycles => exact ⟨cycles, rfl, h⟩
    | read | write | drive => cases h

theorem play?_eq_none_iff (uses : List Use) :
    play? {} uses = none ↔ ∃ before cycles, before ++ [.event (.advance cycles)] <+: uses ∧
      ∃ countdown ∈ last before, Overflows countdown cycles := by
  induction uses using List.reverseRecOn with
  | nil => simp [play?]
  | append_singleton uses use ih =>
    rw [play?_concat]
    constructor
    · intro hnone
      cases hplay : play? {} uses with
      | none =>
        obtain ⟨before, cycles, hprefix, hover⟩ := ih.1 hplay
        exact ⟨before, cycles, hprefix.trans (List.prefix_append ..), hover⟩
      | some riot =>
        rw [hplay] at hnone
        obtain ⟨cycles, rfl, hadvance⟩ := after?_eq_none hnone
        exact ⟨uses, cycles, List.prefix_rfl,
          (advance?_eq_none_iff (follows_play? hplay) cycles).1 hadvance⟩
    · rintro ⟨before, cycles, hprefix, hover⟩
      rcases List.prefix_concat_iff.1 hprefix with heq | hbefore
      · obtain ⟨rfl, hlast⟩ := List.append_inj' heq rfl
        obtain rfl := List.singleton_inj.1 hlast
        cases hplay : play? {} before with
        | none => rfl
        | some riot => exact (advance?_eq_none_iff (follows_play? hplay) cycles).2 hover
      · rw [ih.2 ⟨before, cycles, hbefore, hover⟩]
        rfl

theorem Use.eq_of_batch? {use : Use} {cycles : Nat} (h : use.batch? = some cycles) :
    use = .event (.advance cycles) := by
  cases use with
  | restore | reset => cases h
  | event happening =>
    cases happening with
    | advance cycles => exact Option.some.inj h ▸ rfl
    | read | write | drive => cases h

/-- A batch of a countdown is one from before, or the cycles that have just passed. -/
theorem mem_batches_next {countdown : Option Countdown} {afterwards : Countdown} {batch : Nat}
    (hnext : afterwards ∈ next countdown use) (hbatch : batch ∈ afterwards.batches) :
    (∃ before ∈ countdown, batch ∈ before.batches) ∨
      ∃ cycles, use = .event (.advance cycles) ∧ batch = min cycles batchLimit := by
  unfold next at hnext
  split at hnext
  · unfold ofTimer at hnext
    split at hnext
    · cases hnext
      cases hbatch
    · cases hnext
  · rename_i cycles _ hcycles
    obtain ⟨before, hbefore, rfl⟩ := Option.map_eq_some_iff.1 hnext
    rcases List.mem_append.1 hbatch with hold | hnew
    · exact .inl ⟨before, hbefore, hold⟩
    · exact .inr ⟨cycles, Use.eq_of_batch? hcycles, List.mem_singleton.1 hnew⟩
  · exact .inl ⟨afterwards, hnext, hbatch⟩

theorem mem_batches_last {uses : List Use} {countdown : Countdown} {batch : Nat}
    (hlast : countdown ∈ last uses) (hbatch : batch ∈ countdown.batches) :
    ∃ cycles, .event (.advance cycles) ∈ uses ∧ batch = min cycles batchLimit := by
  induction uses using List.reverseRecOn generalizing countdown with
  | nil => cases hlast
  | append_singleton uses use ih =>
    rw [last, List.foldl_append] at hlast
    rcases mem_batches_next hlast hbatch with ⟨before, hbefore, hold⟩ | ⟨cycles, rfl, hnew⟩
    · obtain ⟨cycles, hmem, heq⟩ := ih hbefore hold
      exact ⟨cycles, List.mem_append_left _ hmem, heq⟩
    · exact ⟨cycles, by simp, hnew⟩

/-- The batch that reaches the end of the span goes no further past it than it is long, and the next
one no further past that. -/
theorem not_overflows_of_le {countdown : Countdown} {cycles : Nat}
    (hbatches : ∀ batch ∈ countdown.batches, batch ≤ 2 ^ 30) (hcycles : cycles ≤ 2 ^ 30) :
    ¬ Overflows countdown cycles := by
  rintro ⟨hout, hover⟩
  have hmin : min cycles batchLimit ≤ 2 ^ 30 := Nat.le_trans (Nat.min_le_left ..) hcycles
  obtain ⟨span, prescaler, batches⟩ := countdown
  dsimp only at *
  obtain rfl | ⟨earlier, latest, rfl⟩ := batches.eq_nil_or_concat
  · rw [List.sum_nil] at hover
    omega
  · rw [List.concat_eq_append] at *
    have hlatest : latest ≤ 2 ^ 30 := hbatches latest (by simp)
    rw [runOut_concat] at hout
    rw [List.sum_append, List.sum_singleton] at hover
    by_cases hreached : Reached span earlier
    · have hnear : ¬ span + 255 < earlier.sum + latest := fun hfar => hout ⟨hreached, hfar⟩
      omega
    · obtain rfl | hne := eq_or_ne earlier []
      · rw [List.sum_nil] at hover
        omega
      · have hshort : ¬ span ≤ earlier.sum := fun hle => hreached ⟨hne, hle⟩
        omega

/-- From power-on, whatever is done: a run has no result exactly if somewhere in it a batch finds
the timer counting and takes it more than 2^31 cycles past the span of the last countdown. That does
not happen while no batch is longer than 2^30 cycles. Otherwise the countdown is in its range, and
until the timer has expired the count is the whole intervals that are left, which fit into it. -/
theorem countdown_inRange (uses : List Use) :
    (play? {} uses = none ↔ ∃ before cycles, before ++ [.event (.advance cycles)] <+: uses ∧
      ∃ countdown ∈ last before, Overflows countdown cycles) ∧
    ((∀ cycles, .event (.advance cycles) ∈ uses → cycles ≤ 2 ^ 30) → play? {} uses ≠ none) ∧
    ∀ riot, play? {} uses = some riot →
      -0x80000000 ≤ riot.timer.remaining ∧ riot.timer.remaining < 0x80000000 ∧
      (riot.timer.expired = false →
        riot.timer.remaining / riot.timer.prescaler.toNat ≤ 255 ∧
          (riot.timer.count.toNat : Int) = riot.timer.remaining / riot.timer.prescaler.toNat) := by
  refine ⟨play?_eq_none_iff uses, fun hshort hnone => ?_, fun riot hplay => ?_⟩
  · obtain ⟨before, cycles, ⟨since, rfl⟩, countdown, hlast, hover⟩ :=
      (play?_eq_none_iff uses).1 hnone
    refine not_overflows_of_le (fun batch hbatch => ?_) (hshort cycles (by simp)) hover
    obtain ⟨earlier, hmem, rfl⟩ := mem_batches_last hlast hbatch
    exact Nat.le_trans (Nat.min_le_left ..) (hshort earlier (by simp [hmem]))
  · obtain ⟨-, hlowest, hhighest, hcount⟩ := sound_play? hplay
    have hprescaler := riot.timer.prescaler.toNat_lt
    rw [lowestCountdown] at hlowest
    refine ⟨by omega, by omega, fun hexpired => ?_⟩
    have hbyte := riot.timer.count.toNat_lt
    obtain ⟨-, hquotient⟩ := hcount hexpired
    exact ⟨by omega, hquotient⟩

/-- No intervals, and two batches: the first one reaches the end and goes far past it, the second
one goes further. -/
example : play? {} [.event (.write 0x0294 0), .event (.advance 2147483647), .event (.advance 2)] =
    none := by decide

end Riot
end Console7800
