import Console7800.Proofs.SystemBus.Change
import Mathlib.Algebra.GroupWithZero.Nat
import Mathlib.Data.List.Induction

/-!
# The countdown in closed form

A countdown spans its intervals times its prescaler, in cycles. The batch that reaches the end of
the span shows zero, however far past it goes; the batches after it count single cycles, and those
too far past the span find the timer stopped (`countdown_play`). So what is shown depends on how
time is cut into batches, but only once the span is passed, and only by whether the last batch is
the one that reached its end (`observed_batches_iff`).
-/

namespace Console7800

theorem toNat_ofInt (x : Int) : ((UInt8.ofInt x).toNat : Int) = x % 256 := by
  have hlow : (UInt8.ofInt x).toNat = (x % 256).toNat := by
    simp [UInt8.ofInt, UInt8.toNat_ofNat']
    omega
  omega

theorem sum_take_le (batches : List Nat) (i : Nat) : (batches.take i).sum ≤ batches.sum := by
  have hsum := congrArg List.sum (List.take_append_drop i batches)
  rw [List.sum_append] at hsum
  omega

namespace Timer

/-- Batches have reached the end of a span. It takes a batch, also for a span of no cycles. -/
def Reached (span : Nat) (batches : List Nat) : Prop := batches ≠ [] ∧ span ≤ batches.sum

instance (span : Nat) (batches : List Nat) : Decidable (Reached span batches) :=
  inferInstanceAs (Decidable (_ ∧ _))

@[simp] theorem reached_concat {span : Nat} {batches : List Nat} {cycles : Nat} :
    Reached span (batches ++ [cycles]) ↔ span ≤ batches.sum + cycles := by
  simp [Reached]

theorem not_reached_nil (span : Nat) : ¬ Reached span [] := fun h => h.1 rfl

theorem reached_take {span i j : Nat} {batches : List Nat} (hpos : 1 ≤ i)
    (hle : i ≤ batches.length) (hij : i ≤ j) (h : span ≤ (batches.take i).sum) :
    Reached span (batches.take j) := by
  have hsum := sum_take_le (batches.take j) i
  rw [List.take_take, Nat.min_eq_left hij] at hsum
  refine ⟨fun hnil => ?_, by omega⟩
  have hlength := congrArg List.length hnil
  rw [List.length_take, List.length_nil] at hlength
  omega

theorem reached_dropLast {span i : Nat} {batches : List Nat} (hpos : 1 ≤ i)
    (hlt : i < batches.length) (h : span ≤ (batches.take i).sum) :
    Reached span batches.dropLast := by
  rw [List.dropLast_eq_take]
  exact reached_take hpos (Nat.le_of_lt hlt) (by omega) h

theorem not_reached_take {span k : Nat} {batches : List Nat}
    (h : ∀ i, 1 ≤ i → i ≤ k → (batches.take i).sum < span) : ¬ Reached span (batches.take k) := by
  rintro ⟨hne, hle⟩
  rcases Nat.eq_zero_or_pos k with rfl | hpos
  · exact hne rfl
  · have := h k hpos (Nat.le_refl k)
    omega

/-- What a countdown of `span` cycles shows after `batches`. -/
def shown (span prescaler : Nat) (batches : List Nat) : Int :=
  if ¬ Reached span batches then ((span : Int) - batches.sum) / prescaler
  else if Reached span batches.dropLast ∧ batches.sum ≤ span + 255 then
    ((span : Int) - batches.sum) % 256
  else 0

/-- The batches have gone on for more than 255 cycles past the span. -/
def RunOut (span : Nat) (batches : List Nat) : Prop :=
  Reached span batches.dropLast ∧ span + 255 < batches.sum

/-- A timer that was started for `span` cycles, after `batches`. -/
structure Tells (span prescaler : Nat) (batches : List Nat) (timer : Timer) : Prop where
  prescaler_eq : timer.prescaler.toNat = prescaler
  expired_iff : timer.expired = true ↔ Reached span batches
  counting_iff : timer.counting = true ↔ ¬ RunOut span batches
  remaining_eq : timer.counting = true → timer.remaining = (span : Int) - batches.sum
  count_eq : (timer.count.toNat : Int) = shown span prescaler batches
  reached_of_raised : timer.raised = true → Reached span batches

theorem Tells.acknowledge {span prescaler : Nat} {batches : List Nat} {timer : Timer}
    (h : Tells span prescaler batches timer) :
    Tells span prescaler batches { timer with raised := false } :=
  ⟨h.prescaler_eq, h.expired_iff, h.counting_iff, h.remaining_eq, h.count_eq, nofun⟩

theorem tells_start (register : UInt16) (intervals : UInt8) {prescaler : Nat}
    (h : (prescalerOf register).toNat = prescaler) (hpos : 0 < prescaler) :
    Tells (prescaler * intervals.toNat) prescaler [] (start register intervals) where
  prescaler_eq := h
  expired_iff := iff_of_false Bool.false_ne_true (not_reached_nil _)
  counting_iff := iff_of_true rfl fun hout => not_reached_nil _ hout.1
  remaining_eq _ := by
    simp [start, h]
  count_eq := by
    rw [shown, if_pos (not_reached_nil _)]
    simp [start, Int.mul_ediv_cancel_left _ (Int.natCast_ne_zero.2 (Nat.ne_of_gt hpos))]
  reached_of_raised := nofun

section

variable {span prescaler : Nat} {batches : List Nat} {timer : Timer} {cycles : Nat}

@[simp] theorem runOut_concat :
    RunOut span (batches ++ [cycles]) ↔
      Reached span batches ∧ span + 255 < batches.sum + cycles := by
  simp [RunOut]

theorem Reached.of_dropLast (h : Reached span batches.dropLast) : Reached span batches := by
  obtain ⟨hne, hle⟩ := h
  have hsum := sum_take_le batches (batches.length - 1)
  rw [← List.dropLast_eq_take] at hsum
  exact ⟨fun hnil => hne (by rw [hnil]; rfl), by omega⟩

theorem RunOut.reached (h : RunOut span batches) : Reached span batches := h.1.of_dropLast

theorem shown_concat :
    shown span prescaler (batches ++ [cycles]) =
      if batches.sum + cycles < span then ((span : Int) - (batches.sum + cycles : Nat)) / prescaler
      else if Reached span batches ∧ batches.sum + cycles ≤ span + 255 then
        ((span : Int) - (batches.sum + cycles : Nat)) % 256
      else 0 := by
  simp [shown]

theorem shown_of_runOut (h : RunOut span batches) : shown span prescaler batches = 0 := by
  rw [shown, if_neg (not_not_intro h.reached), if_neg fun hlate => ?_]
  have := h.2
  omega

theorem Tells.stopped_iff (h : Tells span prescaler batches timer) :
    timer.counting = false ↔ RunOut span batches := by
  rw [← Bool.not_eq_true, h.counting_iff, not_not]

/-- Two ways of cutting the same time leave the same behind exactly if both or neither reach the end
of the span and, past it, both or neither go on after the batch that reaches it. -/
theorem shown_eq_iff {other : List Nat} (hsum : batches.sum = other.sum) :
    shown span prescaler batches = shown span prescaler other ∧
        (Reached span batches ↔ Reached span other) ∧
          (RunOut span batches ↔ RunOut span other) ↔
      (Reached span batches ↔ Reached span other) ∧
        (batches.sum ≤ span ∨ (Reached span batches.dropLast ↔ Reached span other.dropLast)) := by
  unfold shown RunOut
  have hle (h : Reached span batches) : span ≤ batches.sum := h.2
  rw [hsum] at hle ⊢
  generalize other.sum = total at hle
  by_cases h₁ : Reached span batches <;> by_cases h₂ : Reached span other
  · -- both have reached the end, and what counts is who went on after that
    have hpast := hle h₁
    by_cases hlate₁ : Reached span batches.dropLast <;>
      by_cases hlate₂ : Reached span other.dropLast <;>
      simp [h₁, h₂, hlate₁, hlate₂] <;>
      omega
  · simp [h₁, h₂]
  · simp [h₁, h₂]
  · simp [h₁, h₂, mt Reached.of_dropLast h₁, mt Reached.of_dropLast h₂]

theorem le_batchLimit {passed : Nat} (h : passed + cycles < 2 ^ 31) : cycles ≤ batchLimit := by
  rw [batchLimit]
  omega

theorem Tells.remaining_sub (h : Tells span prescaler batches timer)
    (hcounting : timer.counting = true) (hcycles : cycles ≤ batchLimit) :
    timer.remaining - (min cycles batchLimit : Nat) =
      (span : Int) - (batches.sum + cycles : Nat) := by
  rw [h.remaining_eq hcounting, Nat.min_eq_left hcycles]
  omega

theorem Tells.advance_stopped (h : Tells span prescaler batches timer)
    (hcounting : timer.counting = false) :
    Tells span prescaler (batches ++ [cycles]) (timer.advance cycles) := by
  have hout := h.stopped_iff.1 hcounting
  have hout' : RunOut span (batches ++ [cycles]) :=
    runOut_concat.2 ⟨hout.reached, Nat.lt_add_right cycles hout.2⟩
  rw [Timer.advance, hcounting]
  exact {
    prescaler_eq := h.prescaler_eq
    expired_iff := iff_of_true (h.expired_iff.2 hout.reached) hout'.reached
    counting_iff := iff_of_false (by simp [hcounting]) (not_not_intro hout')
    remaining_eq := fun hc => by simp [hcounting] at hc
    count_eq := by
      rw [shown_of_runOut hout', ← shown_of_runOut hout]
      exact h.count_eq
    reached_of_raised := fun _ => hout'.reached }

/-- Past the span a batch goes on counting, or goes too far and stops the timer. -/
theorem Tells.advance_expired (h : Tells span prescaler batches timer)
    (hcounting : timer.counting = true) (hexpired : timer.expired = true)
    (hcycles : cycles ≤ batchLimit) :
    Tells span prescaler (batches ++ [cycles]) (timer.advance cycles) := by
  have hreached := h.expired_iff.1 hexpired
  have hpast : span ≤ batches.sum + cycles := Nat.le_add_right_of_le hreached.2
  have hreached' : Reached span (batches ++ [cycles]) := reached_concat.2 hpast
  simp only [Timer.advance, hcounting, hexpired, if_true, h.remaining_sub hcounting hcycles]
  split
  · exact {
      prescaler_eq := h.prescaler_eq
      expired_iff := iff_of_true rfl hreached'
      counting_iff := iff_of_true rfl (by rw [runOut_concat]; omega)
      remaining_eq := fun _ => by simp
      count_eq := by
        rw [toNat_ofInt, shown_concat, if_neg (by omega), if_pos ⟨hreached, by omega⟩]
      reached_of_raised := fun _ => hreached' }
  · exact {
      prescaler_eq := h.prescaler_eq
      expired_iff := iff_of_true rfl hreached'
      counting_iff := iff_of_false Bool.false_ne_true
        (not_not_intro (runOut_concat.2 ⟨hreached, by omega⟩))
      remaining_eq := nofun
      count_eq := by
        rw [shown_concat, if_neg (by omega), if_neg (by omega)]
        rfl
      reached_of_raised := fun _ => hreached' }

/-- Within the span a batch leaves whole intervals, or reaches the end. -/
theorem Tells.advance_running (h : Tells span prescaler batches timer)
    (hexpired : timer.expired = false) (hspan : span ≤ 255 * prescaler)
    (hcycles : cycles ≤ batchLimit) :
    Tells span prescaler (batches ++ [cycles]) (timer.advance cycles) := by
  have hnot : ¬ Reached span batches := fun hreached => by
    simp [h.expired_iff.2 hreached] at hexpired
  have hcounting : timer.counting = true := h.counting_iff.2 fun hout => hnot hout.reached
  have hout : ¬ RunOut span (batches ++ [cycles]) := fun hout => hnot (runOut_concat.1 hout).1
  simp only [Timer.advance, hcounting, hexpired, if_true, Bool.false_eq_true, if_false,
    h.remaining_sub hcounting hcycles]
  split
  · exact {
      prescaler_eq := h.prescaler_eq
      expired_iff := iff_of_false Bool.false_ne_true (by rw [reached_concat]; omega)
      counting_iff := iff_of_true rfl hout
      remaining_eq := fun _ => by simp
      count_eq := by
        have hsmall : ((span : Int) - (batches.sum + cycles : Nat)) / prescaler < 256 := by
          refine Int.ediv_lt_of_lt_mul ?_ ?_ <;> omega
        rw [toNat_ofInt, shown_concat, if_pos (by omega), h.prescaler_eq]
        refine Int.emod_eq_of_lt (Int.ediv_nonneg ?_ ?_) hsmall <;> omega
      reached_of_raised := fun hraised => absurd (h.reached_of_raised hraised) hnot }
  · have hreached' : Reached span (batches ++ [cycles]) := reached_concat.2 (by omega)
    exact {
      prescaler_eq := h.prescaler_eq
      expired_iff := iff_of_true rfl hreached'
      counting_iff := iff_of_true rfl hout
      remaining_eq := fun _ => by simp
      count_eq := by
        rw [shown_concat, if_neg (by omega), if_neg fun hlate => hnot hlate.1]
        rfl
      reached_of_raised := fun _ => hreached' }

theorem Tells.advance (h : Tells span prescaler batches timer) (hspan : span ≤ 255 * prescaler)
    (hcycles : cycles ≤ batchLimit) :
    Tells span prescaler (batches ++ [cycles]) (timer.advance cycles) := by
  cases hcounting : timer.counting with
  | false => exact h.advance_stopped hcounting
  | true =>
    cases hexpired : timer.expired with
    | false => exact h.advance_running hexpired hspan hcycles
    | true => exact h.advance_expired hcounting hexpired hcycles

theorem Tells.count_of_not_reached (h : Tells span prescaler batches timer)
    (hnot : ¬ Reached span batches) : timer.count.toNat = (span - batches.sum) / prescaler := by
  have hle : batches.sum ≤ span := by
    by_contra hlt
    refine hnot ⟨fun hnil => ?_, by omega⟩
    rw [hnil, List.sum_nil] at hlt
    omega
  have hcount := h.count_eq
  rw [shown, if_pos hnot, ← Int.ofNat_sub hle, ← Int.natCast_ediv] at hcount
  exact Int.ofNat_inj.1 hcount

theorem Tells.count_of_expiring (h : Tells span prescaler batches timer)
    (hreached : Reached span batches) (hnot : ¬ Reached span batches.dropLast) :
    timer.count = 0 := by
  have hcount := h.count_eq
  rw [shown, if_neg (not_not_intro hreached), if_neg fun hlate => hnot hlate.1] at hcount
  exact UInt8.toNat_inj.1 (Int.ofNat_inj.1 hcount)

theorem Tells.count_of_late (h : Tells span prescaler batches timer)
    (hlate : Reached span batches.dropLast) (hnear : batches.sum ≤ span + 255) :
    (timer.count.toNat : Int) = ((span : Int) - batches.sum) % 256 := by
  rw [h.count_eq, shown, if_neg (not_not_intro hlate.of_dropLast), if_pos ⟨hlate, hnear⟩]

theorem Tells.count_of_runOut (h : Tells span prescaler batches timer)
    (hout : RunOut span batches) : timer.count = 0 := by
  have hcount := h.count_eq
  rw [shown_of_runOut hout] at hcount
  exact UInt8.toNat_inj.1 (Int.ofNat_inj.1 hcount)

theorem advance_of_expired (h : timer.expired = true) (cycles : Nat) :
    (timer.advance cycles).expired = true ∧ (timer.advance cycles).raised = timer.raised := by
  simp only [Timer.advance, h, if_true]
  split
  · split <;> exact ⟨rfl, rfl⟩
  · exact ⟨h, rfl⟩

theorem Tells.raised_advance (h : Tells span prescaler batches timer)
    (hcycles : cycles ≤ batchLimit) :
    (timer.advance cycles).raised = true ↔
      timer.raised = true ∨ ¬ Reached span batches ∧ span ≤ batches.sum + cycles := by
  cases hcounting : timer.counting with
  | false =>
    have hreached := (h.stopped_iff.1 hcounting).reached
    simp [Timer.advance, hcounting, hreached]
  | true =>
    have hremaining := h.remaining_sub hcounting hcycles
    cases hexpired : timer.expired with
    | true =>
      rw [(advance_of_expired hexpired cycles).2]
      simp [h.expired_iff.1 hexpired]
    | false =>
      have hnot : ¬ Reached span batches := fun hreached => by
        simp [h.expired_iff.2 hreached] at hexpired
      simp only [Timer.advance, hcounting, hexpired, if_true, Bool.false_eq_true, if_false,
        hremaining]
      split
      · simp only [hnot, not_false_eq_true, true_and]
        exact (or_iff_left (by omega)).symm
      · exact iff_of_true rfl (.inr ⟨hnot, by omega⟩)

end

end Timer

namespace Riot

open Timer

/-! ## Playing events -/

/-- The event starts a countdown. -/
def Event.starts : Event → Bool
  | .write address _ => 0x14 ≤ address &&& 0x1F && address &&& 0x1F ≤ 0x17
  | _ => false

/-- The event takes the flag back: it is a read with address bit 2 set. -/
def Event.acknowledges : Event → Bool
  | .read address => address &&& 0x04 != 0
  | _ => false

/-- The cycles that pass in the event, if it is for them. -/
def Event.batch? : Event → Option Nat
  | .advance cycles => some cycles
  | _ => none

def play (riot : Riot) (events : List Event) : Riot := events.foldl after riot

/-- The batches in which time passes. -/
def batches (events : List Event) : List Nat := events.filterMap Event.batch?

/-- What happens after the `count`th batch. -/
def since : Nat → List Event → List Event
  | 0, events => events
  | _ + 1, [] => []
  | count + 1, .advance _ :: events => since count events
  | count + 1, _ :: events => since (count + 1) events

theorem play_append (riot : Riot) (first second : List Event) :
    riot.play (first ++ second) = (riot.play first).play second :=
  List.foldl_append

theorem batches_append (first second : List Event) :
    batches (first ++ second) = batches first ++ batches second :=
  List.filterMap_append

theorem mem_since {count : Nat} {events : List Event} {event : Event}
    (h : event ∈ since count events) : event ∈ events := by
  fun_induction since count events with
  | case1 => exact h
  | case2 => cases h
  | case3 count cycles events ih => exact List.mem_cons_of_mem _ (ih h)
  | case4 count other events _ ih => exact List.mem_cons_of_mem _ (ih h)

/-- What happens to the timer: time passes, or the flag may be taken back. -/
theorem timer_after_cases (riot : Riot) {event : Event} (h : event.starts = false) :
    (∃ cycles, event = .advance cycles) ∨ event.batch? = none ∧
      (riot.after event).timer =
        if event.acknowledges then { riot.timer with raised := false } else riot.timer := by
  cases event with
  | advance cycles => exact .inl ⟨cycles, rfl⟩
  | drive => exact .inr ⟨rfl, rfl⟩
  | read address =>
    refine .inr ⟨rfl, ?_⟩
    by_cases hbit : address &&& 0x04 = 0
    · simp [after, read, Event.acknowledges, hbit]
    · simp [after, read, Event.acknowledges, hbit]
  | write address value =>
    refine .inr ⟨rfl, ?_⟩
    simp only [Event.starts, Bool.and_eq_false_iff, decide_eq_false_iff_not, ← not_and_or] at h
    simp only [after, write, Event.acknowledges, Bool.false_eq_true, if_false, h]
    repeat' split
    all_goals rfl

theorem exists_since {count : Nat} {events : List Event} (hpos : 1 ≤ count)
    (hle : count ≤ (batches events).length) :
    ∃ before cycles, events = before ++ .advance cycles :: since count events ∧
      (batches events).take count = batches before ++ [cycles] := by
  fun_induction since count events with
  | case1 => omega
  | case2 count => simp [batches] at hle
  | case3 count cycles events ih =>
    rcases Nat.eq_zero_or_pos count with rfl | hcount
    · exact ⟨[], cycles, by simp [since], by simp [batches, Event.batch?]⟩
    · obtain ⟨before, last, heq, htake⟩ := ih hcount (Nat.le_of_succ_le_succ hle)
      refine ⟨.advance cycles :: before, last, by rw [List.cons_append, ← heq], ?_⟩
      show cycles :: (batches events).take count = cycles :: batches before ++ [last]
      rw [htake, List.cons_append]
  | case4 count event events hother ih =>
    have hbatch : event.batch? = none := by
      cases event with
      | advance cycles => exact absurd rfl (hother cycles)
      | read | write | drive => rfl
    have hsame : batches (event :: events) = batches events := List.filterMap_cons_none hbatch
    rw [hsame] at hle ⊢
    obtain ⟨before, cycles, heq, htake⟩ := ih hpos hle
    have hbefore : batches (event :: before) = batches before := List.filterMap_cons_none hbatch
    exact ⟨event :: before, cycles, by rw [List.cons_append, ← heq], by rw [htake, hbefore]⟩

/-! ## A countdown from its start -/

section

variable {span prescaler : Nat} {riot : Riot}

theorem tells_play {events : List Event} (h : Tells span prescaler [] riot.timer)
    (hspan : span ≤ 255 * prescaler) (htotal : (batches events).sum < 2 ^ 31)
    (hquiet : ∀ event ∈ events, event.starts = false) :
    Tells span prescaler (batches events) (riot.play events).timer := by
  induction events using List.reverseRecOn with
  | nil => exact h
  | append_singleton events event ih =>
    rw [batches_append, List.sum_append] at htotal
    have ih := ih (by omega) fun other hmem => hquiet other (List.mem_append_left _ hmem)
    rw [play_append, batches_append]
    rcases (riot.play events).timer_after_cases (hquiet event (by simp)) with
      ⟨cycles, rfl⟩ | ⟨hbatch, htimer⟩
    · have hcycles : (batches [.advance cycles]).sum = cycles := Nat.add_zero _
      have hless : (batches events).sum + cycles < 2 ^ 31 := by omega
      exact ih.advance hspan (le_batchLimit hless)
    · have hnone : batches [event] = [] := List.filterMap_cons_none hbatch
      show Tells _ _ _ ((riot.play events).after event).timer
      rw [hnone, List.append_nil, htimer]
      split
      · exact ih.acknowledge
      · exact ih

/-- Once the timer has expired, only an acknowledgement takes the flag back. -/
theorem raised_play_expired {events : List Event} (h : riot.timer.expired = true)
    (hquiet : ∀ event ∈ events, event.starts = false) :
    (riot.play events).timer.raised = true ↔
      riot.timer.raised = true ∧ ∀ event ∈ events, event.acknowledges = false := by
  induction events generalizing riot with
  | nil => simp [play]
  | cons event events ih =>
    have ih {riot : Riot} (h : riot.timer.expired = true) :=
      ih h fun other hmem => hquiet other (List.mem_cons_of_mem _ hmem)
    show ((riot.after event).play events).timer.raised = true ↔ _
    rcases riot.timer_after_cases (hquiet event List.mem_cons_self) with
      ⟨cycles, rfl⟩ | ⟨-, htimer⟩
    · obtain ⟨hexpired, hraised⟩ := advance_of_expired h cycles
      rw [ih hexpired]
      simp [after, advance, hraised, Event.acknowledges]
    · rw [ih (by rw [htimer]; split <;> exact h), htimer]
      cases hack : event.acknowledges <;> simp [hack]

theorem play_stopped (events : List Event) (h : riot.timer.counting = false)
    (hquiet : ∀ event ∈ events, event.starts = false) :
    (riot.play events).timer.counting = false ∧
      (riot.play events).timer.count = riot.timer.count := by
  induction events generalizing riot with
  | nil => exact ⟨h, rfl⟩
  | cons event events ih =>
    have hafter : (riot.after event).timer.counting = false ∧
        (riot.after event).timer.count = riot.timer.count := by
      rcases riot.timer_after_cases (hquiet event List.mem_cons_self) with
        ⟨cycles, rfl⟩ | ⟨-, htimer⟩
      · simp [after, advance, Timer.advance, h]
      · rw [htimer]
        split <;> exact ⟨h, rfl⟩
    obtain ⟨hcounting, hcount⟩ :=
      ih hafter.1 fun other hmem => hquiet other (List.mem_cons_of_mem _ hmem)
    exact ⟨hcounting, hcount.trans hafter.2⟩

/-- The flag is up from the batch that reaches the end of the span, until it is acknowledged. -/
theorem raised_play {events : List Event} {j : Nat} (h : Tells span prescaler [] riot.timer)
    (hspan : span ≤ 255 * prescaler) (htotal : (batches events).sum < 2 ^ 31) (hpos : 1 ≤ j)
    (hle : j ≤ (batches events).length) (hreached : span ≤ ((batches events).take j).sum)
    (hfirst : ∀ i, 1 ≤ i → i < j → ((batches events).take i).sum < span)
    (hquiet : ∀ event ∈ events, event.starts = false) :
    (riot.play events).timer.raised = true ↔
      ∀ event ∈ since j events, event.acknowledges = false := by
  obtain ⟨before, cycles, heq, htake⟩ := exists_since hpos hle
  have hsum : ((batches events).take j).sum = (batches before).sum + cycles := by
    rw [htake, List.sum_append, List.sum_singleton]
  have htotal' : (batches before).sum + cycles < 2 ^ 31 := by
    have := sum_take_le (batches events) j
    omega
  have hnot : ¬ Reached span (batches before) := by
    rintro ⟨hne, hbefore⟩
    have hlength : (batches before).length + 1 = j := by
      simpa [List.length_take, Nat.min_eq_left hle] using (congrArg List.length htake).symm
    have htake' : (batches events).take (batches before).length = batches before := by
      have hprefix := congrArg (List.take (batches before).length) htake
      rwa [List.take_take, Nat.min_eq_left (by omega), List.take_left] at hprefix
    have hlt := hfirst _ (List.length_pos_iff.2 hne) (by omega)
    rw [htake'] at hlt
    omega
  have hbefore : Tells span prescaler (batches before) (riot.play before).timer :=
    tells_play h hspan (by omega) fun event hmem =>
      hquiet event (heq ▸ List.mem_append_left _ hmem)
  let expiring := (riot.play before).after (.advance cycles)
  have hexpired : expiring.timer.expired = true :=
    (hbefore.advance hspan (le_batchLimit htotal')).expired_iff.2 (reached_concat.2 (by omega))
  have hraised : expiring.timer.raised = true :=
    (hbefore.raised_advance (le_batchLimit htotal')).2 (.inr ⟨hnot, by omega⟩)
  have hplay : riot.play events = expiring.play (since j events) := by
    conv_lhs => rw [heq, play_append]
    rfl
  rw [hplay, raised_play_expired hexpired fun event hmem => hquiet event (mem_since hmem)]
  simp [hraised]

end

/-! ## Registers -/

/-- The low five bits of the addresses that start a countdown, and the prescalers they select. -/
def starters : List (UInt16 × Nat) := [(0x14, 1), (0x15, 8), (0x16, 64), (0x17, 1024)]

def countAddress : UInt16 := 0x0284

def flagAddress : UInt16 := 0x0285

theorem peek_countAddress (riot : Riot) : riot.peek countAddress = riot.timer.count := rfl

theorem flag_peek_flagAddress (riot : Riot) :
    riot.peek flagAddress &&& 0x80 ≠ 0 ↔ riot.timer.raised = true := by
  show riot.timer.flagByte &&& 0x80 ≠ 0 ↔ _
  unfold flagByte
  split <;> simp [*]

theorem tells_write (riot : Riot) {address : UInt16} {prescaler : Nat} (intervals : UInt8)
    (h : (address &&& 0x1F, prescaler) ∈ starters) :
    Tells (prescaler * intervals.toNat) prescaler [] (riot.write address intervals).timer := by
  simp only [starters, List.mem_cons, Prod.mk.injEq, List.not_mem_nil, or_false] at h
  rcases h with ⟨haddress, rfl⟩ | ⟨haddress, rfl⟩ | ⟨haddress, rfl⟩ | ⟨haddress, rfl⟩ <;>
    simp only [write, haddress] <;>
    exact tells_start _ intervals (by decide) (by decide)

theorem span_le (prescaler : Nat) (intervals : UInt8) :
    prescaler * intervals.toNat ≤ 255 * prescaler := by
  rw [Nat.mul_comm]
  exact Nat.mul_le_mul_right _ (Nat.le_of_lt_succ intervals.toNat_lt)

/-- A countdown in closed form, at any time after its start. Until a batch reaches the end of the
span, the count is the whole intervals that are left, and the flag is down. That batch shows zero.
After it the count goes down from 256 by single cycles, until a batch finds more than 255 of them
past the span, which stops the timer for good. The flag is up unless a read has acknowledged it
since. -/
theorem countdown_play (riot : Riot) {address : UInt16} {prescaler : Nat} (intervals : UInt8)
    {events : List Event} (hstart : (address &&& 0x1F, prescaler) ∈ starters)
    (htotal : (batches events).sum < 2 ^ 31)
    (hquiet : ∀ event ∈ events, event.starts = false) :
    let span := prescaler * intervals.toNat
    let passed (i : Nat) := ((batches events).take i).sum
    let calls := (batches events).length
    let after := (riot.write address intervals).play events
    let count := after.peek countAddress
    let flagged := after.peek flagAddress &&& 0x80 ≠ 0
    ((∀ i, 1 ≤ i → i ≤ calls → passed i < span) →
      count.toNat = (span - passed calls) / prescaler ∧ ¬ flagged ∧ after.timer.counting = true) ∧
    ∀ j, 1 ≤ j → j ≤ calls → span ≤ passed j → (∀ i, 1 ≤ i → i < j → passed i < span) →
      (calls = j → count = 0 ∧ after.timer.counting = true) ∧
      (j < calls → passed calls ≤ span + 255 →
        (count.toNat : Int) = ((span : Int) - passed calls) % 256 ∧
          after.timer.counting = true) ∧
      (j < calls → span + 255 < passed calls → ∀ later : List Event,
        (∀ event ∈ later, event.starts = false) →
          (after.play later).peek countAddress = 0 ∧
            (after.play later).timer.counting = false) ∧
      (flagged ↔ ∀ event ∈ since j events, event.acknowledges = false) := by
  intro span passed calls after count flagged
  have hspan : span ≤ 255 * prescaler := span_le prescaler intervals
  have hstarted : Tells span prescaler [] (riot.write address intervals).timer :=
    tells_write riot intervals hstart
  have htells : Tells span prescaler (batches events) after.timer :=
    tells_play hstarted hspan htotal hquiet
  have hflagged : flagged ↔ after.timer.raised = true := flag_peek_flagAddress after
  have hall : (batches events).take calls = batches events := List.take_length
  have hpassed : passed calls = (batches events).sum := congrArg List.sum hall
  rw [hpassed]
  refine ⟨fun hbefore => ?_, fun j hpos hle hreached hfirst => ⟨?_, ?_, ?_, ?_⟩⟩
  · have hnot : ¬ Reached span (batches events) := by
      rw [← hall]
      exact not_reached_take hbefore
    exact ⟨htells.count_of_not_reached hnot,
      fun hup => hnot (htells.reached_of_raised (hflagged.1 hup)),
      htells.counting_iff.2 fun hout => hnot hout.reached⟩
  · rintro rfl
    have hexpired : Reached span (batches events) := by
      rw [← hall]
      exact reached_take hpos hle (Nat.le_refl _) hreached
    have hnot : ¬ Reached span (batches events).dropLast := by
      rw [List.dropLast_eq_take]
      exact not_reached_take fun i hi hlt => hfirst i hi (by omega)
    exact ⟨htells.count_of_expiring hexpired hnot, htells.counting_iff.2 fun hout => hnot hout.1⟩
  · intro hlt hnear
    have hlate : Reached span (batches events).dropLast := reached_dropLast hpos hlt hreached
    exact ⟨htells.count_of_late hlate hnear,
      htells.counting_iff.2 fun hout => Nat.not_lt.2 hnear hout.2⟩
  · intro hlt hfar later hlater
    have hout : RunOut span (batches events) := ⟨reached_dropLast hpos hlt hreached, hfar⟩
    obtain ⟨hcounting, hlast⟩ := play_stopped later (htells.stopped_iff.2 hout) hlater
    rw [peek_countAddress, hlast]
    exact ⟨htells.count_of_runOut hout, hcounting⟩
  · rw [hflagged]
    exact raised_play hstarted hspan htotal hpos hle hreached hfirst hquiet

/-- Two intervals of eight cycles. The third batch reaches their end, the fourth is six cycles past
it, and no read after the third acknowledges the flag. -/
theorem countdown_play_twoEights :
    let events : List Event :=
      [.advance 10, .read countAddress, .advance 0, .advance 9, .read 0x0280, .advance 3]
    let after := (write {} 0x0295 2).play events
    ((0x0295 : UInt16) &&& 0x1F, 8) ∈ starters ∧ (batches events).sum < 2 ^ 31 ∧
      (∀ event ∈ events, event.starts = false) ∧
        ((after.peek countAddress).toNat : Int) = 250 ∧ after.timer.counting = true ∧
          after.peek flagAddress &&& 0x80 ≠ 0 := by
  intro events after
  have hstart : ((0x0295 : UInt16) &&& 0x1F, 8) ∈ starters := by decide
  have htotal : (batches events).sum < 2 ^ 31 := by decide
  have hquiet : ∀ event ∈ events, event.starts = false := by simp [events, Event.starts]
  have hfirst : ∀ i, 1 ≤ i → i < 3 → ((batches events).take i).sum < 16 := by
    intro i hpos hlt
    obtain rfl | rfl : i = 1 ∨ i = 2 := by omega
    · decide
    · decide
  obtain ⟨-, hlate, -, hflag⟩ :=
    (countdown_play {} 2 hstart htotal hquiet).2 3 (by decide) (by decide) (by decide) hfirst
  obtain ⟨hcount, hcounting⟩ := hlate (by decide) (by decide)
  have hkept : ∀ event ∈ since 3 events, event.acknowledges = false := by
    intro event hmem
    obtain rfl | rfl : event = .read 0x0280 ∨ event = .advance 3 := by
      simpa [events, since] using hmem
    · decide
    · rfl
  exact ⟨hstart, htotal, hquiet, hcount, hcounting, hflag.2 hkept⟩

/-! ## Cutting time into batches -/

/-- Where nothing but time passes, the flag is up from the batch that reaches the end on. -/
theorem tells_foldl {span prescaler : Nat} {riot : Riot} {cuts : List Nat}
    (h : Tells span prescaler [] riot.timer) (hspan : span ≤ 255 * prescaler)
    (htotal : cuts.sum < 2 ^ 31) :
    Tells span prescaler cuts (cuts.foldl advance riot).timer ∧
      ((cuts.foldl advance riot).timer.raised = true ↔ Reached span cuts) := by
  induction cuts using List.reverseRecOn with
  | nil => exact ⟨h, h.reached_of_raised, fun hreached => absurd hreached (not_reached_nil span)⟩
  | append_singleton cuts cycles ih =>
    rw [List.sum_append, List.sum_singleton] at htotal
    obtain ⟨htells, hraised⟩ := ih (by omega)
    have hnext := htells.advance hspan (le_batchLimit htotal)
    rw [List.foldl_append]
    refine ⟨hnext, hnext.reached_of_raised, fun hreached => ?_⟩
    rw [reached_concat] at hreached
    refine (htells.raised_advance (le_batchLimit htotal)).2 ?_
    rw [hraised]
    exact (em (Reached span cuts)).imp_right fun hnot => ⟨hnot, hreached⟩

/-- What a program can see of the timer. -/
def observed (riot : Riot) : UInt8 × UInt8 × Bool :=
  (riot.peek countAddress, riot.peek flagAddress, riot.timer.counting)

theorem observed_eq_iff {riot other : Riot} :
    riot.observed = other.observed ↔
      riot.timer.count.toNat = other.timer.count.toNat ∧
        (riot.timer.raised = true ↔ other.timer.raised = true) ∧
          (riot.timer.counting = true ↔ other.timer.counting = true) := by
  have hflag : riot.timer.flagByte = other.timer.flagByte ↔
      (riot.timer.raised = true ↔ other.timer.raised = true) := by
    unfold flagByte
    cases riot.timer.raised <;> cases other.timer.raised <;> decide
  rw [observed, observed, Prod.mk.injEq, Prod.mk.injEq, ← hflag, UInt8.toNat_inj,
    Bool.eq_iff_iff]
  rfl

/-- Two ways of cutting the same time into batches can be told apart exactly if only one of them
expires the timer, or if the time goes past the span and in only one of them another batch comes
after the one that expires it. -/
theorem observed_batches_iff (riot : Riot) {address : UInt16} {prescaler : Nat} (intervals : UInt8)
    {first second : List Nat} (hstart : (address &&& 0x1F, prescaler) ∈ starters)
    (hsum : first.sum = second.sum) (htotal : first.sum < 2 ^ 31) :
    let span := prescaler * intervals.toNat
    let started := riot.write address intervals
    (first.foldl advance started).observed = (second.foldl advance started).observed ↔
      (Reached span first ↔ Reached span second) ∧
        (first.sum ≤ span ∨ (Reached span first.dropLast ↔ Reached span second.dropLast)) := by
  intro span started
  have hspan : span ≤ 255 * prescaler := span_le prescaler intervals
  have hstarted : Tells span prescaler [] started.timer := tells_write riot intervals hstart
  obtain ⟨hfirst, hraised₁⟩ := tells_foldl hstarted hspan htotal
  obtain ⟨hsecond, hraised₂⟩ := tells_foldl hstarted hspan (hsum ▸ htotal)
  rw [observed_eq_iff, hraised₁, hraised₂, hfirst.counting_iff, hsecond.counting_iff,
    ← Int.ofNat_inj, hfirst.count_eq, hsecond.count_eq, not_iff_not]
  exact shown_eq_iff hsum

/-- Five cycles of a span of four, in one batch and in two. -/
theorem observed_batches_iff_fourOfFive :
    let started := write {} 0x0294 4
    ((0x0294 : UInt16) &&& 0x1F, 1) ∈ starters ∧ [5].sum = [4, 1].sum ∧ [5].sum < 2 ^ 31 ∧
      (List.foldl advance started [5]).observed ≠
        (List.foldl advance started [4, 1]).observed := by
  intro started
  have hstart : ((0x0294 : UInt16) &&& 0x1F, 1) ∈ starters := by decide
  have hsum : [5].sum = [4, 1].sum := by decide
  have htotal : [5].sum < 2 ^ 31 := by decide
  exact ⟨hstart, hsum, htotal, (observed_batches_iff {} 4 hstart hsum htotal).not.2 (by decide)⟩

end Riot
end Console7800
