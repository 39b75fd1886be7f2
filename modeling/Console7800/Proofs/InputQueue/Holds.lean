import Console7800.Counters
import Console7800.Proofs.InputQueue
import Mathlib.Algebra.Ring.Parity

/-!
# Scripted holds

A script queues holds of buttons and then processes one frame after the other. It has a result if
the holds end in the range of frames (`serveAll?_script`). Whether a control is pressed is what the
last event for it says that is due (`pressed_due`). Of holds of one control that do not overlap, each
presses it for just its frames, in whatever order they are queued, but for one that begins where a
hold queued after it ends: that is lost to the release (`pressed_script_iff`).
-/

namespace Console7800

/-! ## Controls -/

/-- The control that a button stands for: of the number of a player only the last bit counts. -/
def Button.control : Button → Button
  | .up player => .up (player % 2)
  | .down player => .down (player % 2)
  | .left player => .left (player % 2)
  | .right player => .right (player % 2)
  | .leftFire player => .leftFire (player % 2)
  | .rightFire player => .rightFire (player % 2)
  | button => button

namespace Controls

def stick (controls : Controls) (player : Nat) : Joystick :=
  if player % 2 = 0 then controls.first else controls.second

/-- A control is pressed. -/
def pressed (controls : Controls) : Button → Bool
  | .up player => (controls.stick player).up
  | .down player => (controls.stick player).down
  | .left player => (controls.stick player).left
  | .right player => (controls.stick player).right
  | .leftFire player => (controls.stick player).leftFire
  | .rightFire player => (controls.stick player).rightFire
  | .reset => controls.reset
  | .select => controls.select
  | .pause => controls.pause
  | .leftDifficulty => controls.leftDifficultyA
  | .rightDifficulty => controls.rightDifficultyA
  | .lightgunTrigger => controls.lightgunTrigger

theorem stick_mapStick (controls : Controls) (player other : Nat) (f : Joystick → Joystick) :
    (controls.mapStick player f).stick other =
      if player % 2 = other % 2 then f (controls.stick other) else controls.stick other := by
  unfold mapStick stick
  split <;> split <;> split <;> first | rfl | omega

/-- A control takes what it is set to, and no other does. -/
theorem pressed_set (controls : Controls) (button other : Button) (value : Bool) :
    (controls.set button value).pressed other =
      if button.control = other.control then value else controls.pressed other := by
  -- the switches lie beside the joysticks, and among these the player's number decides
  cases button <;> cases other
  all_goals simp only [set, pressed, stick_mapStick, Button.control, Button.up.injEq,
    Button.down.injEq, Button.left.injEq, Button.right.injEq, Button.leftFire.injEq,
    Button.rightFire.injEq, reduceCtorEq, if_true, if_false]
  all_goals first
    | rfl
    | (split <;> rfl)
    | (unfold mapStick; split <;> rfl)

end Controls

/-- The event is for the control that the button stands for. -/
def InputEvent.names (event : InputEvent) (button : Button) : Bool :=
  event.button.control == button.control

namespace InputQueue

/-! ## What is performed -/

/-- The last event for a control decides. -/
theorem pressed_foldl_perform (start : Controls) (button : Button) (events : List InputEvent) :
    (events.foldl perform start).pressed button =
      ((events.filter (·.names button)).getLast?.map (·.pressed)).getD (start.pressed button) := by
  induction events using List.reverseRecOn with
  | nil => rfl
  | append_singleton events event ih =>
    rw [List.foldl_append, List.foldl_cons, List.foldl_nil, perform, Controls.pressed_set, ih,
      List.filter_append]
    by_cases hnames : event.button.control = button.control <;>
      simp [InputEvent.names, hnames]

theorem Before.asymm {first second : Entry} (h : Before first second) : ¬ Before second first := by
  unfold Before at *
  omega

/-- No event for the control is due, or there is a last one of those, by frame and by number, and
it decides. -/
theorem pressed_due {entries : List Entry} (hsorted : entries.Pairwise Before) (start : Controls)
    (button : Button) (frame : Nat) :
    let due (entry : Entry) : Prop := entry.1.names button ∧ entry.1.frame ≤ frame
    let pressed := (((entries.map Prod.fst).filter (·.frame ≤ frame)).foldl perform start).pressed
      button
    (∀ entry ∈ entries, ¬ due entry) ∧ pressed = start.pressed button ∨
      ∃ last ∈ entries, due last ∧ pressed = last.1.pressed ∧
        ∀ entry ∈ entries, due entry → ¬ Before last entry := by
  intro due pressed
  let named := entries.filter fun entry => entry.1.names button && decide (entry.1.frame ≤ frame)
  have hmem (entry : Entry) : entry ∈ named ↔ entry ∈ entries ∧ due entry := by
    simp [named, due]
  have hpressed : pressed = (named.getLast?.map (·.1.pressed)).getD (start.pressed button) := by
    simp only [pressed]
    rw [pressed_foldl_perform, List.filter_filter, List.filter_map, List.getLast?_map,
      Option.map_map]
    rfl
  rcases List.eq_nil_or_concat named with hnil | ⟨front, last, hlast⟩
  · rw [hnil] at hpressed
    refine .inl ⟨fun entry hentry hdue => ?_, hpressed⟩
    exact absurd ((hmem entry).2 ⟨hentry, hdue⟩) (by simp [hnil])
  · rw [hlast, List.concat_eq_append] at hpressed
    have hordered : (front.concat last).Pairwise Before := hlast ▸ hsorted.filter _
    rw [List.concat_eq_append, List.pairwise_append] at hordered
    obtain ⟨hin, hdue⟩ := (hmem last).1 (by simp [hlast])
    refine .inr ⟨last, hin, hdue, by simpa using hpressed, fun entry hentry hentryDue => ?_⟩
    have hnamed := (hmem entry).2 ⟨hentry, hentryDue⟩
    rw [hlast, List.concat_eq_append, List.mem_append, List.mem_singleton] at hnamed
    rcases hnamed with hfront | rfl
    · exact Before.asymm (hordered.2.2 entry hfront last (by simp))
    · exact fun hself => hself.asymm hself

/-! ## Processing one frame after the other -/

theorem process_process (queue : InputQueue) (controls : Controls) {early late : Nat}
    (h : early ≤ late) :
    let after := queue.process early controls
    after.1.process late after.2 = queue.process late controls := by
  have hsplit (events : List InputEvent) :
      (events.dropWhile (·.frame ≤ early)).dropWhile (·.frame ≤ late) =
          events.dropWhile (·.frame ≤ late) ∧
        events.takeWhile (·.frame ≤ early) ++
            (events.dropWhile (·.frame ≤ early)).takeWhile (·.frame ≤ late) =
          events.takeWhile (·.frame ≤ late) := by
    induction events with
    | nil => exact ⟨rfl, rfl⟩
    | cons event rest ih =>
      by_cases hearly : event.frame ≤ early
      · have hlate : event.frame ≤ late := Nat.le_trans hearly h
        simp [hearly, hlate, ih]
      · simp [hearly]
  obtain ⟨hrest, htaken⟩ := hsplit queue.events
  unfold process
  dsimp only
  rw [hrest, ← List.foldl_append, htaken]

/-- The requests to process every frame up to one. -/
def frames (frame : Nat) : List Request := (List.range (frame + 1)).map .process

theorem foldl_serve_frames (state : InputQueue × Controls) (frame : Nat) :
    (frames frame).foldl serve state = state.1.process frame state.2 := by
  induction frame with
  | zero => rfl
  | succ frame ih =>
    rw [frames, List.range_succ, List.map_append, List.foldl_append, ← frames, ih]
    exact process_process state.1 state.2 (Nat.le_succ frame)

/-! ## Sums of frames -/

/-- `serve`, unless the frame of a release goes over. -/
def serve? (state : InputQueue × Controls) : Request → Option (InputQueue × Controls)
  | .enqueueButton button atFrame hold =>
    (state.1.enqueueButton? button atFrame hold).map fun queue => (queue, state.2)
  | request => some (serve state request)

/-- `serveAll`, unless the frame of a release goes over. -/
def serveAll? (controls : Controls) (requests : List Request) : Option (InputQueue × Controls) :=
  requests.foldlM serve? ({}, controls)

/-- The frame of a release that the request queues is in range. -/
def Request.Fits : Request → Prop
  | .enqueueButton _ atFrame hold => atFrame + hold < frameLimit
  | _ => True

instance : DecidablePred Request.Fits
  | .enqueueButton _ atFrame hold => inferInstanceAs (Decidable (atFrame + hold < frameLimit))
  | .push _ | .process _ => inferInstanceAs (Decidable True)

theorem serve?_eq (state : InputQueue × Controls) (request : Request) :
    serve? state request = if request.Fits then some (serve state request) else none := by
  cases request with
  | push | process => rfl
  | enqueueButton button atFrame hold =>
    show (state.1.enqueueButton? button atFrame hold).map _ =
      if atFrame + hold < frameLimit then _ else none
    unfold enqueueButton?
    split <;> rfl

theorem serveAll?_eq (controls : Controls) (requests : List Request) :
    serveAll? controls requests =
      if ∀ request ∈ requests, request.Fits then some (serveAll controls requests) else none := by
  unfold serveAll? serveAll
  generalize (({}, controls) : InputQueue × Controls) = state
  induction requests generalizing state with
  | nil => rfl
  | cons request rest ih =>
    rw [List.foldlM_cons, serve?_eq]
    by_cases hfits : request.Fits <;> simp [hfits, ih]

/-! ## Holds -/

/-- A button held down from a frame on for some frames. -/
structure Hold where
  button : Button
  start : Nat
  frames : Nat
  deriving Repr, DecidableEq

namespace Hold

def stop (hold : Hold) : Nat := hold.start + hold.frames

def press (hold : Hold) : InputEvent := ⟨hold.start, hold.button, true⟩

def release (hold : Hold) : InputEvent := ⟨hold.stop, hold.button, false⟩

def request (hold : Hold) : Request := .enqueueButton hold.button hold.start hold.frames

/-- The hold is of the control that the button stands for. -/
def names (hold : Hold) (button : Button) : Bool := hold.press.names button

def Covers (hold : Hold) (frame : Nat) : Prop := hold.start ≤ frame ∧ frame < hold.stop

end Hold

/-- The holds of a control take some frames each, and no two share one. -/
structure Apart (button : Button) (holds : List Hold) : Prop where
  positive : ∀ hold ∈ holds, hold.names button → 0 < hold.frames
  disjoint : holds.Pairwise fun first second =>
    first.names button → second.names button →
      first.stop ≤ second.start ∨ second.stop ≤ first.start

/-- No hold of the control that is queued after the one with the number ends where that begins. -/
def Unbroken (button : Button) (holds : List Hold) (number : Nat) : Prop :=
  ∀ hold later other, holds[number]? = some hold → number < later → holds[later]? = some other →
    other.names button → other.stop ≠ hold.start

/-- Queue the holds, then process every frame up to one. -/
def script (holds : List Hold) (frame : Nat) : List Request :=
  holds.map Hold.request ++ frames frame

/-- A script has a result exactly if all holds end in the range of frames. -/
theorem serveAll?_script (start : Controls) (holds : List Hold) (frame : Nat) :
    serveAll? start (script holds frame) =
      if ∀ hold ∈ holds, hold.stop < frameLimit then some (serveAll start (script holds frame))
      else none := by
  rw [serveAll?_eq]
  refine if_congr ?_ rfl rfl
  simp only [script, frames, List.forall_mem_append, List.forall_mem_map, Request.Fits,
    Hold.request, Hold.stop, implies_true, and_true]

/-- A hold queues its press and then its release. -/
theorem getElem?_arrivals (holds : List Hold) (number : Nat) :
    (arrivals (holds.map Hold.request))[2 * number]? = holds[number]?.map Hold.press ∧
      (arrivals (holds.map Hold.request))[2 * number + 1]? = holds[number]?.map Hold.release := by
  induction holds generalizing number with
  | nil => simp [arrivals]
  | cons hold holds ih =>
    have hcons : arrivals ((hold :: holds).map Hold.request) =
      hold.press :: hold.release :: arrivals (holds.map Hold.request) := rfl
    rw [hcons]
    cases number with
    | zero => exact ⟨rfl, rfl⟩
    | succ number => exact ih number

theorem mem_zipIdx_arrivals {holds : List Hold} {entry : Entry} :
    entry ∈ (arrivals (holds.map Hold.request)).zipIdx ↔
      ∃ number hold, holds[number]? = some hold ∧
        (entry = (hold.press, 2 * number) ∨ entry = (hold.release, 2 * number + 1)) := by
  obtain ⟨event, place⟩ := entry
  rw [List.mem_zipIdx_iff_getElem?]
  constructor
  · intro hevent
    obtain ⟨number, rfl | rfl⟩ := Nat.even_or_odd' place
    · rw [(getElem?_arrivals holds number).1, Option.map_eq_some_iff] at hevent
      obtain ⟨hold, hhold, rfl⟩ := hevent
      exact ⟨number, hold, hhold, .inl rfl⟩
    · rw [(getElem?_arrivals holds number).2, Option.map_eq_some_iff] at hevent
      obtain ⟨hold, hhold, rfl⟩ := hevent
      exact ⟨number, hold, hhold, .inr rfl⟩
  · rintro ⟨number, hold, hhold, heq | heq⟩
    all_goals
      obtain ⟨rfl, rfl⟩ := Prod.mk.inj heq
      simp [getElem?_arrivals, hhold]

/-- A script performs the events that are due, by frame and by number. -/
theorem exists_waiting (start : Controls) (holds : List Hold) :
    ∃ waiting : List Entry, waiting.Pairwise Before ∧
      waiting.Perm (arrivals (holds.map Hold.request)).zipIdx ∧
      ∀ frame, (serveAll start (script holds frame)).2 =
        ((waiting.map Prod.fst).filter (·.frame ≤ frame)).foldl perform start := by
  obtain ⟨performed, waiting, h⟩ := exists_keeps start (holds.map Hold.request)
  have hunreached (entry : Entry) : ¬ Reached (holds.map Hold.request) entry := by
    rintro ⟨earlier, frame, later, hsplit, -⟩
    have hmem : Request.process frame ∈ holds.map Hold.request := by simp [hsplit]
    obtain ⟨hold, -, hprocess⟩ := List.mem_map.1 hmem
    exact absurd hprocess (by simp [Hold.request])
  obtain rfl : performed = [] :=
    List.eq_nil_iff_forall_not_mem.2 fun entry hentry =>
      hunreached entry (h.reached_of_performed entry hentry)
  refine ⟨waiting, h.ordered, h.perm, fun frame => ?_⟩
  have hcontrols : (serveAll start (holds.map Hold.request)).2 = start := h.controls
  rw [serveAll, script, List.foldl_append, foldl_serve_frames, ← serveAll, h.sorted.process_eq,
    h.events, hcontrols]

section

variable {button : Button} {holds : List Hold} {frame number : Nat} {hold : Hold}

theorem Apart.stop_le (h : Apart button holds) {first second : Nat} {one other : Hold}
    (hone : holds[first]? = some one) (hother : holds[second]? = some other)
    (honeNames : one.names button) (hotherNames : other.names button) :
    first = second ∨ one.stop ≤ other.start ∨ other.stop ≤ one.start := by
  obtain ⟨hfirst, rfl⟩ := List.getElem?_eq_some_iff.1 hone
  obtain ⟨hsecond, rfl⟩ := List.getElem?_eq_some_iff.1 hother
  have hdisjoint := List.pairwise_iff_getElem.1 h.disjoint
  rcases Nat.lt_trichotomy first second with hlt | heq | hgt
  · exact .inr (hdisjoint first second hfirst hsecond hlt honeNames hotherNames)
  · exact .inl heq
  · exact .inr (hdisjoint second first hsecond hfirst hgt hotherNames honeNames).symm

theorem Apart.start_lt_stop (h : Apart button holds) (hhold : holds[number]? = some hold)
    (hnames : hold.names button) : hold.start < hold.stop :=
  Nat.lt_add_of_pos_right (h.positive hold (List.mem_of_getElem? hhold) hnames)

/-- The entry is not before any for the control that is due. -/
def Latest (button : Button) (holds : List Hold) (frame : Nat) (last : Entry) : Prop :=
  ∀ number hold, holds[number]? = some hold → hold.names button →
    (hold.start ≤ frame → ¬ Before last (hold.press, 2 * number)) ∧
      (hold.stop ≤ frame → ¬ Before last (hold.release, 2 * number + 1))

/-- If the press of a hold is the latest event, its release is not due, and neither has a release
undone it. -/
theorem Apart.covers_of_latest (h : Apart button holds) (hhold : holds[number]? = some hold)
    (hnames : hold.names button) (hdue : hold.start ≤ frame)
    (hlatest : Latest button holds frame (hold.press, 2 * number)) :
    hold.Covers frame ∧ Unbroken button holds number := by
  refine ⟨⟨hdue, Nat.lt_of_not_le fun hstop => ?_⟩, fun same later other hsame hlater hother => ?_⟩
  · exact (hlatest number hold hhold hnames).2 hstop (.inl (h.start_lt_stop hhold hnames))
  · obtain rfl : hold = same := Option.some.inj (hhold.symm.trans hsame)
    intro hotherNames hstop
    exact (hlatest later other hother hotherNames).2 (hstop ▸ hdue)
      (.inr ⟨hstop.symm, Nat.lt_succ_of_lt (Nat.mul_lt_mul_of_pos_left hlater Nat.two_pos)⟩)

/-- If the release of a hold is the latest event, a hold that covers the frame began with it, and
was queued before it. -/
theorem Apart.not_unbroken_of_latest (h : Apart button holds) {covering : Nat} {cover : Hold}
    (hhold : holds[number]? = some hold) (hnames : hold.names button) (hdue : hold.stop ≤ frame)
    (hlatest : Latest button holds frame (hold.release, 2 * number + 1))
    (hcover : holds[covering]? = some cover) (hcoverNames : cover.names button)
    (hcovers : cover.Covers frame) : ¬ Unbroken button holds covering := by
  intro hunbroken
  have hpositive := h.start_lt_stop hhold hnames
  have hpress : ¬ Before (hold.release, 2 * number + 1) (cover.press, 2 * covering) :=
    (hlatest covering cover hcover hcoverNames).1 hcovers.1
  simp only [Before, Hold.release, Hold.press, not_or, not_and, Nat.not_lt] at hpress
  obtain ⟨hstart, hstop⟩ := hcovers
  rcases h.stop_le hhold hcover hnames hcoverNames with rfl | hbefore | hafter
  · obtain rfl : hold = cover := Option.some.inj (hhold.symm.trans hcover)
    omega
  · have hmeet : hold.stop = cover.start := Nat.le_antisymm hbefore hpress.1
    have hnumber : 2 * covering ≤ 2 * number + 1 := hpress.2 hmeet
    have hne : covering ≠ number := by
      rintro rfl
      obtain rfl : hold = cover := Option.some.inj (hhold.symm.trans hcover)
      omega
    exact hunbroken cover number hold hcover (by omega) hhold hnames hmeet
  · omega

theorem pressed_script (hapart : Apart button holds) (start : Controls) (frame : Nat) :
    (serveAll start (script holds frame)).2.pressed button ↔
      (∃ number hold, holds[number]? = some hold ∧ hold.names button ∧ hold.Covers frame ∧
        Unbroken button holds number) ∨
      start.pressed button ∧ ∀ hold ∈ holds, hold.names button → frame < hold.start := by
  obtain ⟨waiting, hordered, hperm, hcontrols⟩ := exists_waiting start holds
  have hmem (entry : Entry) := (hperm.mem_iff (a := entry)).trans mem_zipIdx_arrivals
  have hpressMem {number : Nat} {hold : Hold} (hhold : holds[number]? = some hold) :
      (hold.press, 2 * number) ∈ waiting := (hmem _).2 ⟨number, hold, hhold, .inl rfl⟩
  rw [hcontrols frame]
  rcases pressed_due hordered start button frame with ⟨hnone, hpressed⟩ |
    ⟨last, hlast, ⟨hnames, hdue⟩, hpressed, hall⟩
  · have hlater : ∀ (number : Nat) (hold : Hold), holds[number]? = some hold →
        hold.names button → frame < hold.start := fun number hold hhold hnames =>
      Nat.lt_of_not_le fun hle => hnone _ (hpressMem hhold) ⟨hnames, hle⟩
    rw [hpressed, or_iff_right]
    · exact (and_iff_left fun hold hhold =>
        (List.mem_iff_getElem?.1 hhold).elim fun number => hlater number hold).symm
    · rintro ⟨number, hold, hhold, hnames, hcovers, -⟩
      exact absurd hcovers.1 (Nat.not_le.2 (hlater number hold hhold hnames))
  have hlatest : Latest button holds frame last := fun number hold hhold hnames =>
    ⟨fun hle => hall _ (hpressMem hhold) ⟨hnames, hle⟩,
      fun hle => hall _ ((hmem _).2 ⟨number, hold, hhold, .inr rfl⟩) ⟨hnames, hle⟩⟩
  rw [hpressed]
  obtain ⟨number, hold, hhold, rfl | rfl⟩ := (hmem last).1 hlast
  · exact iff_of_true rfl (.inl ⟨number, hold, hhold, hnames,
      hapart.covers_of_latest hhold hnames hdue hlatest⟩)
  · refine iff_of_false Bool.false_ne_true ?_
    rintro (⟨covering, cover, hcover, hcoverNames, hcovers, hunbroken⟩ | ⟨-, hlater⟩)
    · exact hapart.not_unbroken_of_latest hhold hnames hdue hlatest hcover hcoverNames hcovers
        hunbroken
    · have hstart : frame < hold.start := hlater hold (List.mem_of_getElem? hhold) hnames
      exact absurd (Nat.le_trans (Nat.le_add_right _ _) hdue) (Nat.not_le.2 hstart)

theorem unbroken_of_pairwise (h : holds.Pairwise fun earlier later =>
    later.names button → later.stop ≠ earlier.start) (number : Nat) :
    Unbroken button holds number := by
  intro hold later other hhold hlater hother
  obtain ⟨hnumber, rfl⟩ := List.getElem?_eq_some_iff.1 hhold
  obtain ⟨hbound, rfl⟩ := List.getElem?_eq_some_iff.1 hother
  exact List.pairwise_iff_getElem.1 h number later hnumber hbound hlater

end

/-- Queue holds that end in the range of frames, of which those of one control do not overlap, and
process the frames in turn. At a frame the control is pressed by a hold that covers it, unless one
queued later ends where that begins; before its first hold it is as it was. So the order does not
matter as long as no hold ends at the start of one queued before it. -/
theorem pressed_script_iff {button : Button} {holds : List Hold} (hapart : Apart button holds)
    (hfits : ∀ hold ∈ holds, hold.stop < frameLimit) (start : Controls) (frame : Nat) :
    ∃ state, serveAll? start (script holds frame) = some state ∧
      (state.2.pressed button ↔
        (∃ number hold, holds[number]? = some hold ∧ hold.names button ∧ hold.Covers frame ∧
          Unbroken button holds number) ∨
        start.pressed button ∧ ∀ hold ∈ holds, hold.names button → frame < hold.start) ∧
      (start.pressed button = false →
        (holds.Pairwise fun earlier later => later.names button → later.stop ≠ earlier.start) →
        (state.2.pressed button ↔ ∃ hold ∈ holds, hold.names button ∧ hold.Covers frame)) := by
  have hiff := pressed_script hapart start frame
  refine ⟨_, (serveAll?_script start holds frame).trans (if_pos hfits), hiff,
    fun hstart hbroken => hiff.trans ?_⟩
  simp only [hstart, unbroken_of_pairwise hbroken, List.mem_iff_getElem?, Bool.false_eq_true,
    false_and, or_false, and_true]
  exact ⟨fun ⟨number, hold, hhold, h⟩ => ⟨hold, ⟨number, hhold⟩, h⟩,
    fun ⟨hold, ⟨number, hhold⟩, h⟩ => ⟨number, hold, hhold, h⟩⟩

/-- Two holds of one control that meet, queued in turn, with others around them. -/
def walk : List Hold := [⟨.up 0, 1, 3⟩, ⟨.select, 3, 4⟩, ⟨.up 2, 7, 3⟩, ⟨.up 0, 4, 2⟩]

theorem pressed_script_iff_walk :
    (Apart (.up 0) walk ∧ ∀ hold ∈ walk, hold.stop < frameLimit) ∧
      ∃ state, serveAll? {} (script walk 5) = some state ∧ state.2.pressed (.up 0) = true := by
  have hapart : Apart (.up 0) walk := ⟨by decide, by decide⟩
  have hfits : ∀ hold ∈ walk, hold.stop < frameLimit := by decide
  obtain ⟨state, hstate, -, hpressed⟩ := pressed_script_iff hapart hfits {} 5
  exact ⟨⟨hapart, hfits⟩, state, hstate,
    (hpressed rfl (by decide)).2 ⟨⟨.up 0, 4, 2⟩, by decide, rfl, by decide, by decide⟩⟩

/-- The second hold ends where the first begins. -/
def meeting : List Hold := [⟨.select, 2, 2⟩, ⟨.select, 0, 2⟩]

/-- Two numbers of one player. -/
def nested : List Hold := [⟨.up 0, 0, 4⟩, ⟨.up 2, 1, 1⟩]

/-- The second hold ends past the last frame. -/
def endless : List Hold := [⟨.select, 0, 10⟩, ⟨.select, 0xFFFFFFFFFFFFFFFF, 2⟩]

/-- A hold that begins where one queued after it ends is lost to its release, an even number of a
player releases what another one holds, and there is no result where a hold ends past the last
frame. -/
theorem not_pressed_where_holds_meet :
    (Apart .select meeting ∧ (∃ hold ∈ meeting, hold.button = .select ∧ hold.Covers 2) ∧
      (serveAll? {} (script meeting 2)).map (·.2.pressed .select) = some false) ∧
    ((∃ hold ∈ nested, hold.button = .up 0 ∧ hold.Covers 2) ∧
      (serveAll? {} (script nested 2)).map (·.2.pressed (.up 0)) = some false) ∧
    Apart .select endless ∧ (∃ hold ∈ endless, hold.button = .select ∧ hold.Covers 2) ∧
      serveAll? {} (script endless 2) = none :=
  ⟨⟨⟨by decide, by decide⟩, ⟨⟨.select, 2, 2⟩, by decide, rfl, by decide, by decide⟩, rfl⟩,
    ⟨⟨⟨.up 0, 0, 4⟩, by decide, rfl, by decide, by decide⟩, rfl⟩,
    ⟨by decide, by decide⟩, ⟨⟨.select, 0, 10⟩, by decide, rfl, by decide, by decide⟩, rfl⟩

end InputQueue
end Console7800
