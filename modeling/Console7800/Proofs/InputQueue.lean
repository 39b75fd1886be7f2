import Console7800.InputQueue
import Mathlib.Data.List.Induction

/-!
# What a queue does with its events

Requests queue events, or process those that are due at a frame. Events are numbered in the order in
which they are queued. At any time the queue holds, by frame and for one frame by number, the events
that no processing has reached since they were queued; the others have been done to the controls,
each once (`keeps_serveAll`).
-/

namespace Console7800.InputQueue

open scoped List

/-- The controls after what an event does to them. -/
def perform (controls : Controls) (event : InputEvent) : Controls :=
  controls.set event.button event.pressed

inductive Request where
  | push (event : InputEvent)
  | enqueueButton (button : Button) (atFrame hold : Nat)
  | process (frame : Nat)
  deriving Repr, DecidableEq

/-- The events that a request queues. -/
def Request.events : Request → List InputEvent
  | .push event => [event]
  | .enqueueButton button atFrame hold => [⟨atFrame, button, true⟩, ⟨atFrame + hold, button, false⟩]
  | .process _ => []

def serve (state : InputQueue × Controls) : Request → InputQueue × Controls
  | .push event => (state.1.push event, state.2)
  | .enqueueButton button atFrame hold => (state.1.enqueueButton button atFrame hold, state.2)
  | .process frame => state.1.process frame state.2

/-- Serve requests from an empty queue on. -/
def serveAll (controls : Controls) (requests : List Request) : InputQueue × Controls :=
  requests.foldl serve ({}, controls)

/-- All events that requests queue, in the order of queueing. -/
def arrivals (requests : List Request) : List InputEvent := requests.flatMap Request.events

theorem serveAll_concat (controls : Controls) (requests : List Request) (request : Request) :
    serveAll controls (requests ++ [request]) = serve (serveAll controls requests) request :=
  List.foldl_append ..

theorem arrivals_concat (requests : List Request) (request : Request) :
    arrivals (requests ++ [request]) = arrivals requests ++ request.events := by
  simp [arrivals]

/-! ## Sorted events -/

def Sorted (events : List InputEvent) : Prop := events.Pairwise (·.frame ≤ ·.frame)

/-- The search for the place stops at the first event that is due later, whatever follows. -/
theorem insert_eq (event : InputEvent) (events : List InputEvent) :
    insert event events =
      events.takeWhile (·.frame ≤ event.frame) ++
        event :: events.dropWhile (·.frame ≤ event.frame) := by
  induction events with
  | nil => rfl
  | cons other rest ih =>
    by_cases h : other.frame ≤ event.frame
    · simp [insert, h, Nat.not_lt.2 h, ih]
    · simp [insert, h, Nat.not_le.1 h]

theorem Sorted.filter_due_eq_nil {event : InputEvent} {rest : List InputEvent} {frame : Nat}
    (h : Sorted (event :: rest)) (hlt : frame < event.frame) :
    (event :: rest).filter (·.frame ≤ frame) = [] := by
  rw [List.filter_eq_nil_iff]
  intro other hmem
  have hle : event.frame ≤ other.frame := by
    rcases List.mem_cons.1 hmem with rfl | hrest
    · exact Nat.le_refl _
    · exact List.rel_of_pairwise_cons h hrest
  simp only [decide_eq_true_eq]
  omega

/-- In a sorted list the events that are due are those in front. -/
theorem Sorted.takeWhile_due {events : List InputEvent} (h : Sorted events) (frame : Nat) :
    events.takeWhile (·.frame ≤ frame) = events.filter (·.frame ≤ frame) := by
  induction events with
  | nil => rfl
  | cons event rest ih =>
    by_cases hle : event.frame ≤ frame
    · simp [hle, ih (List.Pairwise.of_cons h)]
    · rw [h.filter_due_eq_nil (Nat.not_le.1 hle)]
      simp [hle]

theorem Sorted.dropWhile_due {events : List InputEvent} (h : Sorted events) (frame : Nat) :
    events.dropWhile (·.frame ≤ frame) = events.filter (frame < ·.frame) := by
  induction events with
  | nil => rfl
  | cons event rest ih =>
    by_cases hle : event.frame ≤ frame
    · simp [hle, Nat.not_lt.2 hle, ih (List.Pairwise.of_cons h)]
    · have hlater : ∀ other ∈ rest, frame < other.frame := fun other hmem =>
        Nat.lt_of_lt_of_le (Nat.not_le.1 hle) (List.rel_of_pairwise_cons h hmem)
      simp [hle, Nat.not_le.1 hle, List.filter_eq_self.2 (fun o ho => decide_eq_true (hlater o ho))]

/-- Processing a sorted queue takes out what is due, and nothing else. -/
theorem Sorted.process_eq {queue : InputQueue} (h : Sorted queue.events) (frame : Nat)
    (controls : Controls) :
    queue.process frame controls =
      (⟨queue.events.filter (frame < ·.frame)⟩,
        (queue.events.filter (·.frame ≤ frame)).foldl perform controls) := by
  rw [← h.takeWhile_due, ← h.dropWhile_due]
  rfl

/-! ## Numbered events -/

/-- An event and how many were queued before it. -/
abbrev Entry := InputEvent × Nat

/-- By frame, and for one frame by number. -/
def Before (first second : Entry) : Prop :=
  first.1.frame < second.1.frame ∨ first.1.frame = second.1.frame ∧ first.2 < second.2

theorem filter_due_append_perm (entries : List Entry) (frame : Nat) :
    (entries.filter (·.1.frame ≤ frame) ++ entries.filter (frame < ·.1.frame)).Perm entries := by
  have hperm := List.filter_append_perm (fun entry : Entry => entry.1.frame ≤ frame) entries
  simpa only [← decide_not, Nat.not_le] using hperm

/-- A request to process has reached the entry: one that came after it was queued, for its frame or
a later one. -/
def Reached (requests : List Request) (entry : Entry) : Prop :=
  ∃ earlier frame later, requests = earlier ++ .process frame :: later ∧
    entry.2 < (arrivals earlier).length ∧ entry.1.frame ≤ frame

/-- What has become of the events in `arrived`, of which those with `reached` were to be performed:
`performed` in this order on the controls, and `waiting` in this order in the queue. -/
structure Keeps (arrived : List InputEvent) (reached : Entry → Prop) (start : Controls)
    (state : InputQueue × Controls) (performed waiting : List Entry) : Prop where
  events : state.1.events = waiting.map Prod.fst
  controls : state.2 = (performed.map Prod.fst).foldl perform start
  ordered : waiting.Pairwise Before
  /-- Nothing is lost, and nothing is there twice. -/
  perm : (performed ++ waiting).Perm arrived.zipIdx
  reached_of_performed : ∀ entry ∈ performed, reached entry
  not_reached_of_waiting : ∀ entry ∈ waiting, ¬ reached entry

section

variable {arrived : List InputEvent} {reached : Entry → Prop} {start : Controls}
  {state : InputQueue × Controls} {performed waiting : List Entry}

theorem Keeps.number_lt (h : Keeps arrived reached start state performed waiting) {entry : Entry}
    (hmem : entry ∈ performed ++ waiting) : entry.2 < arrived.length :=
  List.snd_lt_of_mem_zipIdx (h.perm.mem_iff.1 hmem)

theorem Keeps.sorted (h : Keeps arrived reached start state performed waiting) :
    Sorted state.1.events := by
  rw [Sorted, h.events, List.pairwise_map]
  refine h.ordered.imp fun hbefore => ?_
  rcases hbefore with hlt | ⟨heq, -⟩
  · exact Nat.le_of_lt hlt
  · exact Nat.le_of_eq heq

theorem Keeps.of_iff (h : Keeps arrived reached start state performed waiting)
    {reached' : Entry → Prop} (hiff : ∀ entry, reached' entry ↔ reached entry) :
    Keeps arrived reached' start state performed waiting :=
  (funext fun entry => propext (hiff entry) : reached' = reached) ▸ h

/-- The last event that was queued stands behind those that are due no later, which all have lower
numbers. -/
theorem Keeps.push (h : Keeps arrived reached start state performed waiting) (event : InputEvent)
    (hfresh : ¬ reached (event, arrived.length)) :
    ∃ waiting', Keeps (arrived ++ [event]) reached start (state.1.push event, state.2) performed
      waiting' := by
  let ahead := waiting.filter (·.1.frame ≤ event.frame)
  let behind := waiting.filter (event.frame < ·.1.frame)
  have hsplit : (ahead ++ behind).Perm waiting := filter_due_append_perm waiting event.frame
  refine ⟨ahead ++ (event, arrived.length) :: behind, ?_, h.controls, ?_, ?_,
    h.reached_of_performed, ?_⟩
  · show insert event state.1.events = _
    rw [insert_eq, h.sorted.takeWhile_due, h.sorted.dropWhile_due, h.events]
    simp only [List.filter_map, List.map_append, List.map_cons]
    rfl
  · have hbehind : ∀ entry ∈ behind, event.frame < entry.1.frame := fun entry hmem => by
      simpa using (List.mem_filter.1 hmem).2
    rw [List.pairwise_append, List.pairwise_cons]
    refine ⟨h.ordered.filter _, ⟨fun entry hmem => .inl (hbehind entry hmem), h.ordered.filter _⟩,
      fun first hfirst second hsecond => ?_⟩
    obtain ⟨hwaits, hle⟩ := List.mem_filter.1 hfirst
    have hnumber := h.number_lt (List.mem_append_right performed hwaits)
    simp only [decide_eq_true_eq] at hle
    rcases List.mem_cons.1 hsecond with rfl | hsecond
    · exact (Nat.lt_or_eq_of_le hle).imp id fun heq => ⟨heq, hnumber⟩
    · exact .inl (Nat.lt_of_le_of_lt hle (hbehind second hsecond))
  · calc performed ++ (ahead ++ (event, arrived.length) :: behind)
      _ ~ (event, arrived.length) :: (performed ++ (ahead ++ behind)) :=
        (List.perm_middle.append_left performed).trans List.perm_middle
      _ ~ (event, arrived.length) :: arrived.zipIdx :=
        ((hsplit.append_left performed).trans h.perm).cons _
      _ ~ (arrived ++ [event]).zipIdx := by
        rw [List.zipIdx_append, Nat.zero_add]
        exact (List.perm_append_singleton _ _).symm
  · intro entry hmem
    rcases List.mem_append.1 hmem with hahead | hmem
    · exact h.not_reached_of_waiting entry (List.mem_filter.1 hahead).1
    rcases List.mem_cons.1 hmem with rfl | hbehind
    · exact hfresh
    · exact h.not_reached_of_waiting entry (List.mem_filter.1 hbehind).1

theorem Keeps.process (h : Keeps arrived reached start state performed waiting) (frame : Nat) :
    ∃ performed' waiting',
      Keeps arrived
        (fun entry => reached entry ∨ entry.2 < arrived.length ∧ entry.1.frame ≤ frame) start
        (state.1.process frame state.2) performed' waiting' := by
  let due := waiting.filter (·.1.frame ≤ frame)
  let rest := waiting.filter (frame < ·.1.frame)
  have hsplit : (due ++ rest).Perm waiting := filter_due_append_perm waiting frame
  refine ⟨performed ++ due, rest, ?_, ?_, h.ordered.filter _, ?_, ?_, ?_⟩
  · rw [h.sorted.process_eq, h.events, List.filter_map]
    rfl
  · rw [h.sorted.process_eq, List.map_append, List.foldl_append, ← h.controls, h.events]
    simp only [List.filter_map]
    rfl
  · rw [List.append_assoc]
    exact (hsplit.append_left performed).trans h.perm
  · intro entry hmem
    rcases List.mem_append.1 hmem with hbefore | hdue
    · exact .inl (h.reached_of_performed entry hbefore)
    · obtain ⟨hwaits, hle⟩ := List.mem_filter.1 hdue
      exact .inr ⟨h.number_lt (List.mem_append_right performed hwaits), by simpa using hle⟩
  · intro entry hmem
    obtain ⟨hwaits, hlt⟩ := List.mem_filter.1 hmem
    simp only [decide_eq_true_eq] at hlt
    rintro (hreached | ⟨-, hle⟩)
    · exact h.not_reached_of_waiting entry hwaits hreached
    · omega

end

/-! ## Serving requests -/

theorem Reached.number_lt {requests : List Request} {entry : Entry} (h : Reached requests entry) :
    entry.2 < (arrivals requests).length := by
  obtain ⟨earlier, frame, later, rfl, hlt, -⟩ := h
  simp only [arrivals, List.flatMap_append, List.length_append] at hlt ⊢
  omega

/-- Only the last request can reach what the ones before it have not. -/
theorem reached_concat {requests : List Request} {request : Request} {entry : Entry} :
    Reached (requests ++ [request]) entry ↔
      Reached requests entry ∨ ∃ frame, request = .process frame ∧
        entry.2 < (arrivals requests).length ∧ entry.1.frame ≤ frame := by
  constructor
  · rintro ⟨earlier, frame, later, heq, hreaches⟩
    rcases List.eq_nil_or_concat later with rfl | ⟨later, last, rfl⟩
    · obtain ⟨rfl, hlast⟩ := List.append_inj' heq rfl
      exact .inr ⟨frame, List.singleton_inj.1 hlast, hreaches⟩
    · rw [List.concat_eq_append, ← List.cons_append, ← List.append_assoc] at heq
      obtain ⟨rfl, -⟩ := List.append_inj' heq rfl
      exact .inl ⟨earlier, frame, later, rfl, hreaches⟩
  · rintro (⟨earlier, frame, later, rfl, hreaches⟩ | ⟨frame, rfl, hreaches⟩)
    · exact ⟨earlier, frame, later ++ [request], by simp, hreaches⟩
    · exact ⟨requests, frame, [], rfl, hreaches⟩

theorem exists_keeps (start : Controls) (requests : List Request) :
    ∃ performed waiting,
      Keeps (arrivals requests) (Reached requests) start (serveAll start requests) performed
        waiting := by
  induction requests using List.reverseRecOn with
  | nil =>
    exact ⟨[], [], rfl, rfl, .nil, .refl _, by simp, by simp⟩
  | append_singleton requests request ih =>
    obtain ⟨performed, waiting, h⟩ := ih
    have hfresh : ∀ event, ¬ Reached requests (event, (arrivals requests).length) :=
      fun event hreached => Nat.lt_irrefl _ hreached.number_lt
    rw [serveAll_concat, arrivals_concat]
    cases request with
    | push event =>
      obtain ⟨waiting, h⟩ := h.push event (hfresh event)
      exact ⟨performed, waiting, h.of_iff fun entry => by simp [reached_concat]⟩
    | enqueueButton button atFrame hold =>
      obtain ⟨waiting, h⟩ := h.push ⟨atFrame, button, true⟩ (hfresh _)
      obtain ⟨waiting, h⟩ := h.push ⟨atFrame + hold, button, false⟩ fun hreached =>
        absurd hreached.number_lt (by simp)
      rw [List.append_assoc] at h
      exact ⟨performed, waiting, h.of_iff fun entry => by simp [reached_concat]⟩
    | process frame =>
      obtain ⟨performed, waiting, h⟩ := h.process frame
      rw [Request.events, List.append_nil]
      exact ⟨performed, waiting, h.of_iff fun entry => by simp [reached_concat]⟩

/-- Whatever has been queued and processed: the queue keeps its events by frame and, for one frame,
in the order of queueing; each has been performed once if a processing has reached it, and waits if
none has. Processing it now, on any controls, performs those that are due, in that order, and takes
out just those. -/
theorem keeps_serveAll (start : Controls) (requests : List Request) :
    (∃ performed waiting,
      Keeps (arrivals requests) (Reached requests) start (serveAll start requests) performed
        waiting) ∧
    ∀ (frame : Nat) (controls : Controls),
      let queue := (serveAll start requests).1
      queue.process frame controls =
        (⟨queue.events.filter (frame < ·.frame)⟩,
          (queue.events.filter (·.frame ≤ frame)).foldl perform controls) := by
  obtain ⟨performed, waiting, h⟩ := exists_keeps start requests
  exact ⟨⟨performed, waiting, h⟩, fun frame controls => h.sorted.process_eq frame controls⟩

end Console7800.InputQueue
