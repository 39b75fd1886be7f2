import Console7800.Controls

/-!
# Queued input

Presses and releases that fall due at given frames, kept in the order of their frames. Of two events
for one frame the one that was queued first is first. Frames are numbered in 64 bits. The sum that
`enqueueButton` makes has no such bound: `Counters` has the version that looks at it.
-/

namespace Console7800

structure InputEvent where
  frame : Nat
  button : Button
  pressed : Bool
  deriving Repr, DecidableEq

structure InputQueue where
  events : List InputEvent := []
  deriving Repr, DecidableEq

namespace InputQueue

/-- Put an event behind all that are due no later. -/
def insert (event : InputEvent) : List InputEvent → List InputEvent
  | [] => [event]
  | other :: rest =>
    if event.frame < other.frame then event :: other :: rest else other :: insert event rest

def push (queue : InputQueue) (event : InputEvent) : InputQueue := ⟨insert event queue.events⟩

/-- Queue a press and the release after it. -/
def enqueueButton (queue : InputQueue) (button : Button) (atFrame hold : Nat) : InputQueue :=
  (queue.push ⟨atFrame, button, true⟩).push ⟨atFrame + hold, button, false⟩

/-- Take out what is due at `frame` and do it to the controls. -/
def process (queue : InputQueue) (frame : Nat) (controls : Controls) : InputQueue × Controls :=
  let due (event : InputEvent) : Bool := event.frame ≤ frame
  (⟨queue.events.dropWhile due⟩,
    (queue.events.takeWhile due).foldl
      (fun controls event => controls.set event.button event.pressed) controls)

def size (queue : InputQueue) : Nat := queue.events.length

end InputQueue
end Console7800
