import Console7800.Proofs.Console.PowerCycle

/-!
# What lasts while the cartridge stays in

Frames, accesses, resets and restored states reach the bus in three ways. A property that all three
keep (`SystemBus.Lasting`) holds of the bus after whatever is played (`Lasting.perform`,
`Lasting.played`).
-/

namespace Console7800

/-- The state that an action loads. -/
def Action.state? : Action → Option Bytes
  | .loadState data | .loadStateWarm data => some data
  | _ => none

/-- A property of the bus that a change keeps, and a power-on, and a state that may be loaded. -/
structure SystemBus.Lasting {σ : Type} [SoundChip σ] (loadable : Bytes → Prop)
    (P : SystemBus σ → Prop) : Prop where
  change : ∀ {bus after : SystemBus σ}, Change bus after → P bus → P after
  powerOn : ∀ {bus : SystemBus σ}, P bus → P (Console.powerOnBus bus)
  restore : ∀ {bus : SystemBus σ} {data : Bytes} {parts : SaveState.Parts}, loadable data →
    SaveState.parse data bus.cartridge = .ok parts → P bus → P (parts.onBus bus)

namespace SystemBus.Lasting

variable {μ σ : Type} [SoundChip σ] {loadable : Bytes → Prop} {P : SystemBus σ → Prop}

theorem evolves (h : Lasting loadable P) {bus after : SystemBus σ} (hevolves : Evolves bus after)
    (hbus : P bus) : P after :=
  hevolves.keeps h.change hbus

variable [DisplayChip μ] {console : Console μ σ}

theorem resetFor (h : Lasting loadable P) (hbus : P console.board.bus) (loadingState : Bool) :
    P (console.resetFor loadingState).board.bus := by
  rw [Console.bus_resetFor]
  exact h.evolves (console.evolves_startBus loadingState) (h.powerOn hbus)

theorem loadState (h : Lasting loadable P) (hbus : P console.board.bus) {data : Bytes}
    (hloadable : loadable data) : P (console.loadState data).2.board.bus := by
  unfold Console.loadState
  split
  · exact hbus
  · rename_i parts hparse
    rw [Console.restore_eq]
    exact h.restore hloadable (by rwa [Console.parse_resetFor]) (h.resetFor hbus true)

theorem perform (h : Lasting loadable P) (hbus : P console.board.bus) {action : Action}
    (hplays : action.Plays) (hloadable : ∀ data ∈ action.state?, loadable data) :
    P (console.perform action).board.bus := by
  cases action with
  | setBoot | setDatabase | loadCartridge | release => exact absurd hplays id
  | setControls | setQueue | aim => exact hbus
  | reset => exact h.resetFor hbus false
  | runFrame => exact h.evolves (Console.evolves_runFrameWith _ _) hbus
  | runFrameWith controls => exact h.evolves (console.evolves_runFrameWith controls) hbus
  | read address => exact h.evolves (console.board.bus.evolves_read address) hbus
  | write address value => exact h.evolves (console.board.bus.evolves_write address value) hbus
  | loadState data => exact h.loadState hbus (hloadable data rfl)
  | loadStateWarm data =>
    unfold Console.perform Console.loadStateWarm
    dsimp only
    split
    · exact hbus
    · exact h.loadState (h.evolves (Console.evolves_runFramesWith _ _ console) hbus)
        (hloadable data rfl)

theorem played (h : Lasting (fun _ => True) P) {start : Console μ σ} (hstart : P start.board.bus)
    (hplayed : Console.Played start console) : P console.board.bus := by
  induction hplayed with
  | start => exact hstart
  | act _ hplays ih => exact h.perform ih hplays fun _ _ => trivial

end SystemBus.Lasting
end Console7800
