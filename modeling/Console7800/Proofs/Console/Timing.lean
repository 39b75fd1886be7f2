import Console7800.Proofs.Console.PowerCycle

/-!
# Whose timing applies

A reset takes the timing from the configuration and the mounted cartridge, and nothing else sets it.
So while a cartridge is in, the timing is that cartridge's, whatever is done (`Attainable.timed`).
-/

namespace Console7800

theorem Board.timing_runFrame {μ σ : Type} [SoundChip σ] [DisplayChip μ] (board : Board μ σ)
    (gun : Lightgun) : (board.runFrame gun).scheduler.timing = board.scheduler.timing := by
  unfold runFrame
  dsimp only
  rw [timing_endFrame, timing_runLines, scheduler_beginFrame]

namespace Console

variable {μ σ : Type}

theorem SamePlugs.isSome {first second : Console μ σ} (h : SamePlugs first second) :
    first.cartridge?.isSome = second.cartridge?.isSome := by
  have hmap := congrArg Option.isSome h.cartridge
  rwa [Option.isSome_map, Option.isSome_map] at hmap

/-- The timing is that of the cartridge, if one is in. -/
def Timed (console : Console μ σ) : Prop :=
  console.cartridge?.isSome →
    console.board.scheduler.timing = timingFor console.config console.cartridge?

theorem Timed.of_samePlugs {first second : Console μ σ} (h : first.Timed)
    (hplugs : SamePlugs first second)
    (htiming : second.board.scheduler.timing = first.board.scheduler.timing) : second.Timed := by
  intro hsome
  have hsome' : first.cartridge?.isSome := by
    rwa [hplugs.isSome]
  rw [htiming, h hsome', hplugs.timingFor, hplugs.config]

variable [SoundChip σ] [DisplayChip μ]

theorem timing_resetFor (console : Console μ σ) (loadingState : Bool) :
    (console.resetFor loadingState).board.scheduler.timing =
      timingFor console.config console.cartridge? := by
  rw [resetFor_eq_start]

theorem timed_resetFor (console : Console μ σ) (loadingState : Bool) :
    (console.resetFor loadingState).Timed := by
  have hplugs := console.samePlugs_resetFor loadingState
  intro _
  rw [timing_resetFor, hplugs.timingFor, hplugs.config]

theorem timed_loadCartridge (console : Console μ σ) (data : Bytes) :
    (console.loadCartridge data).2.Timed := by
  unfold loadCartridge
  dsimp only
  split
  · exact fun hsome => by cases hsome
  · exact timed_resetFor _ false

theorem timing_runFrameWith (console : Console μ σ) (controls : Controls) :
    (console.runFrameWith controls).board.scheduler.timing = console.board.scheduler.timing := by
  rw [runFrameWith_eq]
  exact Board.timing_runFrame _ _

theorem timing_runFramesWith (controls : Controls) (count : Nat) (console : Console μ σ) :
    (runFramesWith controls count console).board.scheduler.timing =
      console.board.scheduler.timing := by
  induction count generalizing console with
  | zero => rfl
  | succ count ih => rw [runFramesWith, ih, timing_runFrameWith]

variable {console : Console μ σ}

theorem Timed.loadState (h : console.Timed) (data : Bytes) : (console.loadState data).2.Timed := by
  unfold Console.loadState
  split
  · exact h
  · refine (console.timed_resetFor true).of_samePlugs (samePlugs_restore _ _) ?_
    rw [restore_eq]

theorem Timed.perform (h : console.Timed) (action : Action) : (console.perform action).Timed := by
  cases action with
  | setBoot | setDatabase | setControls | setQueue | aim => exact h
  | loadCartridge data => exact console.timed_loadCartridge data
  | release => exact fun hsome => by cases hsome
  | reset => exact console.timed_resetFor false
  | runFrame =>
    have hplugs : SamePlugs console (console.perform .runFrame) := samePlugs_perform console trivial
    exact h.of_samePlugs hplugs (timing_runFrameWith _ _)
  | runFrameWith controls =>
    exact h.of_samePlugs (console.samePlugs_runFrameWith controls) (console.timing_runFrameWith _)
  | read address =>
    have hplugs : SamePlugs console (console.perform (.read address)) :=
      samePlugs_perform console trivial
    exact h.of_samePlugs hplugs rfl
  | write address value =>
    have hplugs : SamePlugs console (console.perform (.write address value)) :=
      samePlugs_perform console trivial
    exact h.of_samePlugs hplugs rfl
  | loadState data => exact h.loadState data
  | loadStateWarm data =>
    unfold Console.perform loadStateWarm
    dsimp only
    split
    · exact h
    · exact Timed.loadState (h.of_samePlugs (samePlugs_runFramesWith _ _ console)
        (timing_runFramesWith _ _ console)) data

theorem Attainable.timed {boots : Option BootRom → Prop} (h : Attainable boots console) :
    console.Timed := by
  induction h with
  | fresh => exact fun hsome => by cases hsome
  | act _ _ ih => exact ih.perform _
  | plug _ _ ih => exact ih

theorem Played.timed {start : Console μ σ} (h : Played start console) (hstart : start.Timed) :
    console.Timed := by
  induction h with
  | start => exact hstart
  | act _ _ ih => exact ih.perform _

/-- What is played after a load leaves the timing that of the cartridge, with its settings from the
database. -/
theorem timing_played {start : Console μ σ} {file : Bytes} {cartridge : Cartridge}
    (hload : Cartridge.load file = .ok cartridge)
    (hplayed : Played (start.loadCartridge file).2 console) :
    console.board.scheduler.timing =
      timingFor start.config (some (start.configured cartridge)) := by
  have htimed := hplayed.timed (start.timed_loadCartridge file)
  have hplugs : SamePlugs (start.mounting cartridge) console := by
    have hstart := hplayed.samePlugs
    rw [loadCartridge_eq hload] at hstart
    exact ((start.mounting cartridge).samePlugs_resetFor false).trans hstart
  have hsome : console.cartridge?.isSome := hplugs.isSome.symm
  rw [htimed hsome, ← hplugs.timingFor, ← hplugs.config]
  rfl

end Console
end Console7800
