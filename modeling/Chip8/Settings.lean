/-!
# Settings

How a machine behaves where interpreters differ, and how a host drives it.
-/

namespace Chip8

/-- The points where CHIP-8 interpreters differ and programs rely on one side. All off is the CHIP-48 reading. -/
structure Dialect where
  /-- 8xy6 and 8xyE shift `Vy` into `Vx` instead of shifting `Vx`. -/
  shiftReadsVy : Bool := false
  /-- Fx55 and Fx65 leave the index behind the last byte they touched. -/
  blockMovesIndex : Bool := false
  /-- 8xy1, 8xy2 and 8xy3 set the flag register to 0. -/
  logicClearsFlag : Bool := false
  /-- Bxnn jumps to xnn plus `Vx` instead of nnn plus `V0`. -/
  jumpReadsVx : Bool := false
deriving DecidableEq, Repr

/-- How a host drives a machine. -/
structure Settings where
  /-- Instructions between two ticks of the timers. -/
  cyclesPerFrame : Nat := 10
  /-- Ticks in a second. -/
  frameRate : Nat := 60
  /-- The host stops after this many frames, if there is a limit. -/
  maxFrames : Option Nat := none
  /-- The seed of the random source; without it the source is unpredictable. -/
  seed : Option UInt64 := none
  dialect : Dialect := {}
deriving DecidableEq, Repr

/-- The length of a frame in nanoseconds, rounded down. A rate of 0 counts as 1. -/
def Settings.frameNanoseconds (s : Settings) : Nat :=
  1000000000 / max s.frameRate 1

end Chip8
