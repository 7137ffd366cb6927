import Chip8.Host.Frame

/-!
# The host loop

Frames until the user quits, the frame limit is reached or a frame fails. A loop counts its whole frames and their
instructions as it goes. At the end a tone that still sounds is stopped; a failure of that last stop is only reported.
-/

namespace Chip8.Host

variable {γ δ ι σ : Type}

/-- How many frames and instructions a loop ran, and whether the user ended it. -/
structure Summary where
  frames : Nat := 0
  cycles : Nat := 0
  quit : Bool := false
deriving DecidableEq, Repr

/-- One more whole frame of this many instructions. -/
def Summary.countFrame (s : Summary) (cycles : Nat) : Summary :=
  { s with frames := s.frames + 1, cycles := s.cycles + cycles }

inductive Ending
  | limitReached
  | quit
  | failed (fault : Fault)
deriving DecidableEq, Repr

/-- What became of a loop when it was asked to go on for one frame. -/
inductive Turn (γ δ ι σ : Type)
  /-- A frame was run. -/
  | played (after : Host γ δ ι σ)
  | ended (ending : Ending) (after : Host γ δ ι σ)

/-- Whether this many frames are all that is allowed. -/
def limitReached (h : Host γ δ ι σ) (frames : Nat) : Bool :=
  h.settings.maxFrames.any (· ≤ frames)

/-- Goes on after `frames` frames: nothing is polled any more once the limit is reached. -/
def turn [RandomSource γ] [Display δ] [InputDevice ι] [Speaker σ] (frames : Nat) (h : Host γ δ ι σ) :
    Turn γ δ ι σ :=
  if h.limitReached frames then .ended .limitReached h
  else
    match h.runFrame with
    | (.ok true, after) => .played after
    | (.ok false, after) => .ended .quit after
    | (.error fault, after) => .ended (.failed fault) after

/-- Stops a tone that still sounds. -/
def silence [Speaker σ] (h : Host γ δ ι σ) : Host γ δ ι σ :=
  if Speaker.isBeeping h.speaker then
    let called := Speaker.stop h.speaker
    let after := { h with speaker := called.2 }.noteCall .stop called.1.isOk
    match called.1 with
    | .ok () => after
    | .error reason => after.noteLog [.toneStuck reason]
  else h

/-- What a loop leaves: its answer and its host. -/
abbrev Concluded (γ δ ι σ : Type) := Except Fault Summary × Host γ δ ι σ

/-- Ends a loop that counted this much. -/
def conclude [Speaker σ] (ending : Ending) (counted : Summary) (h : Host γ δ ι σ) : Concluded γ δ ι σ :=
  let after := h.silence
  match ending with
  | .limitReached => (.ok counted, after.noteLog [.stopped counted.frames counted.cycles])
  | .quit => (.ok { counted with quit := true }, after.noteLog [.stopped counted.frames counted.cycles])
  | .failed fault => (.error fault, after.noteLog [.halted after.machine.pc counted.frames fault])

/-- A loop under way: what it counted so far, and its host. -/
structure Running (γ δ ι σ : Type) where
  counted : Summary := {}
  host : Host γ δ ι σ

variable [RandomSource γ] [Display δ] [InputDevice ι] [Speaker σ]

/-- A loop goes on for one frame, or it comes to its end. -/
def Running.next (now : Running γ δ ι σ) : Concluded γ δ ι σ ⊕ Running γ δ ι σ :=
  match now.host.turn now.counted.frames with
  | .played after => .inr { counted := now.counted.countFrame after.settings.cyclesPerFrame, host := after }
  | .ended ending after => .inl (after.conclude ending now.counted)

/-- Goes on for at most `fuel` frames; `none` if the loop has not ended by then. -/
def Running.finish (fuel : Nat) (now : Running γ δ ι σ) : Option (Concluded γ δ ι σ) :=
  match now.next, fuel with
  | .inl concluded, _ => some concluded
  | .inr _, 0 => none
  | .inr later, fuel + 1 => later.finish fuel

/-- The loop, for at most `fuel` frames; `none` if it has not ended by then. -/
def loop (fuel : Nat) (h : Host γ δ ι σ) : Option (Concluded γ δ ι σ) :=
  Running.finish fuel { host := h }

end Chip8.Host
