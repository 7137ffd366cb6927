import Chip8.Host.Device

/-!
# Devices for rehearsals

Devices without hardware: an input that replays a script, a display and a speaker that remember what was asked of
them, and a wrapper that lets chosen calls of a device fail.
-/

namespace Chip8.Host

/-- Replays one report a look; nothing is pressed after the last. -/
structure ScriptedInput where
  script : List KeyReport

instance : InputDevice ScriptedInput where
  poll s :=
    { result := .ok (s.script.headD .idle)
      log := []
      after := { script := s.script.tail } }

/-- Remembers how many frames it was shown, and the last. -/
structure RememberingDisplay where
  drawn : Nat := 0
  lastFrame : Option Raster := none

instance : Display RememberingDisplay where
  draw d frame := (.ok (), { drawn := d.drawn + 1, lastFrame := some frame })

/-- Makes no sound and remembers how often it should have. -/
structure SilentSpeaker where
  beeping : Bool := false
  beeps : Nat := 0
deriving DecidableEq, Repr

instance : Speaker SilentSpeaker where
  beep s := (.ok (), { beeping := true, beeps := s.beeps + 1 })
  stop s := (.ok (), { s with beeping := false })
  isBeeping s := s.beeping

/-- The speaker of the computer; it never refuses. -/
structure BuiltInSpeaker where
  sounding : Bool := false
deriving DecidableEq, Repr

instance : Speaker BuiltInSpeaker where
  beep _ := (.ok (), { sounding := true })
  stop _ := (.ok (), { sounding := false })
  isBeeping s := s.sounding

/-- The `position`-th call of an operation, counted from 0, is to fail. -/
structure PlannedFailure where
  call : Call
  position : Nat
  message : String
deriving DecidableEq, Repr

/-- How often each operation was called. -/
structure Tally where
  polls : Nat := 0
  draws : Nat := 0
  beeps : Nat := 0
  stops : Nat := 0
deriving DecidableEq, Repr

def Tally.count (t : Tally) : Call → Nat
  | .poll => t.polls
  | .draw => t.draws
  | .beep => t.beeps
  | .stop => t.stops

def Tally.add (t : Tally) : Call → Tally
  | .poll => { t with polls := t.polls + 1 }
  | .draw => { t with draws := t.draws + 1 }
  | .beep => { t with beeps := t.beeps + 1 }
  | .stop => { t with stops := t.stops + 1 }

/-- A device of which planned calls fail. A call that fails does not reach the device. -/
structure Unreliable (α : Type) where
  device : α
  plan : List PlannedFailure
  made : Tally := {}

namespace Unreliable

variable {α : Type}

/-- The message of the plan for the next call of an operation. -/
def failure? (u : Unreliable α) (call : Call) : Option String :=
  (u.plan.find? fun f => f.call = call ∧ f.position = u.made.count call).map (·.message)

def after (u : Unreliable α) (call : Call) (device : α) : Unreliable α :=
  { u with device, made := u.made.add call }

instance [Display α] : Display (Unreliable α) where
  draw u frame :=
    match u.failure? .draw with
    | some message => (.error (.refused .other message), u.after .draw u.device)
    | none =>
      let called := Display.draw u.device frame
      (called.1, u.after .draw called.2)

instance [InputDevice α] : InputDevice (Unreliable α) where
  poll u :=
    match u.failure? .poll with
    | some message =>
      { result := .error (.refused .other message), log := [], after := u.after .poll u.device }
    | none =>
      let polled := InputDevice.poll u.device
      { result := polled.result, log := polled.log, after := u.after .poll polled.after }

instance [Speaker α] : Speaker (Unreliable α) where
  beep u :=
    match u.failure? .beep with
    | some message => (.error message, u.after .beep u.device)
    | none =>
      let called := Speaker.beep u.device
      (called.1, u.after .beep called.2)
  stop u :=
    match u.failure? .stop with
    | some message => (.error message, u.after .stop u.device)
    | none =>
      let called := Speaker.stop u.device
      (called.1, u.after .stop called.2)
  isBeeping u := Speaker.isBeeping u.device

end Unreliable

end Chip8.Host
