import Chip8.Host.Device
import Chip8.Interpreter

/-!
# Frames

A host wires an interpreter to a display, an input device and a speaker. A frame polls the keys, runs the
instructions of a frame, starts the tone if the sound timer runs, ticks the timers, shows the screen if something
was drawn, and stops the tone if the sound timer has run out. The first failure ends the frame where it is.
-/

namespace Chip8

namespace Host

/-- Something that happened while a host ran. -/
inductive Entry
  | called (call : Call) (succeeded : Bool)
  | reported (record : Log.Record)
deriving DecidableEq, Repr

end Host

/-- An interpreter with its devices and settings, and what happened so far, newest first. -/
structure Host (γ δ ι σ : Type) where
  interpreter : Interpreter γ
  display : δ
  input : ι
  speaker : σ
  settings : Settings
  journal : List Host.Entry := []

namespace Host

variable {γ δ ι σ : Type}

/-- An operation on a host: it may fail, and it leaves a host in either case. -/
abbrev Operation (γ δ ι σ α : Type) := ExceptT Fault (StateM (Host γ δ ι σ)) α

def machine (h : Host γ δ ι σ) : Machine :=
  h.interpreter.machine

/-- Changes the machine inside. -/
def modifyMachine (h : Host γ δ ι σ) (f : Machine → Machine) : Host γ δ ι σ :=
  { h with interpreter := h.interpreter.modifyMachine f }

def noteCall (h : Host γ δ ι σ) (call : Call) (succeeded : Bool) : Host γ δ ι σ :=
  { h with journal := .called call succeeded :: h.journal }

/-- Notes records, oldest first. -/
def noteLog (h : Host γ δ ι σ) (records : List Log.Record) : Host γ δ ι σ :=
  { h with journal := records.foldl (fun journal record => .reported record :: journal) h.journal }

/-- What happened so far, oldest first. -/
def history (h : Host γ δ ι σ) : List Entry :=
  h.journal.reverse

/-- The same host with nothing noted. -/
def forget (h : Host γ δ ι σ) : Host γ δ ι σ :=
  { h with journal := [] }

def poll [InputDevice ι] (h : Host γ δ ι σ) : Except Fault KeyReport × Host γ δ ι σ :=
  let polled := InputDevice.poll h.input
  let after := ({ h with input := polled.after }.noteLog polled.log).noteCall .poll polled.result.isOk
  (polled.result.mapError .io, after)

def step [RandomSource γ] (h : Host γ δ ι σ) : Except Fault Unit × Host γ δ ι σ :=
  let stepped := h.interpreter.takeStep
  (stepped.result, { h.noteLog stepped.log with interpreter := stepped.after })

/-- A number of instructions, up to the first that fails. -/
def steps [RandomSource γ] : Nat → Host γ δ ι σ → Except Fault Unit × Host γ δ ι σ
  | 0, h => (.ok (), h)
  | n + 1, h =>
    match h.step with
    | (.ok (), after) => steps n after
    | (.error fault, after) => (.error fault, after)

/-- Starts the tone. -/
def beep [Speaker σ] (h : Host γ δ ι σ) : Except Fault Unit × Host γ δ ι σ :=
  let called := Speaker.beep h.speaker
  (called.1.mapError .audio, { h with speaker := called.2 }.noteCall .beep called.1.isOk)

def stop [Speaker σ] (h : Host γ δ ι σ) : Except Fault Unit × Host γ δ ι σ :=
  let called := Speaker.stop h.speaker
  (called.1.mapError .audio, { h with speaker := called.2 }.noteCall .stop called.1.isOk)

/-- Shows the screen. -/
def draw [Display δ] (h : Host γ δ ι σ) : Except Fault Unit × Host γ δ ι σ :=
  let called := Display.draw h.display h.machine.screen.val
  (called.1.mapError .io, { h with display := called.2 }.noteCall .draw called.1.isOk)

/-- Starts the tone if it should sound and does not. -/
def startTone [Speaker σ] (h : Host γ δ ι σ) : Except Fault Unit × Host γ δ ι σ :=
  if h.machine.soundActive && !Speaker.isBeeping h.speaker then h.beep else (.ok (), h)

/-- Shows the screen if something was drawn; the drawing is acknowledged once it is shown. -/
def refresh [Display δ] (h : Host γ δ ι σ) : Except Fault Unit × Host γ δ ι σ :=
  if h.machine.redraw then
    match h.draw with
    | (.ok (), after) => (.ok (), after.modifyMachine .acknowledge)
    | failed => failed
  else (.ok (), h)

/-- Stops the tone if the sound timer has run out. -/
def stopTone [Speaker σ] (h : Host γ δ ι σ) : Except Fault Unit × Host γ δ ι σ :=
  if h.machine.soundStopped || (!h.machine.soundActive && Speaker.isBeeping h.speaker) then h.stop
  else (.ok (), h)

/-- What follows the poll in a frame that is not asked to quit. -/
def playFrame [RandomSource γ] [Display δ] [Speaker σ] (keys : Keys) : Operation γ δ ι σ Unit := do
  modify (·.modifyMachine (·.setKeys keys))
  ExceptT.mk fun h => h.steps h.settings.cyclesPerFrame
  ExceptT.mk startTone
  modify (·.modifyMachine .tick)
  ExceptT.mk refresh
  ExceptT.mk stopTone

/-- One frame; the answer is whether the user wants to go on. -/
def frameOperation [RandomSource γ] [Display δ] [InputDevice ι] [Speaker σ] : Operation γ δ ι σ Bool := do
  let report ← ExceptT.mk poll
  if report.quit then
    return false
  playFrame report.keys
  return true

/-- One frame; the answer is whether the user wants to go on. -/
def runFrame [RandomSource γ] [Display δ] [InputDevice ι] [Speaker σ] (h : Host γ δ ι σ) :
    Except Fault Bool × Host γ δ ι σ :=
  frameOperation.run h

end Host

end Chip8
