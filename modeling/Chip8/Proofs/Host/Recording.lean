import Chip8.Host.Terminal
import Chip8.Proofs.Host.Picture
import Chip8.Proofs.Host.SideBySide
import Chip8.Proofs.Terminal.Pictures

/-!
# Recorded displays

The last frame that a display accepted can be recorded without changing what the display does (`Recorded`). So in a
session on any display the last accepted frame is the screen unless a redraw is asked for (`recorded_current`), and a
terminal shows it (`terminal_shows_screen`).
-/

namespace Chip8.Host

open Terminal

/-- A display with the last frame that it accepted. -/
structure Recorded (δ : Type) where
  display : δ
  accepted : Option Raster := none

namespace Recorded

variable {δ : Type} [Display δ]

instance : Display (Recorded δ) where
  draw d frame :=
    let called := Display.draw d.display frame
    (called.1, { display := called.2, accepted := if called.1.isOk then some frame else d.accepted })

variable {d : Recorded δ} {frame : Raster} {e : IoError}

theorem draw_of_ok (h : (Display.draw d.display frame).1 = .ok ()) :
    (Display.draw d frame).2 = { display := (Display.draw d.display frame).2, accepted := some frame } := by
  simp only [Display.draw, h]
  rfl

theorem draw_of_error (h : (Display.draw d.display frame).1 = .error e) :
    (Display.draw d frame).2 = { display := (Display.draw d.display frame).2, accepted := d.accepted } := by
  simp only [Display.draw, h]
  rfl

instance : Pictured (Recorded δ) where
  picture d := d.accepted.getD Screen.blank.val
  accepted h := congrArg (·.accepted.getD Screen.blank.val) (draw_of_ok h)
  refused h := congrArg (·.accepted.getD Screen.blank.val) (draw_of_error h)

theorem draws_alike : DrawsAlike (display : Recorded δ → δ) :=
  fun _ _ => rfl

end Recorded

theorem polls_alike {ι : Type} [InputDevice ι] : PollsAlike (Eq : ι → ι → Prop) Eq := by
  rintro s _ rfl
  exact ⟨rfl, rfl, rfl⟩

variable {γ δ ι σ : Type} [RandomSource γ] [InputDevice ι] [Speaker σ]

/-- The same host with its display recorded. -/
def recorded (h : Host γ δ ι σ) : Host γ (Recorded δ) ι σ :=
  { h with display := { display := h.display } }

/-- A host and the same host with its display recorded. -/
abbrev Records (noted : Host γ (Recorded δ) ι σ) (now : Host γ δ ι σ) : Prop :=
  Beside Recorded.display Eq [] noted now

/-- Every session is that of a host with its display recorded, if one looks away from the record. -/
theorem exists_records [Display δ] {h now : Host γ δ ι σ} (hs : Session h now) :
    ∃ noted, Session h.recorded noted ∧ Records noted now :=
  Beside.session Recorded.draws_alike polls_alike ⟨rfl, rfl, rfl, rfl, rfl, rfl⟩ hs

/-- On any display, and whatever fails, the frame that was accepted last is the screen unless a redraw is asked for. -/
theorem recorded_current [Display δ] {program : List UInt8} {random : γ} {dialect : Dialect} {h now : Host γ δ ι σ}
    (hi : Interpreter.start program random dialect = .ok h.interpreter) (hs : Session h now) :
    ∃ noted, Session h.recorded noted ∧ Records noted now ∧
      (now.machine.redraw = false → noted.display.accepted.getD Screen.blank.val = now.machine.screen.val) := by
  obtain ⟨noted, hsession, hrecords⟩ := exists_records hs
  have hcurrent : noted.Current := current_of_session (h := h.recorded) hi rfl hsession
  rw [Current, hrecords.machine_eq] at hcurrent
  exact ⟨noted, hsession, hrecords, hcurrent⟩

/-- What every draw keeps of a display, every session keeps. -/
theorem display_kept [Display δ] {D : δ → Prop} (hdraw : ∀ d frame, D d → D (Display.draw d frame).2)
    {h now : Host γ δ ι σ} (hs : Session h now) (hd : D h.display) : D now.display := by
  have hframe (h : Host γ δ ι σ) (hd : D h.display) : D h.runFrame.2.display :=
    (kept_devices (D := fun d _ _ => D d) fun d frame _ _ => hdraw d frame).runFrame h hd
  have hsilence (h : Host γ δ ι σ) (hd : D h.display) : D h.silence.display := by
    obtain ⟨_, _, he⟩ := h.silence_eq
    rwa [he]
  exact hs.invariant hframe hsilence (fun _ _ hd => hd) hd

/-! ## The terminal -/

/-- The page shows the frame that is on record. -/
def ShowsRecord (d : Recorded Viewer) : Prop :=
  ViewerOn.Shows Page.library (.empty 140 70) 64 32 d.accepted d.display

theorem showsRecord_draw (d : Recorded Viewer) (frame : Raster) (hd : ShowsRecord d) :
    ShowsRecord (Display.draw d frame).2 := by
  by_cases hsize : frame.width = 64 ∧ frame.height = 32
  · obtain ⟨hok, hafter⟩ := ViewerOn.Shows.draw_of_size Page.library_lawful (by decide) (by decide) hd hsize
    rw [Recorded.draw_of_ok hok]
    exact hafter
  · have hrefused : Display.draw d.display frame = (.error (d.display.sizeMismatch frame), d.display) :=
      hd.draw_of_not_size hsize
    rw [Recorded.draw_of_error (congrArg Prod.fst hrefused), hrefused]
    exact hd

/-- From the start of a program on, and whatever fails, a terminal shows the screen unless a redraw is asked for. Before
the first picture it shows nothing, and the screen is blank. -/
theorem terminal_shows_screen {program : List UInt8} {random : γ} {dialect : Dialect} {h now : Host γ Viewer ι σ}
    (hi : Interpreter.start program random dialect = .ok h.interpreter) (hd : h.display = Viewer.start 140 70 64 32)
    (hs : Session h now) (hr : now.machine.redraw = false) :
    ∃ last? : Option Raster, last?.getD Screen.blank.val = now.machine.screen.val ∧
      ∀ column < 140, ∀ row < 70,
        Page.library.shown now.display.page (column, row) = ViewerOn.screenCell Page.library last? column row := by
  obtain ⟨noted, hsession, hrecords, hcurrent⟩ := recorded_current hi hs
  have hstart : ShowsRecord h.recorded.display := by
    rw [ShowsRecord, recorded, hd]
    exact ViewerOn.shows_start Page.library_lawful _ 64 32
  have hshown : ShowsRecord noted.display := display_kept showsRecord_draw hsession hstart
  exact ⟨noted.display.accepted, hcurrent hr, hrecords.display ▸ hshown.shown_eq⟩

end Chip8.Host
