import Chip8.Proofs.Raster.Views
import Chip8.Proofs.Terminal.Pages
import Chip8.Terminal.Viewer

/-!
# Pictures on a terminal

Whatever lawful library draws them, the points of the lit and of the unlit pixels fall on different cells of a canvas, one
for each pixel (`mem_marks_ofFrame`), so that a frame settles every cell of a terminal it is drawn on (`render_ofFrame`),
and a viewer shows the last frame that it accepted (`page_shows_last_accepted`).
-/

namespace Chip8.Terminal

/-! ## A frame as a widget -/

section Picture

variable {frame : Raster} {lit : Bool} {column row : Nat}

theorem mem_zipIdx_map_range {α : Type} {n k : Nat} {f : Nat → α} {a : α} :
    (a, k) ∈ ((List.range n).map f).zipIdx ↔ k < n ∧ f k = a := by
  rw [List.mk_mem_zipIdx_iff_getElem?, List.getElem?_eq_some_iff]
  simp

theorem mem_points {point : Int × Int} :
    point ∈ points frame lit ↔
      ∃ a < frame.width, ∃ b < frame.height, frame.get a b = lit ∧ ((a : Int), -(b : Int)) = point := by
  simp only [points, Raster.rows_eq, List.mem_flatMap, List.mem_map, List.mem_filter, Prod.exists,
    mem_zipIdx_map_range, decide_eq_true_eq]
  constructor
  · rintro ⟨_, b, ⟨hb, rfl⟩, pixel, a, ⟨hpixel, hlit⟩, hpoint⟩
    obtain ⟨ha, rfl⟩ := mem_zipIdx_map_range.1 hpixel
    exact ⟨a, ha, b, hb, hlit, hpoint⟩
  · rintro ⟨a, ha, b, hb, hlit, hpoint⟩
    exact ⟨_, b, ⟨hb, rfl⟩, _, a, ⟨mem_zipIdx_map_range.2 ⟨ha, rfl⟩, hlit⟩, hpoint⟩

variable {τ : Type} {lib : DrawingLibrary τ}

/-- The canvas has as many cells as the frame has pixels, so linear means one cell for each pixel. -/
theorem cellOf?_ofFrame (hlib : lib.Lawful) (hw : 2 ≤ frame.width) (hh : 2 ≤ frame.height) {a b : Nat}
    (ha : a < frame.width) (hb : b < frame.height) :
    lib.cellOf? (Widget.ofFrame frame.width frame.height frame).canvas ((a : Int), -(b : Int)) = some (a, b) := by
  apply hlib.cellOf?_linear
  all_goals simp only [Widget.canvas, Widget.ofFrame, Bounds.ofSize, Nat.add_sub_cancel]
  · omega
  · omega
  · omega
  · omega
  · rw [Int.sub_zero, Int.sub_zero]
  · rw [Int.zero_sub, Int.zero_sub, Int.neg_neg, Int.neg_neg]

theorem mem_marks_ofFrame (hlib : lib.Lawful) (hw : 2 ≤ frame.width) (hh : 2 ≤ frame.height) {x y : Nat} {white : Bool} :
    ((x, y), white) ∈ (Widget.ofFrame frame.width frame.height frame).marks lib.cellOf? ↔
      (x < frame.width ∧ y < frame.height) ∧ white = frame.get x y := by
  have hlayers (layer : Layer) : layer ∈ (Widget.ofFrame frame.width frame.height frame).layers ↔
      layer = ⟨layer.white, points frame layer.white⟩ := by
    obtain ⟨_ | _, _⟩ := layer <;> simp [Widget.ofFrame]
  -- a pixel is lit or not, so exactly one of the two layers has its point
  simp only [Widget.marks, List.mem_flatMap, hlayers, List.mem_map, List.mem_filterMap, Prod.mk.injEq]
  constructor
  · rintro ⟨layer, hlayer, _, ⟨point, hpoint, hcell⟩, rfl, rfl⟩
    rw [hlayer] at hpoint
    obtain ⟨a, ha, b, hb, hlit, rfl⟩ := mem_points.1 hpoint
    rw [cellOf?_ofFrame hlib hw hh ha hb] at hcell
    cases hcell
    exact ⟨⟨ha, hb⟩, hlit.symm⟩
  · rintro ⟨⟨hx, hy⟩, rfl⟩
    exact ⟨⟨frame.get x y, points frame (frame.get x y)⟩, rfl, (x, y),
      ⟨((x : Int), -(y : Int)), mem_points.2 ⟨x, hx, y, hy, rfl, rfl⟩, cellOf?_ofFrame hlib hw hh hx hy⟩, rfl, rfl⟩

/-- What is seen of a frame at a place: its pixels, the sides of the box around them, and nothing beside the box. -/
def pictureCell (lib : DrawingLibrary τ) (frame : Raster) (column row : Nat) : Cell :=
  if 0 < column ∧ column ≤ frame.width ∧ 0 < row ∧ row ≤ frame.height then
    .painted (frame.get (column - 1) (row - 1))
  else if column < frame.width + 2 ∧ row < frame.height + 2 then
    lib.sides (frame.width + 2) (frame.height + 2) "CHIP-8" (column, row)
  else .blank

theorem pictureCell_succ (hc : column < frame.width) (hr : row < frame.height) :
    pictureCell lib frame (column + 1) (row + 1) = .painted (frame.get column row) :=
  if_pos ⟨Nat.succ_pos column, hc, Nat.succ_pos row, hr⟩

/-- A frame that is rendered into an empty buffer settles every cell. -/
theorem render_ofFrame (hlib : lib.Lawful) (hw : 2 ≤ frame.width) (hh : 2 ≤ frame.height) {before : Cells}
    (hbefore : before (column, row) = .blank) :
    lib.render (.ofFrame frame.width frame.height frame) before (column, row) = pictureCell lib frame column row := by
  have hcolumns : 2 < frame.width + 2 := by omega
  have hrows : 2 < frame.height + 2 := by omega
  rw [pictureCell]
  split
  case isTrue hin =>
    obtain ⟨c, rfl⟩ : ∃ c, column = c + 1 := ⟨column - 1, by omega⟩
    obtain ⟨r, rfl⟩ : ∃ r, row = r + 1 := ⟨row - 1, by omega⟩
    have hmark : lastFor? ((Widget.ofFrame frame.width frame.height frame).marks lib.cellOf?) (c, r) =
        some (frame.get c r) :=
      lastFor?_eq_some fun _ => (mem_marks_ofFrame hlib hw hh).trans (and_iff_right ⟨hin.2.1, hin.2.2.2⟩)
    exact hlib.render_canvas hin.2.1 hin.2.2.2 hmark
  case isFalse hout =>
    split
    case isTrue hcovers =>
      exact hlib.render_sides hcolumns hrows ⟨hcovers, by simp only [Widget.ofFrame]; omega⟩
    case isFalse hcovers =>
      have hbeside : ¬ (Widget.ofFrame frame.width frame.height frame).Covers (column, row) := hcovers
      exact (hlib.render_beside hcolumns hrows hbeside).trans hbefore

end Picture

/-! ## Frames one after the other -/

/-- The last of some frames that has a size. -/
def lastOfSize? (width height : Nat) (frames : List Raster) : Option Raster :=
  (frames.filter fun frame => frame.width = width ∧ frame.height = height).getLast?

section LastOfSize

variable {width height : Nat} {frame : Raster} {frames : List Raster}

theorem lastOfSize?_cons_of_size (h : frame.width = width ∧ frame.height = height) :
    lastOfSize? width height (frame :: frames) = (lastOfSize? width height frames).or (some frame) := by
  rw [lastOfSize?, List.filter_cons_of_pos (by simpa using h), List.getLast?_cons, ← lastOfSize?]
  cases lastOfSize? width height frames <;> rfl

theorem lastOfSize?_cons_of_not_size (h : ¬ (frame.width = width ∧ frame.height = height)) :
    lastOfSize? width height (frame :: frames) = lastOfSize? width height frames := by
  rw [lastOfSize?, List.filter_cons_of_neg (by simpa using h), ← lastOfSize?]

end LastOfSize

namespace ViewerOn

variable {τ : Type} {lib : DrawingLibrary τ} {page : τ} {width height : Nat} {v : ViewerOn τ} {last? : Option Raster}
  {frame : Raster}

/-- A viewer after frames were drawn in order. A frame that is refused does not end them. -/
def drawAll (lib : DrawingLibrary τ) (v : ViewerOn τ) (frames : List Raster) : ViewerOn τ :=
  frames.foldl (fun v frame => (v.draw lib frame).2) v

/-- What is seen at a place after a picture, or before the first one. -/
def screenCell (lib : DrawingLibrary τ) (last? : Option Raster) (column row : Nat) : Cell :=
  match last? with
  | some last => pictureCell lib last column row
  | none => .blank

/-- What holds of a viewer that was started on a terminal, whatever frames it was asked to draw: the terminal has its size
still, the next draw begins with an empty buffer, and the last picture is seen. -/
structure Shows (lib : DrawingLibrary τ) (page : τ) (width height : Nat) (last? : Option Raster) (v : ViewerOn τ) :
    Prop where
  width_eq : v.width = width
  height_eq : v.height = height
  columns_eq : lib.columns v.page = lib.columns page
  rows_eq : lib.rows v.page = lib.rows page
  buffer_eq (place : Nat × Nat) : lib.buffer v.page place = .blank
  shown_eq : ∀ column < lib.columns page, ∀ row < lib.rows page,
    lib.shown v.page (column, row) = screenCell lib last? column row

theorem shows_start (hlib : lib.Lawful) (page : τ) (width height : Nat) :
    Shows lib page width height none (start lib page width height) where
  width_eq := rfl
  height_eq := rfl
  columns_eq := (hlib.size_clear page).1
  rows_eq := (hlib.size_clear page).2
  buffer_eq := hlib.buffer_clear page
  shown_eq _ _ _ _ := hlib.shown_clear ..

theorem draw_of_fits (h : frame.width = v.width ∧ frame.height = v.height) :
    v.draw lib frame =
      ((lib.draw v.page (.ofFrame v.width v.height frame)).1,
        { v with page := (lib.draw v.page (.ofFrame v.width v.height frame)).2 }) :=
  if_pos h

theorem draw_of_not_fits (h : ¬ (frame.width = v.width ∧ frame.height = v.height)) :
    v.draw lib frame = (.error (v.sizeMismatch frame), v) :=
  if_neg h

namespace Shows

theorem draw_of_not_size (hv : Shows lib page width height last? v)
    (h : ¬ (frame.width = width ∧ frame.height = height)) :
    v.draw lib frame = (.error (v.sizeMismatch frame), v) :=
  draw_of_not_fits (by rwa [hv.width_eq, hv.height_eq])

variable (hlib : lib.Lawful) (hw : 2 ≤ width ∧ width + 2 ≤ lib.columns page)
  (hh : 2 ≤ height ∧ height + 2 ≤ lib.rows page)

include hlib hw hh

theorem draw_of_size (hv : Shows lib page width height last? v) (h : frame.width = width ∧ frame.height = height) :
    (v.draw lib frame).1 = .ok () ∧ Shows lib page width height (some frame) (v.draw lib frame).2 := by
  obtain ⟨rfl, rfl⟩ := h
  rw [draw_of_fits ⟨hv.width_eq.symm, hv.height_eq.symm⟩, hv.width_eq, hv.height_eq]
  have hfits : (Widget.ofFrame frame.width frame.height frame).FitsOn (lib.columns v.page) (lib.rows v.page) := by
    rw [hv.columns_eq, hv.rows_eq]
    simp only [Widget.FitsOn, Widget.ofFrame]
    omega
  have hsize := hlib.size_draw hfits
  refine ⟨hlib.draw_ok hfits, rfl, rfl, hsize.1.trans hv.columns_eq, hsize.2.trans hv.rows_eq,
    fun place => hlib.buffer_draw place hfits, fun column hc row hr => ?_⟩
  calc lib.shown (lib.draw v.page (.ofFrame frame.width frame.height frame)).2 (column, row)
      = lib.render (.ofFrame frame.width frame.height frame) (lib.buffer v.page) (column, row) :=
        hlib.shown_draw hfits (hv.columns_eq ▸ hc) (hv.rows_eq ▸ hr)
    _ = pictureCell lib frame column row := render_ofFrame hlib hw.1 hh.1 (hv.buffer_eq _)

theorem drawAll (hv : Shows lib page width height last? v) (frames : List Raster) :
    Shows lib page width height ((lastOfSize? width height frames).or last?) (v.drawAll lib frames) := by
  induction frames generalizing v last? with
  | nil => exact hv
  | cons frame rest ih =>
    rw [ViewerOn.drawAll, List.foldl_cons, ← ViewerOn.drawAll]
    by_cases h : frame.width = width ∧ frame.height = height
    · rw [lastOfSize?_cons_of_size h, Option.or_assoc]
      exact ih (hv.draw_of_size hlib hw hh h).2
    · rw [lastOfSize?_cons_of_not_size h, hv.draw_of_not_size h]
      exact ih hv

end Shows

/-- At every moment a viewer shows the last frame that it accepted, and it accepts the frames of its size. A frame that it
refuses leaves everything as it is. A frame that it accepts settles every cell of the terminal, whatever was there
before. -/
theorem page_shows_last_accepted (hlib : lib.Lawful) (hsize : lib.columns page = 140 ∧ lib.rows page = 70) {w h : Nat}
    (hw : 2 ≤ w ∧ w ≤ 138) (hh : 2 ≤ h ∧ h ≤ 68) (earlier : List Raster) (frame : Raster) :
    let v := (start lib page w h).drawAll lib earlier
    let outcome := (v.draw lib frame).1
    let after := (v.draw lib frame).2
    (∀ column < 140, ∀ row < 70,
      lib.shown v.page (column, row) = screenCell lib (lastOfSize? w h earlier) column row) ∧
    (outcome = .ok () ↔ frame.width = w ∧ frame.height = h) ∧
    (outcome ≠ .ok () → (∃ text, outcome = .error (.refused .invalidInput text)) ∧ after = v) ∧
    (outcome = .ok () →
      (∀ x < w, ∀ y < h, lib.shown after.page (x + 1, y + 1) = .painted (frame.get x y)) ∧
      (∀ column < 140, ∀ row < 70, lib.shown after.page (column, row) = pictureCell lib frame column row) ∧
      ∀ others : List Raster, ∀ column < 140, ∀ row < 70,
        lib.shown (((start lib page w h).drawAll lib others).draw lib frame).2.page (column, row) =
          lib.shown after.page (column, row)) := by
  intro v outcome after
  have hwidth : 2 ≤ w ∧ w + 2 ≤ lib.columns page := by omega
  have hheight : 2 ≤ h ∧ h + 2 ≤ lib.rows page := by omega
  have hshows (frames : List Raster) :
      Shows lib page w h (lastOfSize? w h frames) ((start lib page w h).drawAll lib frames) := by
    simpa only [Option.or_none] using (shows_start hlib page w h).drawAll hlib hwidth hheight frames
  refine ⟨fun column hc row hr => (hshows earlier).shown_eq column (hsize.1 ▸ hc) row (hsize.2 ▸ hr), ?_⟩
  by_cases hfits : frame.width = w ∧ frame.height = h
  · have hdraw (frames : List Raster) := (hshows frames).draw_of_size hlib hwidth hheight hfits
    have houtcome : outcome = .ok () := (hdraw earlier).1
    have hcell (frames : List Raster) : ∀ column < 140, ∀ row < 70,
        lib.shown (((start lib page w h).drawAll lib frames).draw lib frame).2.page (column, row) =
          pictureCell lib frame column row :=
      fun column hc row hr => (hdraw frames).2.shown_eq column (hsize.1 ▸ hc) row (hsize.2 ▸ hr)
    refine ⟨iff_of_true houtcome hfits, fun hne => absurd houtcome hne, fun _ =>
      ⟨fun x hx y hy => ?_, hcell earlier, fun others column hc row hr => ?_⟩⟩
    · rw [hcell earlier (x + 1) (by omega) (y + 1) (by omega), pictureCell_succ (hfits.1 ▸ hx) (hfits.2 ▸ hy)]
    · exact (hcell others column hc row hr).trans (hcell earlier column hc row hr).symm
  · have hdraw := (hshows earlier).draw_of_not_size hfits
    have houtcome : outcome = .error (v.sizeMismatch frame) := congrArg Prod.fst hdraw
    have hafter : after = v := congrArg Prod.snd hdraw
    rw [houtcome, hafter]
    exact ⟨iff_of_false nofun hfits, fun _ => ⟨⟨_, rfl⟩, rfl⟩, nofun⟩

/-- A frame that is one column too wide is refused, and the picture before it stays. -/
theorem page_shows_last_accepted_around_refusal :
    let lib := Page.library
    let dotted : Raster := (Raster.blank 2 3 (by decide) (by decide)).flip 1 2
    let wide : Raster := Raster.blank 3 3 (by decide) (by decide)
    let empty : Raster := Raster.blank 2 3 (by decide) (by decide)
    let v := (start lib (.empty 140 70) 2 3).drawAll lib [empty, dotted, wide]
    lib.shown v.page (2, 3) = .painted true ∧ lib.shown v.page (2, 0) = .glyph 'H' ∧
      lib.shown v.page (4, 1) = .blank ∧
      (v.draw lib wide).1 ≠ .ok () ∧ (v.draw lib wide).2 = v ∧
      (v.draw lib empty).1 = .ok () ∧ lib.shown (v.draw lib empty).2.page (2, 3) = .painted false := by
  intro lib dotted wide empty v
  have hsize : lib.columns (.empty 140 70) = 140 ∧ lib.rows (.empty 140 70) = 70 := ⟨rfl, rfl⟩
  obtain ⟨hshown, hwide, hrefused, _⟩ :=
    page_shows_last_accepted Page.library_lawful hsize (w := 2) (h := 3) (by decide) (by decide)
      [empty, dotted, wide] wide
  obtain ⟨_, hempty, _, hdrawn⟩ :=
    page_shows_last_accepted Page.library_lawful hsize (w := 2) (h := 3) (by decide) (by decide)
      [empty, dotted, wide] empty
  have hnot : (v.draw lib wide).1 ≠ .ok () := mt hwide.1 (by decide)
  have hok : (v.draw lib empty).1 = .ok () := hempty.2 (by decide)
  exact ⟨(hshown 2 (by decide) 3 (by decide)).trans (by decide), (hshown 2 (by decide) 0 (by decide)).trans (by decide),
    (hshown 4 (by decide) 1 (by decide)).trans (by decide), hnot, (hrefused hnot).2, hok,
    ((hdrawn hok).1 1 (by decide) 2 (by decide)).trans (by decide)⟩

end ViewerOn

end Chip8.Terminal
