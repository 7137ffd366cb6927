import Chip8.Proofs.Interpreter.Footprint
import Chip8.Proofs.Raster.Placement

/-!
# Drawing on the screen

Dxyn turns over the pixels under the set bits of the bytes at the index, sets the flag if one of them was lit, and
changes nothing else (`draw_pixel_by_pixel`).
-/

namespace Chip8

variable {sprite : List UInt8}

namespace Screen

theorem get_draw (s : Screen) (x y px py : Nat) (h : sprite.length ≤ 32) :
    (s.draw x y sprite).1.val.get px py =
      (s.val.get px py ^^ Raster.sets sprite (Raster.behind 64 x px) (Raster.behind 32 y py)) := by
  obtain ⟨r, hw, hh⟩ := s
  have hrows : sprite.length ≤ r.height := by omega
  have hget := Raster.get_draw (by omega) hrows x y px py
  rwa [hw, hh] at hget

theorem draw_hit_iff (s : Screen) (x y : Nat) (h : sprite.length ≤ 32) :
    (s.draw x y sprite).2 = true ↔
      ∃ px py, px < 64 ∧ py < 32 ∧
        Raster.sets sprite (Raster.behind 64 x px) (Raster.behind 32 y py) = true ∧ s.val.get px py = true := by
  obtain ⟨r, hw, hh⟩ := s
  have hrows : sprite.length ≤ r.height := by omega
  have hhit := Raster.draw_hit_iff (by omega) hrows x y
  rwa [hw, hh] at hhit

end Screen

namespace Machine

variable {m : Machine}

/-- Whether `n` bytes at the index, drawn with their upper left corner at `(a, b)`, set the bit over a pixel. -/
def spriteBit (m : Machine) (a b n px py : Nat) : Bool :=
  let c := Raster.behind 64 a px
  let r := Raster.behind 32 b py
  decide (c < 8) && decide (r < n) && (m.ram.byteAt (m.index.toNat + r)).toNat.testBit (7 - c)

theorem sets_of_read {n : Nat} (h : m.ram.read m.index n = .ok sprite) (a b px py : Nat) :
    Raster.sets sprite (Raster.behind 64 a px) (Raster.behind 32 b py) = m.spriteBit a b n px py := by
  simp only [spriteBit, Raster.sets, Ram.getElem?_of_read h, Bool.and_assoc]
  split <;> simp [*]

end Machine

namespace Interpreter

variable {γ : Type} [RandomSource γ]

theorem execute_draw {i : Interpreter γ} {x y : Reg} {rows : UInt8}
    (h : i.machine.ram.read i.machine.index rows.toNat = .ok sprite) :
    let drawn := i.machine.screen.draw (i.machine.reg x).toNat (i.machine.reg y).toNat sprite
    i.execute (.draw x y rows) =
      (.ok (), { i with machine :=
        { { i.machine with screen := drawn.1, redraw := true }.setFlag drawn.2 with pc := i.machine.pc + 2 } }) := by
  simp only [execute, Machine.perform, h]
  rfl

/-- Dxyn with `n` bytes at the index inside memory draws them with their upper left corner at `(Vx, Vy)`. A pixel that
is `c` columns and `r` rows behind the corner, going round at the edges, is turned over exactly if `c` is less than 8,
`r` is less than `n`, and the byte `r` places after the index has its bit `7 - c` set. The flag becomes 1 if a pixel
that is turned over was lit, and 0 otherwise. A redraw is asked for, the program counter goes on by 2, and nothing else
changes: no other register, not the memory, the index, the stack, a timer or a key. -/
theorem draw_pixel_by_pixel (i : Interpreter γ) (x y : Reg) (rows : UInt8) (hn : rows.toNat < 0x10)
    (hi : i.machine.index.toNat + rows.toNat ≤ 4096) :
    let m := i.machine
    let s := m.spriteBit (m.reg x).toNat (m.reg y).toNat rows.toNat
    let drawn := i.execute (.draw x y rows)
    let after := drawn.2.machine
    drawn.1 = .ok () ∧
    (∀ px < 64, ∀ py < 32, after.screen.val.get px py = (m.screen.val.get px py ^^ s px py)) ∧
    ((∃ px py, px < 64 ∧ py < 32 ∧ s px py = true ∧ m.screen.val.get px py = true) →
      after.reg Machine.flagRegister = 1) ∧
    ((¬ ∃ px py, px < 64 ∧ py < 32 ∧ s px py = true ∧ m.screen.val.get px py = true) →
      after.reg Machine.flagRegister = 0) ∧
    (∀ r, r ≠ Machine.flagRegister → after.reg r = m.reg r) ∧
    drawn.2 = { i with machine :=
      { m with screen := after.screen, registers := after.registers, redraw := true, pc := m.pc + 2 } } ∧
    ∀ word, m.fetch = .ok word → word.toNat = 0xd000 + 0x100 * x + 0x10 * y + rows.toNat → i.step = drawn := by
  intro m s drawn after
  obtain ⟨sprite, hread⟩ : ∃ sprite, m.ram.read m.index rows.toNat = .ok sprite := ⟨_, if_pos hi⟩
  have hlen : sprite.length ≤ 32 := by
    rw [Ram.length_of_read hread]
    omega
  have hdrawn := execute_draw (x := x) (y := y) hread
  have hbit := Machine.sets_of_read hread (m.reg x).toNat (m.reg y).toNat
  have hget : ∀ px py, (m.screen.draw (m.reg x).toNat (m.reg y).toNat sprite).1.val.get px py =
      (m.screen.val.get px py ^^ s px py) := by
    intro px py
    rw [Screen.get_draw _ _ _ _ _ hlen, hbit]
  have hhit := m.screen.draw_hit_iff (m.reg x).toNat (m.reg y).toNat hlen
  simp only [hbit] at hhit
  -- from here on only the law of the pixels and that of the collision count, not how a sprite is drawn
  generalize m.screen.draw (m.reg x).toNat (m.reg y).toNat sprite = result at hget hhit hdrawn
  have hafter : after = { { m with screen := result.1, redraw := true }.setFlag result.2 with pc := m.pc + 2 } :=
    congrArg (fun drawn => drawn.2.machine) hdrawn
  have hflag : after.reg Machine.flagRegister = if result.2 then 1 else 0 := by
    rw [hafter]
    exact Machine.reg_setReg_self ..
  refine ⟨congrArg Prod.fst hdrawn, ?_, ?_, ?_, ?_, ?_, ?_⟩
  · intro px _ py _
    rw [hafter]
    exact hget px py
  · intro hlit
    rw [hflag, hhit.2 hlit]
    rfl
  · intro hdark
    rw [hflag, Bool.eq_false_iff.2 fun h => hdark (hhit.1 h)]
    rfl
  · intro r hr
    rw [hafter]
    exact Machine.reg_setFlag_of_ne _ hr
  · rw [hafter]
    exact congrArg Prod.snd hdrawn
  · intro word hf hw
    have hd : Instruction.decode word = some (.draw x y rows) := decode_of_encoded ⟨hn, hw.symm⟩
    have hf : i.machine.fetch = .ok word := hf
    simp only [step, takeStep, hf, hd]
    rfl

/-- Register VF gives both coordinates. Three rows of a glyph are drawn over all five of it in the lower right corner,
so that the last of the three lies in the first row of the screen. -/
theorem draw_pixel_by_pixel_around_corner :
    ∃ i : Interpreter Random.Scripted,
      start [0x6f, 0x3e, 0xdf, 0xf5, 0x6f, 0x3e, 0xdf, 0xf3] { words := [] } {} = .ok i ∧
      let now := i.run [.step, .step, .step]
      now.machine.fetch = .ok 0xdff3 ∧ now.machine.index.toNat + 3 ≤ 4096 ∧ now.step.1 = .ok () ∧
        now.machine.screen.val.get 1 0 = true ∧ now.step.2.machine.screen.val.get 1 0 = false ∧
        now.machine.screen.val.get 1 1 = true ∧ now.step.2.machine.screen.val.get 1 1 = true ∧
        now.step.2.machine.reg Machine.flagRegister = 1 := by
  obtain ⟨i, hstart, hf, hi, hpixels, hbits⟩ : ∃ i : Interpreter Random.Scripted,
      start [0x6f, 0x3e, 0xdf, 0xf5, 0x6f, 0x3e, 0xdf, 0xf3] { words := [] } {} = .ok i ∧
      let m := (i.run [.step, .step, .step]).machine
      let corner := (m.reg Machine.flagRegister).toNat
      m.fetch.toOption = some 0xdff3 ∧ m.index.toNat + 3 ≤ 4096 ∧
        (m.screen.val.get 1 0 = true ∧ m.screen.val.get 1 1 = true) ∧
        m.spriteBit corner corner 3 1 0 = true ∧ m.spriteBit corner corner 3 1 1 = false :=
    ⟨_, rfl, by decide +kernel⟩
  have hf := eq_ok_of_toOption hf
  obtain ⟨hok, hget, hcollides, _, _, _, hstep⟩ :=
    draw_pixel_by_pixel (i.run [.step, .step, .step]) Machine.flagRegister Machine.flagRegister 3 (by decide) hi
  have hstep := hstep _ hf (by decide)
  refine ⟨i, hstart, hf, hi, ?_⟩
  rw [hstep]
  refine ⟨hok, hpixels.1, ?_, hpixels.2, ?_, ?_⟩
  · rw [hget 1 (by decide) 0 (by decide)]
    exact congr (congrArg xor hpixels.1) hbits.1
  · rw [hget 1 (by decide) 1 (by decide)]
    exact congr (congrArg xor hpixels.2) hbits.2
  · exact hcollides ⟨1, 0, by decide, by decide, hbits.1, hpixels.1⟩

end Interpreter

end Chip8
