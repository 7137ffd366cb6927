import Chip8.Keypad
import Chip8.Terminal.Event

/-!
# Held keys

A terminal reports key presses and no releases. A key of the keypad counts as held for six looks at the keyboard,
the one that sees the press included.
-/

namespace Chip8.Terminal

/-- The characters that stand for the keys 0 to F: the left-hand side of a keyboard with `1234`, `qwer`, `asdf` and
`zxcv` in its rows stands for `123C`, `456D`, `789E` and `A0BF`. -/
def layout : Vector Char 16 :=
  #v['x', '1', '2', '3', 'q', 'w', 'e', 'a', 's', 'd', 'z', 'c', '4', 'r', 'f', 'v']

/-- The key of a character. Capital ASCII letters count as small ones. -/
def keyOf? (c : Char) : Option (Fin 16) :=
  layout.finIdxOf? c.toLower

/-- How many looks a press lasts. -/
def holdFrames : Nat := 6

/-- For every key how many looks it stays held. -/
structure HeldKeys where
  framesLeft : Vector Nat 16
deriving DecidableEq

namespace HeldKeys

def none : HeldKeys where
  framesLeft := Vector.replicate 16 0

/-- A key is pressed, for the first time or again. -/
def press (held : HeldKeys) (key : Fin 16) : HeldKeys where
  framesLeft := held.framesLeft.setIfInBounds key holdFrames

/-- One look passes. -/
def advance (held : HeldKeys) : HeldKeys where
  framesLeft := held.framesLeft.map (· - 1)

def keys (held : HeldKeys) : Keys :=
  held.framesLeft.map (0 < ·)

end HeldKeys

/-- What is gathered in one look at the keyboard. -/
structure Look where
  held : HeldKeys
  quit : Bool

/-- A key is pressed in a look. -/
def Look.press (look : Look) (key : Fin 16) : Look :=
  { look with held := look.held.press key }

/-- A character with a place on the keypad presses its key, and Esc asks to quit. -/
def Look.see (look : Look) : Event → Look
  | .key (.char c) => (keyOf? c).elim look look.press
  | .key .escape => { look with quit := true }
  | _ => look

/-- One look at the keyboard: time passes first, then the events of the look count, one after the other. -/
def HeldKeys.look (held : HeldKeys) (events : List Event) : Look :=
  events.foldl Look.see { held := held.advance, quit := false }

/-- What one look at the keyboard tells. -/
def report (held : HeldKeys) (events : List Event) : KeyReport :=
  let look := held.look events
  { keys := look.held.keys, quit := look.quit }

end Chip8.Terminal
