import Chip8.Host.Device
import Chip8.Terminal.Keyboard
import Chip8.Terminal.Viewer

/-!
# A terminal as devices

The keyboard of a terminal as the input device, and its page as the display.
-/

namespace Chip8.Host

instance : InputDevice Terminal.Keyboard where
  poll k :=
    { result := .ok k.report
      log := k.log
      after := k.look }

instance : Display Terminal.Viewer where
  draw v frame := v.draw Terminal.Page.library frame

end Chip8.Host
