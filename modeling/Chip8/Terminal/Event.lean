import Chip8.Text.Numeral

/-!
# Terminal events

What a terminal reports: keys, the mouse where it is reported at all, a new size of its window, and the cursor's place
when it is asked for.
-/

namespace Chip8.Terminal

/-- A key press. A key together with Ctrl or Alt is the key itself. -/
inductive Key
  | char (c : Char)
  | escape
  | enter
  | tab
  | backTab
  | backspace
  | insert
  | delete
  | up
  | down
  | left
  | right
  | home
  | endKey
  | pageUp
  | pageDown
  | function (number : Nat)
deriving DecidableEq, Repr

def Key.name : Key → String
  | char c => "Char(" ++ String.singleton c ++ ")"
  | escape => "Esc"
  | enter => "Enter"
  | tab => "Tab"
  | backTab => "BackTab"
  | backspace => "Backspace"
  | insert => "Insert"
  | delete => "Delete"
  | up => "Up"
  | down => "Down"
  | left => "Left"
  | right => "Right"
  | home => "Home"
  | endKey => "End"
  | pageUp => "PageUp"
  | pageDown => "PageDown"
  | function number => "F(" ++ Numeral.decimal number ++ ")"

inductive MouseButton
  | left
  | middle
  | right
deriving DecidableEq, Repr

inductive MouseAction
  | down (button : MouseButton)
  | up (button : MouseButton)
  | drag (button : MouseButton)
  | moved
  | scrollUp
  | scrollDown
deriving DecidableEq, Repr

/-- Keys held together with a mouse action. -/
structure Modifiers where
  shift : Bool
  control : Bool
  alt : Bool
deriving DecidableEq, Repr

/-- A mouse action at a cell; the upper left cell is column 0 of row 0. -/
structure MouseEvent where
  action : MouseAction
  column : Nat
  row : Nat
  modifiers : Modifiers
deriving DecidableEq, Repr

def MouseButton.name : MouseButton → String
  | left => "Left"
  | middle => "Middle"
  | right => "Right"

def MouseAction.text : MouseAction → String
  | down b => "Down(" ++ b.name ++ ")"
  | up b => "Up(" ++ b.name ++ ")"
  | drag b => "Drag(" ++ b.name ++ ")"
  | moved => "Moved"
  | scrollUp => "ScrollUp"
  | scrollDown => "ScrollDown"

/-- The text of the held keys in reports. -/
def Modifiers.text (m : Modifiers) : String :=
  let held := (if m.shift then ["SHIFT"] else []) ++ (if m.control then ["CONTROL"] else [])
    ++ (if m.alt then ["ALT"] else [])
  if held.isEmpty then "NONE" else " | ".intercalate held

def MouseEvent.text (e : MouseEvent) : String :=
  "Mouse(MouseEvent \x7b kind: " ++ e.action.text ++ ", column: " ++ Numeral.decimal e.column ++ ", row: "
    ++ Numeral.decimal e.row ++ ", modifiers: " ++ e.modifiers.text ++ " \x7d)"

/-- What the user did. -/
inductive Event
  | key (key : Key)
  | mouse (event : MouseEvent)
  /-- The window has another size. No typed bytes say so. -/
  | resize (columns rows : Nat)
deriving DecidableEq, Repr

/-- What a terminal sends. -/
inductive Received
  | event (event : Event)
  /-- The answer to a question for the cursor's place. Nobody here asks, so what it says does not matter. -/
  | cursorPlace
deriving DecidableEq, Repr

/-- What the user did, if that is what was sent. -/
def Received.event? : Received → Option Event
  | event e => some e
  | cursorPlace => none

end Chip8.Terminal
