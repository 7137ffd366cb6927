import Chip8.Pattern.Automaton.Extent

/-!
# Automata of texts

An automaton that reads one of several texts follows a tree: at each place it knows what was read, and chooses by the
next byte.
-/

namespace Chip8.Pattern

/-- Some texts with what they begin with in common: the bytes that can come next, and the places where a text ends.
The newest stand first. Bytes are shared only after the last place where a text ends. -/
inductive ByteTree
  | leaf
  | stop (older : ByteTree)
  | byte (value : Nat) (next older : ByteTree)

namespace ByteTree

def single (bytes : List Nat) : ByteTree :=
  bytes.foldr (fun b next => byte b next leaf) (stop leaf)

/-- A text ends. A second end has no effect as long as nothing comes next. -/
def close : ByteTree → ByteTree
  | stop leaf => stop leaf
  | t => stop t

def insert : ByteTree → List Nat → ByteTree
  | t, [] => t.close
  | byte b next older, c :: rest =>
    if b = c then byte b (next.insert rest) older else byte b next (older.insert (c :: rest))
  | t, c :: rest => byte c (single rest) t

/-- Whether nothing comes next. -/
def isLeaf : ByteTree → Bool
  | leaf => true
  | stop older => older.isLeaf
  | byte .. => false

/-- Adds a state that chooses between a number of bytes, if there are any. -/
def addSwitch (count : Nat) (e : Extent) : Extent :=
  if count = 0 then e else if count = 1 then e.addStates 1 else e.addSwitch count

/-- Adds what follows a place. At the place itself a state chooses freely between the groups of bytes that no end of a
text divides, and those ends; `count` bytes of a group were met, and `ways` groups and ends before it. -/
def extend : ByteTree → (count ways : Nat) → Extent → Extent
  | leaf, count, ways, e => (addSwitch count e).addFork (ways + min count 1)
  | stop older, count, ways, e => older.extend 0 (ways + min count 1 + 1) (addSwitch count e)
  | byte _ next older, count, ways, e =>
    let e := older.extend (count + 1) ways e
    if next.isLeaf then e else next.extend 0 0 e

end ByteTree

def Extent.addTexts (texts : List (List Nat)) (e : Extent) : Extent :=
  (texts.foldl ByteTree.insert .leaf).extend 0 0 (e.addStates 1)

end Chip8.Pattern
