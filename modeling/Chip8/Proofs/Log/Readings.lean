import Chip8.Log
import Chip8.Proofs.Text.Numerals

/-!
# Log texts read back

The texts that tell of a fetched word come in two layouts, one for a word that is executed and one for a word without
meaning; a third tells of a routine that is passed over. Cut at everything that is neither letter nor digit
(`pieces_append_cons`), each gives back the numbers that it was written for (`read?_executing`, `read?_unknownWord`,
`read?_ignoredRoutine`).
-/

namespace Chip8.Log

/-- What the text of a record tells. -/
inductive Reading
  /-- The word at `pc` was fetched. -/
  | fetched (pc word : UInt16)
  /-- The routine at `address` was passed over. -/
  | passedOver (address pc : UInt16)
deriving DecidableEq, Repr

/-- The pieces of a text between characters that are neither letters nor digits. -/
def pieces (text : List Char) : List (List Char) :=
  text.splitOnP fun c => !c.isAlphanum

def number (digits : List Char) : UInt16 :=
  .ofNat (Numeral.value 16 digits)

/-- What a text of one of three layouts tells: `0xpc: word  instruction`, or `unknown opcode word at 0xpc; skipping`, or
`ignoring machine code routine 0xaddress at 0xpc`. -/
def read? (text : String) : Option Reading :=
  match pieces text.toList with
  | ('0' :: 'x' :: pc) :: [] :: word :: _ => some (.fetched (number pc) (number word))
  | [_, _, word, _, '0' :: 'x' :: pc, [], _] => some (.fetched (number pc) (number word))
  | [_, _, _, _, '0' :: 'x' :: address, _, '0' :: 'x' :: pc] => some (.passedOver (number address) (number pc))
  | _ => none

/-! ## Pieces -/

section Pieces

variable {piece : List Char}

theorem pieces_of_isAlphanum (h : piece.all Char.isAlphanum) : pieces piece = [piece] :=
  List.splitOnP_eq_singleton fun c hc => by rw [List.all_eq_true.1 h c hc]; rfl

theorem pieces_append_cons {separator : Char} (h : piece.all Char.isAlphanum) (hs : separator.isAlphanum = false)
    (rest : List Char) : pieces (piece ++ separator :: rest) = piece :: pieces rest := by
  have hcut : pieces (piece ++ separator :: rest) = pieces piece ++ pieces rest :=
    List.splitOnP_append_cons piece rest (by rw [hs]; rfl)
  rw [hcut, pieces_of_isAlphanum h, List.singleton_append]

end Pieces

theorem number_hex (width : Nat) (n : UInt16) : number (Numeral.hex width n.toNat).toList = n := by
  rw [number, Numeral.value_hex, UInt16.ofNat_toNat]

/-! ## Texts -/

variable (pc word address : UInt16)

theorem pieces_executing (instruction : Instruction Reg) :
    pieces (Record.executing pc word instruction).message.toList =
      (Numeral.address pc.toNat).toList :: [] :: (Numeral.hex 4 word.toNat).toList ::
        pieces (' ' :: instruction.text.toList) :=
  calc pieces (Record.executing pc word instruction).message.toList
      = pieces (Numeral.address pc.toNat ++ ": " ++ Numeral.word word.toNat ++ "  " ++ instruction.text).toList := rfl
    _ = pieces ((Numeral.address pc.toNat).toList ++ ':' :: ([] ++ ' ' :: ((Numeral.hex 4 word.toNat).toList ++
          ' ' :: ' ' :: instruction.text.toList))) := by
      simp [Numeral.word]
    _ = _ := by
      rw [pieces_append_cons (Numeral.all_isAlphanum_address _) rfl, pieces_append_cons rfl rfl,
        pieces_append_cons (Numeral.all_isAlphanum_hex ..) rfl]

theorem read?_executing (instruction : Instruction Reg) :
    read? (Record.executing pc word instruction).message = some (.fetched pc word) := by
  rw [read?, pieces_executing, Numeral.toList_address]
  simp only [number_hex]

theorem pieces_unknownWord :
    pieces (Record.unknownWord pc word).message.toList =
      ["unknown".toList, "opcode".toList, (Numeral.hex 4 word.toNat).toList, "at".toList,
        (Numeral.address pc.toNat).toList, [], "skipping".toList] :=
  calc pieces (Record.unknownWord pc word).message.toList
      = pieces ("unknown opcode " ++ Numeral.word word.toNat ++ " at " ++ Numeral.address pc.toNat
          ++ "; skipping").toList := rfl
    _ = pieces ("unknown".toList ++ ' ' :: ("opcode".toList ++ ' ' :: ((Numeral.hex 4 word.toNat).toList ++
          ' ' :: ("at".toList ++ ' ' :: ((Numeral.address pc.toNat).toList ++ ';' :: ([] ++ ' ' ::
            "skipping".toList)))))) := by
      simp [Numeral.word]
    _ = _ := by
      rw [pieces_append_cons (by decide) rfl, pieces_append_cons (by decide) rfl,
        pieces_append_cons (Numeral.all_isAlphanum_hex ..) rfl, pieces_append_cons (by decide) rfl,
        pieces_append_cons (Numeral.all_isAlphanum_address _) rfl, pieces_append_cons rfl rfl,
        pieces_of_isAlphanum (by decide)]

theorem read?_unknownWord : read? (Record.unknownWord pc word).message = some (.fetched pc word) := by
  rw [read?, pieces_unknownWord, Numeral.toList_address]
  simp [number_hex]

theorem pieces_ignoredRoutine :
    pieces (Record.ignoredRoutine address pc).message.toList =
      ["ignoring".toList, "machine".toList, "code".toList, "routine".toList, (Numeral.address address.toNat).toList,
        "at".toList, (Numeral.address pc.toNat).toList] :=
  calc pieces (Record.ignoredRoutine address pc).message.toList
      = pieces ("ignoring machine code routine " ++ Numeral.address address.toNat ++ " at "
          ++ Numeral.address pc.toNat).toList := rfl
    _ = pieces ("ignoring".toList ++ ' ' :: ("machine".toList ++ ' ' :: ("code".toList ++ ' ' :: ("routine".toList ++
          ' ' :: ((Numeral.address address.toNat).toList ++ ' ' :: ("at".toList ++ ' ' ::
            (Numeral.address pc.toNat).toList)))))) := by
      simp
    _ = _ := by
      rw [pieces_append_cons (by decide) rfl, pieces_append_cons (by decide) rfl, pieces_append_cons (by decide) rfl,
        pieces_append_cons (by decide) rfl, pieces_append_cons (Numeral.all_isAlphanum_address _) rfl,
        pieces_append_cons (by decide) rfl, pieces_of_isAlphanum (Numeral.all_isAlphanum_address _)]

theorem read?_ignoredRoutine :
    read? (Record.ignoredRoutine address pc).message = some (.passedOver address pc) := by
  rw [read?, pieces_ignoredRoutine, Numeral.toList_address, Numeral.toList_address]
  simp [number_hex]

end Chip8.Log
