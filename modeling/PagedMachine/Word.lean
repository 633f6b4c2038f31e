/-!
# Memory words

A memory cell holds one word: an opcode, two register operands and a signed 32-bit parameter.
Code and data share this form. A data word has opcode `data` and keeps its value in the
parameter; a cell that was never written holds the empty word, opcode `empty` with parameter
-1. Register operands are unbounded counts; the processor refuses those that name no register.

Main statement: every opcode is found again from its mnemonic (`ofMnemonic?_mnemonic`).
-/

namespace PagedMachine

/-- The operation a word encodes. `data` and `empty` mark cells that are not code. -/
inductive Opcode where
  | data | empty
  | jmp | jmpi | jmpig | jmpil | jmpie | jmpim | jmpigm | jmpilm | jmpiem
  | jmpigk | jmpilk | jmpiek | jmpigt
  | addi | subi | add | sub | mult
  | ldi | ldd | std | ldx | stx | move
  | syscall | stop
  deriving DecidableEq, Repr, Inhabited

namespace Opcode

/-- Every opcode, in declaration order. -/
def all : List Opcode :=
  [data, empty, jmp, jmpi, jmpig, jmpil, jmpie, jmpim, jmpigm, jmpilm, jmpiem, jmpigk, jmpilk,
    jmpiek, jmpigt, addi, subi, add, sub, mult, ldi, ldd, std, ldx, stx, move, syscall, stop]

/-- The printed name of an opcode. -/
def mnemonic : Opcode → String
  | data => "DATA" | empty => "___"
  | jmp => "JMP" | jmpi => "JMPI" | jmpig => "JMPIG" | jmpil => "JMPIL" | jmpie => "JMPIE"
  | jmpim => "JMPIM" | jmpigm => "JMPIGM" | jmpilm => "JMPILM" | jmpiem => "JMPIEM"
  | jmpigk => "JMPIGK" | jmpilk => "JMPILK" | jmpiek => "JMPIEK" | jmpigt => "JMPIGT"
  | addi => "ADDI" | subi => "SUBI" | add => "ADD" | sub => "SUB" | mult => "MULT"
  | ldi => "LDI" | ldd => "LDD" | std => "STD" | ldx => "LDX" | stx => "STX" | move => "MOVE"
  | syscall => "SYSCALL" | stop => "STOP"

/-- The opcode printed as `name`, if any. -/
def ofMnemonic? (name : String) : Option Opcode :=
  all.find? (fun op => op.mnemonic == name)

/-- Opcodes whose parameter is a logical address used directly: a load or store address or a
jump target. -/
def addressesMemory : Opcode → Bool
  | ldd | std | jmp | jmpim | jmpigm | jmpilm | jmpiem | jmpigk | jmpilk | jmpiek | jmpigt => true
  | _ => false

/-- Every opcode is read back from its mnemonic. -/
theorem ofMnemonic?_mnemonic (op : Opcode) : ofMnemonic? op.mnemonic = some op := by
  cases op <;> rfl

end Opcode

/-- One memory cell. -/
structure Word where
  opcode : Opcode
  ra : Nat
  rb : Nat
  p : Int32
  deriving DecidableEq, Repr, Inhabited

namespace Word

/-- What a cell holds before anything is written to it. -/
def empty : Word := ⟨.empty, 0, 0, -1⟩

/-- A data word holding `v`. -/
def data (v : Int32) : Word := ⟨.data, 0, 0, v⟩

/-- The text of a signed 32-bit value. -/
def valueText (v : Int32) : String := toString v.toInt

/-- `[ DATA, p ]` for data, `[ ___ ]` for the empty cell, `[ MNEMONIC, ra, rb, p ]` else. -/
def render (w : Word) : String :=
  match w.opcode with
  | .data => "[ DATA, " ++ valueText w.p ++ " ]"
  | .empty => "[ ___ ]"
  | op => "[ " ++ op.mnemonic ++ ", " ++ toString w.ra ++ ", " ++ toString w.rb ++ ", " ++
      valueText w.p ++ " ]"

/-- Whether the word is exactly the never-written cell. -/
def isEmptyDefault (w : Word) : Bool := w == empty

/-- Whether the word is a `STOP` instruction. -/
def isStop (w : Word) : Bool := w.opcode == .stop

example : (data (-300)).render = "[ DATA, -300 ]" := by decide
example : empty.render = "[ ___ ]" := by decide

end Word

end PagedMachine
