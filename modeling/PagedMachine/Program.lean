import PagedMachine.Word
import PagedMachine.Config
import PagedMachine.Unsigned

/-!
# Built-in programs

There is no file system: every program a process can run is built in and found by name. A
program is an image of words that starts at logical address 0. The words a process needs are
the image, extended so that every address the code names directly lies inside it.

The registry lists the programs by name in increasing order.
-/

namespace PagedMachine

/-- A named program image. -/
structure Program where
  name : String
  image : Array Word
  deriving Repr

namespace Program

/-- The words a process of this program needs: the image, and every direct address one past
its end. -/
def requiredWords (p : Program) : Nat :=
  p.image.foldl (fun acc w =>
    if w.opcode.addressesMemory ∧ 0 ≤ w.p.toInt then max acc (w.p.toInt.toNat + 1) else acc)
    p.image.size

/-- Pages of `pageSize` words for `words` words: `words + pageSize - 1`, taken in unsigned
64-bit arithmetic, divided by the page size. The sum wraps when the page size is close to
2^64, and then a program gets fewer pages than it needs, possibly none; no configuration a
kernel is created from has pages that large. -/
def pageCount (pageSize words : Nat) : Nat :=
  Unsigned.wrap (words + pageSize - 1) / pageSize

/-- `pageCount`, or none for pages of no words, by which nothing can be divided. -/
def pagesFor (pageSize words : Nat) : Option Nat :=
  if pageSize = 0 then none else some (pageCount pageSize words)

/-- The instruction word `op ra rb p`. -/
private def instr (op : Opcode) (ra rb : Nat) (p : Int32) : Word := ⟨op, ra, rb, p⟩

/-- `code` followed by `DATA 0` up to `len` words. -/
private def padded (code : List Word) (len : Nat) : List Word :=
  code ++ List.replicate (len - code.length) (Word.data 0)

/-- Stores 999 into addresses 8 to 12. -/
def minimal : Program :=
  ⟨"minimal", #[instr .ldi 0 0 999, instr .std 0 0 8, instr .std 0 0 9, instr .std 0 0 10,
    instr .std 0 0 11, instr .std 0 0 12, instr .stop 0 0 0]⟩

/-- 6! into address 10. -/
def factorial : Program :=
  ⟨"factorial", #[instr .ldi 0 0 6, instr .ldi 1 0 1, instr .mult 1 0 0, instr .subi 0 0 1,
    instr .jmpigk 0 0 2, instr .std 1 0 10, instr .stop 0 0 0]⟩

/-- The first ten Fibonacci numbers into addresses 20 to 29. -/
def fibonacci10 : Program :=
  ⟨"fibonacci10", (padded [instr .ldi 1 0 0, instr .std 1 0 20, instr .ldi 2 0 1, instr .std 2 0 21,
    instr .ldi 0 0 22, instr .ldi 3 0 8, instr .move 4 1 0, instr .add 4 2 0, instr .stx 0 4 0,
    instr .move 1 2 0, instr .move 2 4 0, instr .addi 0 0 1, instr .subi 3 0 1, instr .jmpigk 0 3 6,
    instr .stop 0 0 0] 30).toArray⟩

/-- The passes of a bubble sort of the six values at addresses 40 to 45. -/
private def sortLoop : List Word :=
  [instr .ldi 0 0 5, instr .ldi 1 0 40, instr .move 2 0 0, instr .ldx 3 1 0, instr .move 6 1 0,
    instr .addi 6 0 1, instr .ldx 4 6 0, instr .move 5 3 0, instr .sub 5 4 0, instr .jmpilk 0 5 12,
    instr .stx 1 4 0, instr .stx 6 3 0, instr .addi 1 0 1, instr .subi 2 0 1, instr .jmpigk 0 2 3,
    instr .subi 0 0 1, instr .jmpigk 0 0 1]

/-- The values to sort. -/
private def sortData : List Word := [5, 3, 8, 1, 9, 2].map Word.data

/-- Sorts the six values at addresses 40 to 45. -/
def bubbleSort : Program :=
  ⟨"bubble_sort", (padded (sortLoop ++ [instr .stop 0 0 0]) 40 ++ sortData).toArray⟩

/-- The same sort, then every sorted value out to the console. -/
def sortAndPrint : Program :=
  ⟨"sort_and_print", (padded (sortLoop ++
    [instr .ldi 8 0 2, instr .ldi 9 0 40, instr .ldi 0 0 6, instr .syscall 0 0 0, instr .addi 9 0 1,
      instr .subi 0 0 1, instr .jmpigk 0 0 20, instr .stop 0 0 0]) 40 ++ sortData).toArray⟩

/-- Reads a value from the console into address 10 and writes it back out. -/
def echo : Program :=
  ⟨"echo", (padded [instr .ldi 8 0 1, instr .ldi 9 0 10, instr .syscall 0 0 0, instr .ldi 8 0 2,
    instr .syscall 0 0 0, instr .stop 0 0 0] 11).toArray⟩

/-- Adds one to the largest value. -/
def overflow : Program :=
  ⟨"overflow", #[instr .ldi 0 0 32767, instr .addi 0 0 1, instr .stop 0 0 0]⟩

/-- Loads from an address far outside the process. -/
def invalidAccess : Program :=
  ⟨"invalid_access", #[instr .ldi 0 0 500, instr .ldx 1 0 0, instr .stop 0 0 0]⟩

/-- Every built-in program, by name in increasing order. -/
def registry : List Program :=
  [bubbleSort, echo, factorial, fibonacci10, invalidAccess, minimal, overflow, sortAndPrint]

/-- The built-in program called `name`. -/
def find? (name : String) : Option Program := registry.find? (·.name == name)

/-- The names of the built-in programs, in increasing order. -/
def names : List String := registry.map (·.name)

example : minimal.requiredWords = 13 := by decide
example : factorial.requiredWords = 11 := by decide

end Program

end PagedMachine
