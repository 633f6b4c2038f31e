import PagedMachine.Word
import PagedMachine.Text.Align

/-!
# Physical memory

A flat array of words, cut into frames of one page each; frame `f` covers the addresses
`f * pageSize` up to but not including `(f + 1) * pageSize`. Every cell starts empty. Filling a
frame copies a page of data into it and pads the rest with `DATA 0`; a frame that does not lie
wholly inside memory cannot be filled or copied out.

Main statement: writing a cell changes that cell alone (`read?_write`).
-/

namespace PagedMachine

/-- Physical memory: its words and the size of a frame. -/
structure PhysicalMemory where
  words : Array Word
  pageSize : Nat
  deriving Repr

/-- A copied range of physical memory and the address of its first word. -/
structure MemoryDump where
  start : Nat
  words : List Word
  deriving Repr

namespace PhysicalMemory

/-- Memory of `size` empty cells with frames of `pageSize` words. -/
def new (size pageSize : Nat) : PhysicalMemory :=
  ⟨Array.replicate size Word.empty, pageSize⟩

/-- Number of cells. -/
def size (m : PhysicalMemory) : Nat := m.words.size

/-- The word at a physical address inside memory. -/
def read? (m : PhysicalMemory) (pa : Nat) : Option Word := m.words[pa]?

/-- The word at a physical address; the empty word outside memory. -/
def read (m : PhysicalMemory) (pa : Nat) : Word := m.words.getD pa Word.empty

/-- Stores a word; an address outside memory changes nothing. -/
def write (m : PhysicalMemory) (pa : Nat) (w : Word) : PhysicalMemory :=
  { m with words := m.words.setIfInBounds pa w }

/-- Stores a word at an address inside memory. -/
def write? (m : PhysicalMemory) (pa : Nat) (w : Word) : Option PhysicalMemory :=
  if pa < m.size then some (m.write pa w) else none

/-- Whether frame `f` lies wholly inside memory. -/
def holdsFrame (m : PhysicalMemory) (f : Nat) : Bool :=
  (f + 1) * m.pageSize ≤ m.size

/-- The words of frame `f`, if it lies inside memory. -/
def frame? (m : PhysicalMemory) (f : Nat) : Option (List Word) :=
  if m.holdsFrame f then
    some ((List.range m.pageSize).map fun i => m.read (f * m.pageSize + i))
  else none

/-- The words of frame `f`; cells outside memory read as empty. -/
def frame (m : PhysicalMemory) (f : Nat) : List Word :=
  (List.range m.pageSize).map fun i => m.read (f * m.pageSize + i)

/-- Copies `data` into frame `f`, padding with `DATA 0`; words of `data` past one page are
ignored. -/
def fillFrame (m : PhysicalMemory) (f : Nat) (data : List Word) : PhysicalMemory :=
  let ps := m.pageSize
  (List.range ps).foldl (fun acc i => acc.write (f * ps + i) (data.getD i (Word.data 0))) m

/-- Fills frame `f`, if it lies inside memory. -/
def fillFrame? (m : PhysicalMemory) (f : Nat) (data : List Word) : Option PhysicalMemory :=
  if m.holdsFrame f then some (m.fillFrame f data) else none

/-- The cells from `start` up to `stop`, both clamped to memory: the end first to the size,
then the start to the end. -/
def dump (m : PhysicalMemory) (start stop : Nat) : MemoryDump :=
  let stop := min stop m.size
  let start := min start stop
  ⟨start, (m.words.extract start stop).toList⟩

/-- Writing a cell inside memory changes the checked read of that cell alone. -/
theorem read?_write (m : PhysicalMemory) (pa q : Nat) (w : Word) :
    (m.write pa w).read? q = if pa = q ∧ q < m.size then some w else m.read? q := by
  simp only [read?, write, size, Array.getElem?_setIfInBounds]
  by_cases h : pa = q
  · subst h; by_cases hq : pa < m.words.size <;> simp [hq]
  · simp [h]

/-- Writing a word keeps the size of memory. -/
@[simp] theorem size_write (m : PhysicalMemory) (pa : Nat) (w : Word) :
    (m.write pa w).size = m.size := by
  simp [write, size]

end PhysicalMemory

/-- One line per word: the address right-aligned in five columns, a colon, two spaces and
the word. -/
def MemoryDump.render (d : MemoryDump) : String :=
  String.join <| (d.words.zipIdx d.start).map fun (w, i) =>
    Text.alignRight 5 (toString i) ++ ":  " ++ w.render ++ "\n"

end PagedMachine
