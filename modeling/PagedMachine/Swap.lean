import PagedMachine.Word
import PagedMachine.Unsigned

/-!
# The swap disk

The disk has a fixed number of slots of one page each. The kernel reserves the lowest free
slot when it evicts a page that has none yet, and releases the slots of a process that ends.
Page transfers are queued as disk operations and carried out one at a time: a save stores a
page in its slot, a load returns the content of a slot or the page's part of the program image.
A save without a usable slot fails with `diskFull`, and the page's content is lost.

The page of an image is found by unsigned 64-bit arithmetic, which wraps: with a page size or
page number near 2^64 the range read is a different one, and when its wrapped end falls before
its start the disk cannot carry the load out at all (`perform?` gives none). The machine's own
page sizes and page numbers are far too small for that.

Main statement: a page saved to a slot loads back unchanged (`perform_load_after_save`).
-/

namespace PagedMachine

/-- Where a page's content comes from when it is loaded. -/
inductive LoadSource where
  /-- A slot written by an earlier eviction. -/
  | slot (n : Nat)
  /-- The program image; the page was never evicted. -/
  | image (words : Array Word)
  deriving Repr

/-- What a disk operation does. -/
inductive DiskOpKind where
  /-- Store a page; `slot` is none when the disk had no room at eviction time. -/
  | save (data : List Word) (slot : Option Nat)
  | load (source : LoadSource)
  deriving Repr

/-- One queued page transfer: the page it moves and the frame it leaves or goes to. -/
structure DiskOperation where
  pid : Nat
  page : Nat
  frame : Nat
  kind : DiskOpKind
  deriving Repr

/-- How a disk operation ended. -/
inductive DiskResult where
  | loaded (data : List Word)
  | saved (slot : Nat)
  /-- The page could not be stored; its content is gone. -/
  | diskFull
  deriving DecidableEq, Repr

/-- A finished disk operation, reported back to the kernel. -/
structure Completion where
  pid : Nat
  page : Nat
  frame : Nat
  result : DiskResult
  deriving DecidableEq, Repr

/-- Counters of the disk. -/
structure DiskStats where
  slots : Nat
  slotsInUse : Nat := 0
  pagesSaved : Nat := 0
  pagesLoaded : Nat := 0
  diskFull : Nat := 0
  deriving DecidableEq, Repr

/-- `slots U/N in use, S pages saved, L pages loaded, F saves failed`. -/
def DiskStats.render (s : DiskStats) : String :=
  s!"slots {s.slotsInUse}/{s.slots} in use, {s.pagesSaved} pages saved, " ++
    s!"{s.pagesLoaded} pages loaded, {s.diskFull} saves failed"

/-- The disk: the content of each slot, which slots are reserved, and its counters. -/
structure SwapDisk where
  pageSize : Nat
  contents : Array (Option (List Word))
  reserved : Array Bool
  stats : DiskStats
  deriving Repr

namespace SwapDisk

/-- An empty disk of `slots` slots for pages of `pageSize` words. -/
def new (slots pageSize : Nat) : SwapDisk :=
  ⟨pageSize, Array.replicate slots none, Array.replicate slots false, { slots }⟩

/-- Reserves the lowest free slot. -/
def reserve (d : SwapDisk) : Option Nat × SwapDisk :=
  match d.reserved.findIdx? (! ·) with
  | some n =>
    (some n, { d with reserved := d.reserved.set! n true,
                      stats := { d.stats with slotsInUse := d.stats.slotsInUse + 1 } })
  | none => (none, d)

/-- Frees a reserved slot and forgets its content; any other slot is left alone. -/
def release (d : SwapDisk) (n : Nat) : SwapDisk :=
  if d.reserved.getD n false then
    { d with reserved := d.reserved.set! n false, contents := d.contents.set! n none,
             stats := { d.stats with slotsInUse := d.stats.slotsInUse - 1 } }
  else d

/-- The page's part of a program image: `pageSize` words from `page * pageSize`, both ends
taken in unsigned 64-bit arithmetic and cut at the end of the image. None when the wrapped end
lies before the start. -/
def imagePage? (pageSize page : Nat) (image : Array Word) : Option (List Word) :=
  let start := min (Unsigned.wrap (page * pageSize)) image.size
  let stop := min (Unsigned.wrap (start + pageSize)) image.size
  if start ≤ stop then some (image.extract start stop).toList else none

/-- Stores a page in a slot that exists; otherwise the save fails. -/
def save (d : SwapDisk) (data : List Word) : Option Nat → DiskResult × SwapDisk
  | some n =>
    if n < d.contents.size then
      (.saved n, { d with contents := d.contents.set! n (some data),
                          stats := { d.stats with pagesSaved := d.stats.pagesSaved + 1 } })
    else (.diskFull, { d with stats := { d.stats with diskFull := d.stats.diskFull + 1 } })
  | none => (.diskFull, { d with stats := { d.stats with diskFull := d.stats.diskFull + 1 } })

/-- Reads a page from a slot (nothing if the slot is empty or missing) or from the image;
none when the image page cannot be cut out. -/
def load (d : SwapDisk) (page : Nat) (source : LoadSource) : Option (List Word × SwapDisk) := do
  let data ← match source with
    | .slot n => some ((d.contents[n]?.bind id).getD [])
    | .image words => imagePage? d.pageSize page words
  pure (data, { d with stats := { d.stats with pagesLoaded := d.stats.pagesLoaded + 1 } })

/-- Carries out one operation; none when it is a load of an image page that cannot be cut out. -/
def perform? (d : SwapDisk) (op : DiskOperation) : Option (Completion × SwapDisk) :=
  match op.kind with
  | .save data slot =>
    let (r, d') := d.save data slot
    some (⟨op.pid, op.page, op.frame, r⟩, d')
  | .load source => do
    let (data, d') ← d.load op.page source
    pure (⟨op.pid, op.page, op.frame, .loaded data⟩, d')

/-- Carries out one operation of the machine. Its image pages always lie inside the image's
address range, so `perform?` succeeds; the empty load otherwise given is never reached. -/
def perform (d : SwapDisk) (op : DiskOperation) : Completion × SwapDisk :=
  (d.perform? op).getD (⟨op.pid, op.page, op.frame, .loaded []⟩, d)

/-- A page saved in a slot inside the disk is loaded back from it as saved. -/
theorem perform_load_after_save (d : SwapDisk) (data : List Word) (n page : Nat)
    (inside : n < d.contents.size) :
    ((d.save data (some n)).2.load page (.slot n)).map Prod.fst = some data := by
  simp [save, load, inside]

end SwapDisk

end PagedMachine
