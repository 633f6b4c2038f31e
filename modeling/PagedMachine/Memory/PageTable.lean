import PagedMachine.Text.Align

/-!
# Page tables

A process has one entry per logical page. An entry records the frame holding the page while
it is present, whether it was written since it arrived, whether a load for it is in flight,
the swap slot that keeps its content once it has been evicted, and the logical time of its
last access. A page that was never evicted has no slot and comes from the program image.

Presence is having a frame: the two cannot disagree, since an entry keeps a frame only while
the page is present.

Main statement: a page that arrives is present, clean and no longer loading
(`setPresent_frame`, `setPresent_flags`).
-/

namespace PagedMachine

/-- One logical page of a process. -/
structure PageEntry where
  frame : Option Nat := none
  modified : Bool := false
  loading : Bool := false
  slot : Option Nat := none
  lastAccess : Nat := 0
  deriving DecidableEq, Repr, Inhabited

namespace PageEntry

/-- Whether the page is in memory. -/
def isPresent (e : PageEntry) : Bool := e.frame.isSome

/-- The page arrived in frame `f` at time `now`: present, clean and no longer loading. -/
def setPresent (e : PageEntry) (f now : Nat) : PageEntry :=
  { e with frame := some f, modified := false, loading := false, lastAccess := now }

/-- The page lost its frame; whether a load is in flight is kept. -/
def setAbsent (e : PageEntry) : PageEntry :=
  { e with frame := none, modified := false }

/-- A load for the page is in flight. -/
def setLoading (e : PageEntry) : PageEntry := { e with loading := true }

/-- Records where the page is kept on the swap disk. -/
def setSlot (e : PageEntry) (slot : Option Nat) : PageEntry := { e with slot }

/-- Records an access at time `now`; a write marks the page modified. -/
def touch (e : PageEntry) (now : Nat) (write : Bool) : PageEntry :=
  { e with lastAccess := now, modified := e.modified || write }

/-- A page made present is in the frame given. -/
@[simp] theorem setPresent_frame (e : PageEntry) (f now : Nat) :
    (e.setPresent f now).frame = some f := rfl

/-- A page made present is neither modified nor loading. -/
@[simp] theorem setPresent_flags (e : PageEntry) (f now : Nat) :
    (e.setPresent f now).modified = false ∧ (e.setPresent f now).loading = false := ⟨rfl, rfl⟩

/-- A page made absent has no frame. -/
@[simp] theorem setAbsent_frame (e : PageEntry) : e.setAbsent.frame = none := rfl

end PageEntry

/-- The entries of a process, one per logical page. -/
structure PageTable where
  entries : Array PageEntry
  deriving DecidableEq, Repr, Inhabited

namespace PageTable

/-- A table of `pages` entries, none of them loaded. -/
def new (pages : Nat) : PageTable := ⟨Array.replicate pages {}⟩

/-- Number of pages. -/
def size (t : PageTable) : Nat := t.entries.size

/-- The entry of page `vpn`, if the process has that page. -/
def get? (t : PageTable) (vpn : Nat) : Option PageEntry := t.entries[vpn]?

/-- Changes the entry of page `vpn`; a page the process lacks is ignored. -/
def modify (t : PageTable) (vpn : Nat) (f : PageEntry → PageEntry) : PageTable :=
  ⟨t.entries.modify vpn f⟩

/-- Number of pages in memory. -/
def presentPages (t : PageTable) : Nat := t.entries.countP PageEntry.isPresent

/-- The swap slots the pages are kept in, by page. -/
def slots (t : PageTable) : List Nat := t.entries.toList.filterMap PageEntry.slot

/-- Pages with their entries, in order. -/
def pages (t : PageTable) : List (Nat × PageEntry) :=
  t.entries.toList.zipIdx.map fun (e, i) => (i, e)

/-- `[page,frame,place]` per page inside braces, separated by commas. The frame is `-` for an
absent page; the place is `mp` in memory, `ms` on the swap disk, `--` never loaded. -/
def render (t : PageTable) : String :=
  let cell := fun ((i, e) : Nat × PageEntry) =>
    let place := if e.isPresent then "mp" else if e.slot.isSome then "ms" else "--"
    let frame := match e.frame with
      | some f => toString f
      | none => "-"
    "[" ++ toString i ++ "," ++ frame ++ "," ++ place ++ "]"
  "\x7b" ++ Text.joinWith "," (t.pages.map cell) ++ "\x7d"

/-- Changing one entry changes the lookup of its page alone. -/
@[simp] theorem get?_modify (t : PageTable) (vpn q : Nat) (f : PageEntry → PageEntry) :
    (t.modify vpn f).get? q = if vpn = q then (t.get? q).map f else t.get? q := by
  simp only [get?, modify, Array.getElem?_modify]

end PageTable

end PagedMachine
