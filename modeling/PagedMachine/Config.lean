import PagedMachine.Unsigned

/-!
# Machine configuration

The size of physical memory and of a page, the length of a time slice, the number of swap
slots and whether ready processes are dispatched without being asked. A configuration is
usable when a page holds at least one word, memory holds a whole positive number of pages,
a slice lasts at least one instruction and the swap disk has a slot. The checks run in that
order and the first that fails is reported. A kernel also needs its memory, its frames and its
swap slots to fit in vectors (`Config.allocatable`).

Main statement: `validate` accepts exactly the configurations that satisfy `Config.Valid`.
-/

namespace PagedMachine

/-- Registers of the processor. -/
def registerCount : Nat := 10

/-- The register that selects a system call. -/
def syscallRegister : Nat := 8

/-- The register that carries a system call's address. -/
def syscallArgRegister : Nat := 9

/-- Largest value an arithmetic result may have. -/
def wordMax : Int := 32767

/-- Smallest value an arithmetic result may have. -/
def wordMin : Int := -32767

/-- Transitions the state log keeps. -/
def historyLimit : Nat := 4096

/-- Everything a kernel needs to know about the machine it runs on. -/
structure Config where
  memoryWords : Nat := 1024
  pageSize : Nat := 8
  timeSlice : Nat := 5
  swapSlots : Nat := 128
  autoSchedule : Bool := false
  deriving DecidableEq, Repr, Inhabited

/-- Why a configuration cannot be used. -/
inductive ConfigError where
  | zeroPageSize
  | memoryTooSmall (memory page : Nat)
  | unalignedMemory (memory page : Nat)
  | zeroTimeSlice
  | zeroSwapSlots
  deriving DecidableEq, Repr

namespace ConfigError

/-- The name of the kind of error. -/
def kind : ConfigError → String
  | zeroPageSize => "ZeroPageSize"
  | memoryTooSmall .. => "MemoryTooSmall"
  | unalignedMemory .. => "UnalignedMemory"
  | zeroTimeSlice => "ZeroTimeSlice"
  | zeroSwapSlots => "ZeroSwapSlots"

/-- The sentence that explains the error. -/
def message : ConfigError → String
  | zeroPageSize => "page size must be greater than 0"
  | memoryTooSmall m p =>
    s!"memory of {m} words can not hold a single page of {p} words"
  | unalignedMemory m p =>
    s!"memory of {m} words is not a multiple of the page size {p}"
  | zeroTimeSlice => "time slice must be at least one instruction"
  | zeroSwapSlots => "swap disk needs at least one slot"

end ConfigError

namespace Config

/-- Physical frames: the pages that fit in memory. -/
def frameCount (c : Config) : Nat := c.memoryWords / c.pageSize

/-- The first failed check, in the order page, memory size, alignment, slice, swap. -/
def validate (c : Config) : Except ConfigError Unit :=
  if c.pageSize = 0 then .error .zeroPageSize
  else if c.memoryWords < c.pageSize then .error (.memoryTooSmall c.memoryWords c.pageSize)
  else if c.memoryWords % c.pageSize ≠ 0 then .error (.unalignedMemory c.memoryWords c.pageSize)
  else if c.timeSlice = 0 then .error .zeroTimeSlice
  else if c.swapSlots = 0 then .error .zeroSwapSlots
  else .ok ()

/-- A usable configuration. -/
structure Valid (c : Config) : Prop where
  page_pos : 0 < c.pageSize
  page_le : c.pageSize ≤ c.memoryWords
  aligned : c.memoryWords % c.pageSize = 0
  slice_pos : 0 < c.timeSlice
  swap_pos : 0 < c.swapSlots

/-- The check accepts exactly the usable configurations. -/
theorem validate_eq_ok_iff (c : Config) : c.validate = .ok () ↔ c.Valid := by
  unfold validate
  constructor
  · intro h
    split at h
    · cases h
    split at h
    · cases h
    split at h
    · cases h
    split at h
    · cases h
    split at h
    · cases h
    exact ⟨by omega, by omega, by omega, by omega, by omega⟩
  · intro ⟨h1, h2, h3, h4, h5⟩
    simp [Nat.pos_iff_ne_zero.mp h1, Nat.not_lt.mpr h2, h3, Nat.pos_iff_ne_zero.mp h4,
      Nat.pos_iff_ne_zero.mp h5]

/-- Whether the vectors a kernel for the configuration allocates fit: 24 bytes for each swap
slot (a page or nothing), 24 bytes for each word of memory and 32 bytes for each frame's record
(its owner and its lock). -/
def allocatable (c : Config) : Bool :=
  Unsigned.fitsVector 24 c.swapSlots && Unsigned.fitsVector 24 c.memoryWords &&
    Unsigned.fitsVector 32 c.frameCount

/-- In a valid configuration whose vectors fit, a page has far fewer than 2^64 words. -/
theorem pageSize_le_of_allocatable {c : Config} (valid : c.Valid) (fits : c.allocatable = true) :
    24 * c.pageSize ≤ Unsigned.allocationLimit := by
  simp only [allocatable, Unsigned.fitsVector, Bool.and_eq_true, decide_eq_true_eq] at fits
  have within := valid.page_le
  omega

end Config

end PagedMachine
