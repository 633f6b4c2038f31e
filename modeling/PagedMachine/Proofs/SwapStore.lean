import PagedMachine.Proofs.SaveOrder
import PagedMachine.Proofs.FaultHandling

/-!
# The swap store

The swap disk is driven by three kinds of call: the kernel reserves a slot for a page it evicts
and releases the slots of a process that ends, and the disk carries out page transfers
(`DiskCall`). Along every run of calls from an empty disk the disk keeps its `n` slots and its
page size and counts its reserved slots (`SwapDisk.Sized`).

A slot holds what the last call that changed it left there. Only two calls change a slot: a save
into it, and a release of it while it is reserved (`DiskCall.Rewrites`); a release of a free slot
changes nothing. Any run of other calls leaves what the slot holds alone
(`SwapDisk.fetch_run_of_untouched`), so a load from a slot brings the data of its last save since
its last release, or no words.

A load from the image cuts the page at the image's end, and a frame filled with the cut page and
padded with `DATA 0` holds the page of the image padded to a whole page (`pagePadded`), which is
what a new process's first page is given.

Main statement: `SwapDisk.swap_store_round_trip`.
-/

namespace PagedMachine

/-- What the swap disk is asked to do: reserve a slot, release one, or carry out a page
transfer. -/
inductive DiskCall where
  | reserve
  | release (slot : Nat)
  | perform (op : DiskOperation)

/-- Page `p` of an image as a frame of `ps` words holds it: the image's words from `p * ps` on,
`DATA 0` past the image's end. -/
def pagePadded (ps p : Nat) (image : Array Word) : List Word :=
  (List.range ps).map fun i => image.getD (p * ps + i) (.data 0)

namespace SwapDisk

/-- The disk after one call. -/
def exec (d : SwapDisk) : DiskCall → SwapDisk
  | .reserve => d.reserve.2
  | .release n => d.release n
  | .perform op => (d.perform op).2

/-- The disk after a run of calls, in order. -/
def run (d : SwapDisk) : List DiskCall → SwapDisk
  | [] => d
  | c :: rest => (d.exec c).run rest

/-- Running two lists of disk calls runs the first, then the second. -/
theorem run_append (d : SwapDisk) (pre post : List DiskCall) :
    d.run (pre ++ post) = (d.run pre).run post := by
  induction pre generalizing d with
  | nil => rfl
  | cons c rest ih => exact ih (d.exec c)

end SwapDisk

/-- Whether a call, made to the disk `d`, changes what slot `n` holds: a save into `n`, or a
release of `n` while it is reserved. -/
def DiskCall.Rewrites (n : Nat) (d : SwapDisk) : DiskCall → Prop
  | .reserve => False
  | .release m => m = n ∧ d.reserved.getD n false = true
  | .perform op => ∃ data, op.kind = .save data (some n)

namespace SwapDisk

/-- No call of a run, made to the disk as the run has left it, changes what slot `n` holds. -/
def Untouched (n : Nat) : SwapDisk → List DiskCall → Prop
  | _, [] => True
  | d, c :: rest => ¬c.Rewrites n d ∧ Untouched n (d.exec c) rest

variable {d : SwapDisk}

/-! ### What one call does to the slots -/

/-- Reserving a slot leaves the slot contents. -/
theorem contents_reserve : d.reserve.2.contents = d.contents := by
  unfold reserve
  split <;> rfl

/-- Releasing a reserved slot empties it; releasing any other slot changes nothing. -/
theorem contents_release (m : Nat) :
    (d.release m).contents =
      if d.reserved.getD m false then d.contents.set! m none else d.contents := by
  unfold release
  split <;> rfl

/-- A save into a slot that exists stores the page there and reports it saved. -/
theorem perform_save_of_lt (pid page frame : Nat) (data : List Word) {n : Nat}
    (inside : n < d.contents.size) :
    (d.perform ⟨pid, page, frame, .save data (some n)⟩).1.result = .saved n ∧
      (d.perform ⟨pid, page, frame, .save data (some n)⟩).2.contents =
        d.contents.set! n (some data) := by
  simp [perform, perform?, save, inside]

/-- A save with no slot, or into a slot past the end, fails and stores nothing. -/
theorem perform_save_full (pid page frame : Nat) (data : List Word) {slot : Option Nat}
    (outside : ∀ n, slot = some n → d.contents.size ≤ n) :
    (d.perform ⟨pid, page, frame, .save data slot⟩).1.result = .diskFull ∧
      (d.perform ⟨pid, page, frame, .save data slot⟩).2.contents = d.contents := by
  cases slot with
  | none => simp [perform, perform?, save]
  | some n =>
    have past := outside n rfl
    simp [perform, perform?, save, Nat.not_lt.2 past]

/-- A slot just set inside the disk gives what was set. -/
theorem fetch_set!_same (n page : Nat) (v : Option (List Word)) (inside : n < d.contents.size) :
    ({ d with contents := d.contents.set! n v } : SwapDisk).fetch page (.slot n) = v.getD [] := by
  simp [fetch, Array.set!_eq_setIfInBounds, inside]

/-- Setting one slot leaves every other slot. -/
theorem fetch_set!_other {m n : Nat} (page : Nat) (v : Option (List Word)) (other : m ≠ n) :
    ({ d with contents := d.contents.set! m v } : SwapDisk).fetch page (.slot n) =
      d.fetch page (.slot n) := by
  simp [fetch, Array.set!_eq_setIfInBounds, other]

/-- A call that does not rewrite slot `n` leaves what it holds alone. -/
theorem fetch_exec (c : DiskCall) {n : Nat} (page : Nat) (keeps : ¬c.Rewrites n d) :
    (d.exec c).fetch page (.slot n) = d.fetch page (.slot n) := by
  cases c with
  | reserve => simp [exec, fetch, contents_reserve]
  | release m =>
    by_cases same : m = n
    · -- a release of `n` that rewrites nothing found it free
      subst same
      have free : d.reserved.getD m false = false := by
        simpa [DiskCall.Rewrites] using keeps
      simp [exec, release, free]
    · have kept : (d.exec (.release m)).fetch page (.slot n) = d.fetch page (.slot n) := by
        simp only [exec, fetch, contents_release]
        split
        · simp [Array.set!_eq_setIfInBounds, same]
        · rfl
      exact kept
  | perform op =>
    rcases op with ⟨pid, frame, q, kind⟩
    cases kind with
    | load src => simp [exec, fetch, (@perform_load d ⟨pid, frame, q, .load src⟩ src rfl).2.1]
    | save data slot =>
      by_cases stored : ∃ m, slot = some m ∧ m < d.contents.size
      · obtain ⟨m, rfl, inside⟩ := stored
        have other : m ≠ n := by
          rintro rfl
          exact keeps ⟨data, rfl⟩
        have done := (perform_save_of_lt pid frame q data (d := d) inside).2
        simp only [exec, fetch] at done ⊢
        rw [done]
        exact fetch_set!_other page _ other
      · have outside : ∀ m, slot = some m → d.contents.size ≤ m := by
          intro m named
          by_contra inside
          exact stored ⟨m, named, Nat.lt_of_not_le inside⟩
        simp [exec, fetch, (perform_save_full pid frame q data outside).2]

/-- A run that rewrites slot `n` nowhere leaves what it holds alone. -/
theorem fetch_run_of_untouched {n : Nat} (page : Nat) :
    ∀ {d : SwapDisk} {calls : List DiskCall}, Untouched n d calls →
      (d.run calls).fetch page (.slot n) = d.fetch page (.slot n)
  | _, [], _ => rfl
  | d, c :: rest, ⟨keeps, untouched⟩ => by
    rw [run, fetch_run_of_untouched page untouched, fetch_exec c page keeps]

/-- After a save into a slot that exists, the slot holds the page saved. -/
theorem fetch_exec_save (pid page frame p : Nat) (data : List Word) {n : Nat}
    (inside : n < d.contents.size) :
    (d.exec (.perform ⟨pid, page, frame, .save data (some n)⟩)).fetch p (.slot n) = data := by
  have done := (perform_save_of_lt pid page frame data (d := d) inside).2
  simp only [exec, fetch] at done ⊢
  rw [done]
  exact fetch_set!_same n p (some data) inside

/-- After a release of a reserved slot, the slot holds nothing. -/
theorem fetch_exec_release {n : Nat} (p : Nat) (held : d.reserved.getD n false = true)
    (sizes : d.contents.size = d.reserved.size) :
    (d.exec (.release n)).fetch p (.slot n) = [] := by
  have inside := lt_size_of_reserved held
  simp only [exec, fetch, contents_release, held, if_true]
  exact fetch_set!_same n p none (by omega)

/-! ### The shape of the disk along a run -/

/-- A disk of `n` slots for pages of `ps` words that counts its reserved slots. -/
structure Sized (d : SwapDisk) (n ps : Nat) : Prop where
  slots : d.reserved.size = n
  pageSize : d.pageSize = ps
  counted : d.Counted

/-- A new disk has its slots, its page size and nothing reserved. -/
theorem sized_new (n ps : Nat) : (new n ps).Sized n ps :=
  ⟨by simp [new], rfl, ⟨by simp [new], by simp [new, Array.count_replicate]⟩⟩

/-- Reserving a slot keeps the number of slots. -/
theorem reserved_size_reserve : d.reserve.2.reserved.size = d.reserved.size := by
  unfold reserve
  split <;> simp

/-- Releasing a slot keeps the number of slots. -/
theorem reserved_size_release (m : Nat) : (d.release m).reserved.size = d.reserved.size := by
  unfold release
  split <;> simp

variable {n ps : Nat}

/-- Every disk call keeps the number of slots, the page size and the count of reservations. -/
theorem Sized.exec (sized : d.Sized n ps) (c : DiskCall) : (d.exec c).Sized n ps := by
  cases c with
  | reserve =>
    exact ⟨reserved_size_reserve.trans sized.slots, pageSize_reserve.trans sized.pageSize,
      sized.counted.reserve⟩
  | release m =>
    exact ⟨(reserved_size_release m).trans sized.slots, (pageSize_release m).trans sized.pageSize,
      sized.counted.release m⟩
  | perform op =>
    exact ⟨(congrArg Array.size (perform_reserved op).1).trans sized.slots,
      (pageSize_perform op).trans sized.pageSize, sized.counted.perform op⟩

/-- Every run of disk calls keeps the number of slots, the page size and the count of reservations.
-/
theorem Sized.run : ∀ {d : SwapDisk}, d.Sized n ps → ∀ calls, (d.run calls).Sized n ps
  | _, sized, [] => sized
  | _, sized, c :: rest => Sized.run (sized.exec c) rest

/-! ### Reservations -/

/-- Reservation hands out the lowest free slot. -/
theorem reserve_eq_some_iff (s : Nat) :
    d.reserve.1 = some s ↔
      s < d.reserved.size ∧ d.reserved.getD s false = false ∧
        ∀ r < s, d.reserved.getD r false = true := by
  have first : d.reserve.1 = d.reserved.findIdx? (! ·) := by
    unfold reserve
    cases d.reserved.findIdx? (! ·) <;> rfl
  rw [first, Array.findIdx?_eq_some_iff_getElem]
  constructor
  · rintro ⟨inside, free, below⟩
    refine ⟨inside, by simpa [Array.getD_eq_getD_getElem?, inside] using free, fun r lower => ?_⟩
    have taken := below r lower
    simpa [Array.getD_eq_getD_getElem?, show r < d.reserved.size by omega] using taken
  · rintro ⟨inside, free, below⟩
    refine ⟨inside, by simpa [Array.getD_eq_getD_getElem?, inside] using free, fun r lower => ?_⟩
    have taken := below r lower
    simpa [Array.getD_eq_getD_getElem?, show r < d.reserved.size by omega] using taken

/-- Reservation finds nothing exactly when every slot is reserved. -/
theorem reserve_eq_none_iff :
    d.reserve.1 = none ↔ ∀ s < d.reserved.size, d.reserved.getD s false = true := by
  refine ⟨reserve_none_full, fun full => ?_⟩
  cases found : d.reserve.1 with
  | none => rfl
  | some s =>
    obtain ⟨inside, free, -⟩ := (reserve_eq_some_iff s).1 found
    rw [full s inside] at free
    cases free

/-- Releasing a free slot changes nothing. -/
theorem release_of_free {s : Nat} (free : d.reserved.getD s false = false) : d.release s = d := by
  simp [release, free]

end SwapDisk

namespace PhysicalMemory

variable {m : PhysicalMemory}

/-- A frame that lies inside memory holds the data it was filled with, padded with `DATA 0`. -/
theorem frame_fillFrame {f : Nat} (holds : m.holdsFrame f = true) (data : List Word) :
    (m.fillFrame f data).frame f = (List.range m.pageSize).map fun i => data.getD i (.data 0) := by
  have room : (f + 1) * m.pageSize ≤ m.size := by simpa [holdsFrame] using holds
  unfold frame
  rw [pageSize_fillFrame]
  apply List.map_congr_left
  intro i mem
  have short := List.mem_range.1 mem
  have inside : f * m.pageSize + i < m.size := by
    rw [Nat.succ_mul] at room
    omega
  exact read_fillFrame_same m short inside data

end PhysicalMemory

/-- The page of an image cut as the disk cuts it fills a frame as the page padded to a whole
frame. -/
theorem frame_fillFrame_page {m : PhysicalMemory} {f : Nat} (holds : m.holdsFrame f = true)
    (p : Nat) (image : Array Word) :
    (m.fillFrame f (image.extract (min (p * m.pageSize) image.size)
        (min (p * m.pageSize + m.pageSize) image.size)).toList).frame f =
      pagePadded m.pageSize p image := by
  rw [PhysicalMemory.frame_fillFrame holds]
  apply List.map_congr_left
  intro i mem
  exact SwapDisk.getD_extract_page image (List.mem_range.1 mem)

/-- The first page of a new process, the image's first words, fills a frame as page 0 padded to
a whole frame. -/
theorem frame_fillFrame_first {m : PhysicalMemory} {f : Nat} (holds : m.holdsFrame f = true)
    (image : Array Word) :
    (m.fillFrame f (image.toList.take m.pageSize)).frame f = pagePadded m.pageSize 0 image := by
  rw [PhysicalMemory.frame_fillFrame holds]
  apply List.map_congr_left
  intro i mem
  have short := List.mem_range.1 mem
  simp [List.getD_eq_getElem?_getD, Array.getD_eq_getD_getElem?, short]

namespace SwapDisk

/-- The swap store round-trips pages. Along every run of reservations, releases and transfers
from an empty disk of `n` slots for pages of `ps` words, the disk keeps its `n` slots and counts
the reserved ones. Reservation hands out the lowest free slot, and none exactly when all are
reserved; releasing a free slot changes nothing. A save into a slot that exists stores the page
and reports it saved; any other save reports the disk full and stores nothing. A load from a slot
brings what the slot holds: the data of the last save into it since the last release that freed
it, or no words when there was none. A load from the image, for a page that ends below 2^64,
brings the page cut at the image's end, and a frame filled with it holds the page padded with
`DATA 0` to a whole frame, as the first page of a new process is. -/
theorem swap_store_round_trip (n ps : Nat) (calls : List DiskCall) :
    let d := (new n ps).run calls
    (d.reserved.size = n ∧ d.contents.size = n ∧ d.pageSize = ps ∧
      d.stats.slotsInUse = d.reserved.count true) ∧
    (∀ s, d.reserve.1 = some s ↔
      s < n ∧ d.reserved.getD s false = false ∧ ∀ r < s, d.reserved.getD r false = true) ∧
    (d.reserve.1 = none ↔ ∀ s < n, d.reserved.getD s false = true) ∧
    (∀ s, d.reserved.getD s false = false → d.release s = d) ∧
    (∀ pid page frame data s, s < n →
      (d.perform ⟨pid, page, frame, .save data (some s)⟩).1.result = .saved s ∧
        (d.exec (.perform ⟨pid, page, frame, .save data (some s)⟩)).fetch page (.slot s) = data) ∧
    (∀ pid page frame data slot, (∀ s, slot = some s → n ≤ s) →
      (d.perform ⟨pid, page, frame, .save data slot⟩).1.result = .diskFull ∧
        (d.perform ⟨pid, page, frame, .save data slot⟩).2.contents = d.contents) ∧
    (∀ pid page frame s, (d.perform ⟨pid, page, frame, .load (.slot s)⟩).1.result =
      .loaded (d.fetch page (.slot s))) ∧
    (∀ pre post pid page frame data s p,
      calls = pre ++ .perform ⟨pid, page, frame, .save data (some s)⟩ :: post → s < n →
      Untouched s (((new n ps).run pre).exec (.perform ⟨pid, page, frame, .save data (some s)⟩))
        post →
      d.fetch p (.slot s) = data) ∧
    (∀ pre post s p, calls = pre ++ .release s :: post →
      ((new n ps).run pre).reserved.getD s false = true →
      Untouched s (((new n ps).run pre).exec (.release s)) post → d.fetch p (.slot s) = []) ∧
    (∀ s p, Untouched s (new n ps) calls → d.fetch p (.slot s) = []) ∧
    (∀ pid p frame image, p * ps + ps < Text.unsignedBound →
      (d.perform ⟨pid, p, frame, .load (.image image)⟩).1.result =
        .loaded (image.extract (min (p * ps) image.size) (min (p * ps + ps) image.size)).toList) ∧
    (∀ (m : PhysicalMemory) f p image, m.pageSize = ps → m.holdsFrame f = true →
      (m.fillFrame f (image.extract (min (p * ps) image.size)
        (min (p * ps + ps) image.size)).toList).frame f = pagePadded ps p image) ∧
    (∀ (m : PhysicalMemory) f image, m.pageSize = ps → m.holdsFrame f = true →
      (m.fillFrame f (image.toList.take ps)).frame f = pagePadded ps 0 image) := by
  intro d
  have sized : d.Sized n ps := (sized_new n ps).run calls
  have contents : d.contents.size = n := sized.counted.sizes.trans sized.slots
  -- a run split at a call is the run up to it, the call, and the rest
  have split : ∀ pre c post, calls = pre ++ c :: post →
      d = (((new n ps).run pre).exec c).run post := by
    intro pre c post whole
    simp only [d, whole, run_append, run]
  refine ⟨⟨sized.slots, contents, sized.pageSize, sized.counted.inUse⟩, fun s => ?_, ?_,
    fun s free => release_of_free free, fun pid page frame data s inside => ?_,
    fun pid page frame data slot outside => ?_, fun pid page frame s => ?_,
    fun pre post pid page frame data s p whole inside untouched => ?_,
    fun pre post s p whole held untouched => ?_, fun s p untouched => ?_,
    fun pid p frame image bound => ?_, fun m f p image pageSize holds => ?_,
    fun m f image pageSize holds => ?_⟩
  · rw [reserve_eq_some_iff, sized.slots]
  · rw [reserve_eq_none_iff, sized.slots]
  · exact ⟨(perform_save_of_lt pid page frame data (by omega)).1,
      fetch_exec_save pid page frame page data (by omega)⟩
  · exact perform_save_full pid page frame data fun s named => contents ▸ outside s named
  · exact congrArg Completion.result (@perform_load d ⟨pid, page, frame, .load (.slot s)⟩ _ rfl).1
  · have before : ((new n ps).run pre).Sized n ps := (sized_new n ps).run pre
    rw [split _ _ _ whole, fetch_run_of_untouched p untouched]
    exact fetch_exec_save pid page frame p data
      (by rw [before.counted.sizes, before.slots]; exact inside)
  · have before : ((new n ps).run pre).Sized n ps := (sized_new n ps).run pre
    rw [split _ _ _ whole, fetch_run_of_untouched p untouched]
    exact fetch_exec_release p held before.counted.sizes
  · rw [fetch_run_of_untouched p untouched]
    simp only [new, fetch, Array.getElem?_replicate]
    split <;> rfl
  · rw [(@perform_load d ⟨pid, p, frame, .load (.image image)⟩ _ rfl).1]
    simp only [fetch, sized.pageSize, imagePage?_of_lt image bound, Option.getD_some]
  · subst pageSize
    exact frame_fillFrame_page holds p image
  · subst pageSize
    exact frame_fillFrame_first holds image

end SwapDisk

end PagedMachine
