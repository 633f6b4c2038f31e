import PagedMachine.Text.Numeral

/-!
# Unsigned 64-bit arithmetic

Sizes, page numbers and addresses are unsigned 64-bit numbers, and their sums and products
wrap around: the result is taken modulo 2^64. Nothing the machine computes for itself comes
near that bound, but a request may name a page size or a page number close to it, and then the
wrapped value is the one that counts.

A vector cannot take more bytes than a signed 64-bit number counts, less the alignment of its
elements: asking for a longer one stops the program (`allocationLimit`, `fitsVector`).

Main statement: a number below 2^64 is its own wrapped value (`wrap_of_lt`).
-/

namespace PagedMachine.Unsigned

/-- A number reduced modulo 2^64, as unsigned 64-bit arithmetic leaves it. -/
def wrap (n : Nat) : Nat := n % Text.unsignedBound

/-- A number below 2^64 is its own wrapped value. -/
theorem wrap_of_lt {n : Nat} (small : n < Text.unsignedBound) : wrap n = n :=
  Nat.mod_eq_of_lt small

/-- A wrapped value is below 2^64. -/
theorem wrap_lt (n : Nat) : wrap n < Text.unsignedBound :=
  Nat.mod_lt _ (by decide)

/-- The most bytes one vector of eight-byte aligned elements may take: the largest signed
64-bit number less seven. -/
def allocationLimit : Nat := 9223372036854775800

/-- Whether `n` elements of `size` bytes each fit in one vector. -/
def fitsVector (size n : Nat) : Bool := size * n ≤ allocationLimit

end PagedMachine.Unsigned
