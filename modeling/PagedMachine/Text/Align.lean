/-!
# Column alignment

Console tables line values up in columns of a fixed width. A value shorter than its column is
filled with spaces on one side; a longer value is kept whole and pushes the rest of the line
to the right. Widths count characters.
-/

namespace PagedMachine.Text

/-- Puts `s` at the right end of a column of `width` characters. -/
def alignRight (width : Nat) (s : String) : String :=
  "".pushn ' ' (width - s.length) ++ s

/-- Puts `s` at the left end of a column of `width` characters. -/
def alignLeft (width : Nat) (s : String) : String :=
  s.pushn ' ' (width - s.length)

/-- Joins pieces with a separator between each two of them. -/
def joinWith (sep : String) : List String → String
  | [] => ""
  | [s] => s
  | s :: rest => s ++ sep ++ joinWith sep rest

end PagedMachine.Text
