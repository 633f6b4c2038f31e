/-!
# Lines of a script

A script is cut into lines at line feeds. A line that ends in a line feed loses it, and a
carriage return just before it; the text after the last line feed is a line only if it is not
empty. So `"a\r\nb"` has the lines `"a"` and `"b"`, and `"a\n"` has the one line `"a"`.
-/

namespace PagedMachine.Text

/-- The pieces of a character list between line feeds, each with a flag telling whether a
line feed ended it. -/
def linePieces : List Char → List Char → List (List Char × Bool)
  | [], acc => [(acc.reverse, false)]
  | '\n' :: rest, acc => (acc.reverse, true) :: linePieces rest []
  | c :: rest, acc => linePieces rest (c :: acc)

/-- Drops one carriage return at the end of a line that ended in a line feed. -/
def stripReturn : List Char × Bool → List Char
  | (cs, true) => if cs.getLast? = some '\r' then cs.dropLast else cs
  | (cs, false) => cs

/-- The lines of a script. -/
def lines (script : String) : List String :=
  let pieces := (linePieces script.toList []).filter fun (cs, ended) => ended || !cs.isEmpty
  pieces.map fun p => String.ofList (stripReturn p)

/-- A line as a stream hands it over, without its line feed and a carriage return before it;
the last line of a stream may come without a line feed, and then keeps everything. -/
def chomp (raw : String) : String :=
  let cs := raw.toList
  if cs.getLast? = some '\n' then String.ofList (stripReturn (cs.dropLast, true))
  else raw

end PagedMachine.Text
