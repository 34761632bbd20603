import MetricCourier.Text.CharTable

/-!
# Blank characters

The characters that may surround a configured port number: those with the Unicode property
`White_Space`, which are more than the ASCII blanks. `Blank.trim` takes them off both ends and
leaves those inside alone.
-/

namespace MetricCourier.Blank

/-- The code points with the property `White_Space`. -/
def table : CharTable :=
  [(0x9, 0xd), (0x20, 0x20), (0x85, 0x85), (0xa0, 0xa0), (0x1680, 0x1680), (0x2000, 0x200a),
   (0x2028, 0x2029), (0x202f, 0x202f), (0x205f, 0x205f), (0x3000, 0x3000)]

/-- Is the character white space in the sense of Unicode? -/
def isBlank (c : Char) : Bool := table.contains c

/-- Takes the blanks off both ends. -/
def trim (cs : List Char) : List Char :=
  ((cs.dropWhile isBlank).reverse.dropWhile isBlank).reverse

/-- The table is in order. -/
theorem ascending_table : table.ascending := by decide

end MetricCourier.Blank
