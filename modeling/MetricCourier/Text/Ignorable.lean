import MetricCourier.Text.CharTable

/-!
# Characters that show nothing

The code points with the Unicode property `Default_Ignorable_Code_Point`: those that leave no trace
where a text is shown, and those reserved for more of the kind. Some of them are letters by their
general category, such as the fillers of the Hangul scripts, so the category alone does not tell.
Quoted text writes them by their number.
-/

namespace MetricCourier.Ignorable

/-- The code points with the property `Default_Ignorable_Code_Point`. -/
def table : CharTable :=
  [(0xad, 0xad), (0x34f, 0x34f), (0x61c, 0x61c), (0x115f, 0x1160), (0x17b4, 0x17b5),
   (0x180b, 0x180f), (0x200b, 0x200f), (0x202a, 0x202e), (0x2060, 0x206f), (0x3164, 0x3164),
   (0xfe00, 0xfe0f), (0xfeff, 0xfeff), (0xffa0, 0xffa0), (0xfff0, 0xfff8), (0x1bca0, 0x1bca3),
   (0x1d173, 0x1d17a), (0xe0000, 0xe0fff)]

/-- The table is in order. -/
theorem ascending_table : table.ascending := by decide

/-- Does the character show nothing by default? -/
def isIgnorable (c : Char) : Bool := table.contains c

end MetricCourier.Ignorable
