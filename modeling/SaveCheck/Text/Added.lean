/-!
The letters and numbers that version 17 of the Unicode standard has more than version 16, as inclusive
ranges in ascending order. The other tables of this library are those of version 16, by which words are
told; names are told by version 17.
-/

namespace SaveCheck.Text

/-- Code points that became alphabetic or a number in version 17. -/
def addedRanges : List (Nat × Nat) := [
  (0x0363, 0x036f), (0x088f, 0x088f), (0x0c5c, 0x0c5c), (0x0cdc, 0x0cdc), (0x1dd3, 0x1de6),
  (0xa7ce, 0xa7cf), (0xa7d2, 0xa7d2), (0xa7d4, 0xa7d4), (0xa7f1, 0xa7f1), (0x10940, 0x10959),
  (0x10ec5, 0x10ec7), (0x10efa, 0x10efb), (0x11b60, 0x11b67), (0x11db0, 0x11ddb),
  (0x11de0, 0x11de9), (0x16ea0, 0x16eb8), (0x16ebb, 0x16ed3), (0x16ff2, 0x16ff6),
  (0x187f8, 0x187ff), (0x18d09, 0x18d1e), (0x18d80, 0x18df2), (0x1e6c0, 0x1e6de),
  (0x1e6e0, 0x1e6f5), (0x1e6fe, 0x1e6ff), (0x2b73a, 0x2b73f), (0x2cea2, 0x2cead),
  (0x323b0, 0x33479)]

end SaveCheck.Text
