/-! Separators, controls and code points without characters, as runs
`(first, last, step)` in ascending order (Unicode 17.0). -/
namespace MoquiLint.Text.Table

def spaceSeparator : List (Nat × Nat × Nat) := [
  (32, 32, 1), (160, 160, 1), (5760, 5760, 1), (8192, 8202, 1), (8239, 8239, 1),
  (8287, 8287, 1), (12288, 12288, 1)]

def lineSeparator : List (Nat × Nat × Nat) := [
  (8232, 8232, 1)]

def paragraphSeparator : List (Nat × Nat × Nat) := [
  (8233, 8233, 1)]

def controlCode : List (Nat × Nat × Nat) := [
  (0, 31, 1), (127, 159, 1)]

def formatCode : List (Nat × Nat × Nat) := [
  (173, 173, 1), (1536, 1541, 1), (1564, 1564, 1), (1757, 1757, 1), (1807, 1807, 1),
  (2192, 2193, 1), (2274, 2274, 1), (6158, 6158, 1), (8203, 8207, 1), (8234, 8238, 1),
  (8288, 8292, 1), (8294, 8303, 1), (65279, 65279, 1), (65529, 65531, 1), (69821, 69821, 1),
  (69837, 69837, 1), (78896, 78911, 1), (113824, 113827, 1), (119155, 119162, 1),
  (917505, 917505, 1), (917536, 917631, 1)]

def surrogate : List (Nat × Nat × Nat) := [
  (55296, 57343, 1)]

def privateUse : List (Nat × Nat × Nat) := [
  (57344, 63743, 1), (983040, 1048573, 1), (1048576, 1114109, 1)]

end MoquiLint.Text.Table
