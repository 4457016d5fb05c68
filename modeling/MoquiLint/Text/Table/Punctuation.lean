/-! Punctuation by kind, as runs `(first, last, step)` in ascending order (Unicode 17.0). -/
namespace MoquiLint.Text.Table

def connector : List (Nat × Nat × Nat) := [
  (95, 95, 1), (8255, 8256, 1), (8276, 8276, 1), (65075, 65076, 1), (65101, 65103, 1),
  (65343, 65343, 1)]

def dash : List (Nat × Nat × Nat) := [
  (45, 45, 1), (1418, 1418, 1), (1470, 1470, 1), (5120, 5120, 1), (6150, 6150, 1),
  (8208, 8213, 1), (11799, 11799, 1), (11802, 11802, 1), (11834, 11835, 1), (11840, 11840, 1),
  (11869, 11869, 1), (12316, 12316, 1), (12336, 12336, 1), (12448, 12448, 1), (65073, 65074, 1),
  (65112, 65112, 1), (65123, 65123, 1), (65293, 65293, 1), (68974, 68974, 1), (69293, 69293, 1)]

def opening : List (Nat × Nat × Nat) := [
  (40, 40, 1), (91, 91, 1), (123, 123, 1), (3898, 3898, 1), (3900, 3900, 1), (5787, 5787, 1),
  (8218, 8218, 1), (8222, 8222, 1), (8261, 8261, 1), (8317, 8317, 1), (8333, 8333, 1),
  (8968, 8968, 1), (8970, 8970, 1), (9001, 9001, 1), (10088, 10100, 2), (10181, 10181, 1),
  (10214, 10222, 2), (10627, 10647, 2), (10712, 10712, 1), (10714, 10714, 1), (10748, 10748, 1),
  (11810, 11816, 2), (11842, 11842, 1), (11861, 11867, 2), (12296, 12304, 2), (12308, 12314, 2),
  (12317, 12317, 1), (64831, 64831, 1), (65047, 65047, 1), (65077, 65091, 2), (65095, 65095, 1),
  (65113, 65117, 2), (65288, 65288, 1), (65339, 65339, 1), (65371, 65371, 1), (65375, 65375, 1),
  (65378, 65378, 1)]

def closing : List (Nat × Nat × Nat) := [
  (41, 41, 1), (93, 93, 1), (125, 125, 1), (3899, 3899, 1), (3901, 3901, 1), (5788, 5788, 1),
  (8262, 8262, 1), (8318, 8318, 1), (8334, 8334, 1), (8969, 8969, 1), (8971, 8971, 1),
  (9002, 9002, 1), (10089, 10101, 2), (10182, 10182, 1), (10215, 10223, 2), (10628, 10648, 2),
  (10713, 10713, 1), (10715, 10715, 1), (10749, 10749, 1), (11811, 11817, 2), (11862, 11868, 2),
  (12297, 12305, 2), (12309, 12315, 2), (12318, 12319, 1), (64830, 64830, 1), (65048, 65048, 1),
  (65078, 65092, 2), (65096, 65096, 1), (65114, 65118, 2), (65289, 65289, 1), (65341, 65341, 1),
  (65373, 65373, 1), (65376, 65376, 1), (65379, 65379, 1)]

def initialQuote : List (Nat × Nat × Nat) := [
  (171, 171, 1), (8216, 8216, 1), (8219, 8220, 1), (8223, 8223, 1), (8249, 8249, 1),
  (11778, 11778, 1), (11780, 11780, 1), (11785, 11785, 1), (11788, 11788, 1), (11804, 11804, 1),
  (11808, 11808, 1)]

def finalQuote : List (Nat × Nat × Nat) := [
  (187, 187, 1), (8217, 8217, 1), (8221, 8221, 1), (8250, 8250, 1), (11779, 11779, 1),
  (11781, 11781, 1), (11786, 11786, 1), (11789, 11789, 1), (11805, 11805, 1), (11809, 11809, 1)]

def otherPunctuation : List (Nat × Nat × Nat) := [
  (33, 35, 1), (37, 39, 1), (42, 42, 1), (44, 44, 1), (46, 47, 1), (58, 59, 1), (63, 64, 1),
  (92, 92, 1), (161, 161, 1), (167, 167, 1), (182, 183, 1), (191, 191, 1), (894, 894, 1),
  (903, 903, 1), (1370, 1375, 1), (1417, 1417, 1), (1472, 1472, 1), (1475, 1475, 1),
  (1478, 1478, 1), (1523, 1524, 1), (1545, 1546, 1), (1548, 1549, 1), (1563, 1563, 1),
  (1565, 1567, 1), (1642, 1645, 1), (1748, 1748, 1), (1792, 1805, 1), (2039, 2041, 1),
  (2096, 2110, 1), (2142, 2142, 1), (2404, 2405, 1), (2416, 2416, 1), (2557, 2557, 1),
  (2678, 2678, 1), (2800, 2800, 1), (3191, 3191, 1), (3204, 3204, 1), (3572, 3572, 1),
  (3663, 3663, 1), (3674, 3675, 1), (3844, 3858, 1), (3860, 3860, 1), (3973, 3973, 1),
  (4048, 4052, 1), (4057, 4058, 1), (4170, 4175, 1), (4347, 4347, 1), (4960, 4968, 1),
  (5742, 5742, 1), (5867, 5869, 1), (5941, 5942, 1), (6100, 6102, 1), (6104, 6106, 1),
  (6144, 6149, 1), (6151, 6154, 1), (6468, 6469, 1), (6686, 6687, 1), (6816, 6822, 1),
  (6824, 6829, 1), (6990, 6991, 1), (7002, 7008, 1), (7037, 7039, 1), (7164, 7167, 1),
  (7227, 7231, 1), (7294, 7295, 1), (7360, 7367, 1), (7379, 7379, 1), (8214, 8215, 1),
  (8224, 8231, 1), (8240, 8248, 1), (8251, 8254, 1), (8257, 8259, 1), (8263, 8273, 1),
  (8275, 8275, 1), (8277, 8286, 1), (11513, 11516, 1), (11518, 11519, 1), (11632, 11632, 1),
  (11776, 11777, 1), (11782, 11784, 1), (11787, 11787, 1), (11790, 11798, 1), (11800, 11801, 1),
  (11803, 11803, 1), (11806, 11807, 1), (11818, 11822, 1), (11824, 11833, 1), (11836, 11839, 1),
  (11841, 11841, 1), (11843, 11855, 1), (11858, 11860, 1), (12289, 12291, 1), (12349, 12349, 1),
  (12539, 12539, 1), (42238, 42239, 1), (42509, 42511, 1), (42611, 42611, 1), (42622, 42622, 1),
  (42738, 42743, 1), (43124, 43127, 1), (43214, 43215, 1), (43256, 43258, 1), (43260, 43260, 1),
  (43310, 43311, 1), (43359, 43359, 1), (43457, 43469, 1), (43486, 43487, 1), (43612, 43615, 1),
  (43742, 43743, 1), (43760, 43761, 1), (44011, 44011, 1), (65040, 65046, 1), (65049, 65049, 1),
  (65072, 65072, 1), (65093, 65094, 1), (65097, 65100, 1), (65104, 65106, 1), (65108, 65111, 1),
  (65119, 65121, 1), (65128, 65128, 1), (65130, 65131, 1), (65281, 65283, 1), (65285, 65287, 1),
  (65290, 65290, 1), (65292, 65292, 1), (65294, 65295, 1), (65306, 65307, 1), (65311, 65312, 1),
  (65340, 65340, 1), (65377, 65377, 1), (65380, 65381, 1), (65792, 65794, 1), (66463, 66463, 1),
  (66512, 66512, 1), (66927, 66927, 1), (67671, 67671, 1), (67871, 67871, 1), (67903, 67903, 1),
  (68176, 68184, 1), (68223, 68223, 1), (68336, 68342, 1), (68409, 68415, 1), (68505, 68508, 1),
  (69328, 69328, 1), (69461, 69465, 1), (69510, 69513, 1), (69703, 69709, 1), (69819, 69820, 1),
  (69822, 69825, 1), (69952, 69955, 1), (70004, 70005, 1), (70085, 70088, 1), (70093, 70093, 1),
  (70107, 70107, 1), (70109, 70111, 1), (70200, 70205, 1), (70313, 70313, 1), (70612, 70613, 1),
  (70615, 70616, 1), (70731, 70735, 1), (70746, 70747, 1), (70749, 70749, 1), (70854, 70854, 1),
  (71105, 71127, 1), (71233, 71235, 1), (71264, 71276, 1), (71353, 71353, 1), (71484, 71486, 1),
  (71739, 71739, 1), (72004, 72006, 1), (72162, 72162, 1), (72255, 72262, 1), (72346, 72348, 1),
  (72350, 72354, 1), (72448, 72457, 1), (72673, 72673, 1), (72769, 72773, 1), (72816, 72817, 1),
  (73463, 73464, 1), (73539, 73551, 1), (73727, 73727, 1), (74864, 74868, 1), (77809, 77810, 1),
  (92782, 92783, 1), (92917, 92917, 1), (92983, 92987, 1), (92996, 92996, 1), (93549, 93551, 1),
  (93847, 93850, 1), (94178, 94178, 1), (113823, 113823, 1), (121479, 121483, 1),
  (124415, 124415, 1), (125278, 125279, 1)]

end MoquiLint.Text.Table
