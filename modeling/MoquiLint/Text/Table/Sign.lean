/-! Symbols by kind, as runs `(first, last, step)` in ascending order (Unicode 17.0). -/
namespace MoquiLint.Text.Table

def mathSign : List (Nat × Nat × Nat) := [
  (43, 43, 1), (60, 62, 1), (124, 124, 1), (126, 126, 1), (172, 172, 1), (177, 177, 1),
  (215, 215, 1), (247, 247, 1), (1014, 1014, 1), (1542, 1544, 1), (8260, 8260, 1),
  (8274, 8274, 1), (8314, 8316, 1), (8330, 8332, 1), (8472, 8472, 1), (8512, 8516, 1),
  (8523, 8523, 1), (8592, 8596, 1), (8602, 8603, 1), (8608, 8608, 1), (8611, 8611, 1),
  (8614, 8614, 1), (8622, 8622, 1), (8654, 8655, 1), (8658, 8658, 1), (8660, 8660, 1),
  (8692, 8959, 1), (8992, 8993, 1), (9084, 9084, 1), (9115, 9139, 1), (9180, 9185, 1),
  (9655, 9655, 1), (9665, 9665, 1), (9720, 9727, 1), (9839, 9839, 1), (10176, 10180, 1),
  (10183, 10213, 1), (10224, 10239, 1), (10496, 10626, 1), (10649, 10711, 1), (10716, 10747, 1),
  (10750, 11007, 1), (11056, 11076, 1), (11079, 11084, 1), (64297, 64297, 1), (65122, 65122, 1),
  (65124, 65126, 1), (65291, 65291, 1), (65308, 65310, 1), (65372, 65372, 1), (65374, 65374, 1),
  (65506, 65506, 1), (65513, 65516, 1), (69006, 69007, 1), (118512, 118512, 1),
  (120513, 120513, 1), (120539, 120539, 1), (120571, 120571, 1), (120597, 120597, 1),
  (120629, 120629, 1), (120655, 120655, 1), (120687, 120687, 1), (120713, 120713, 1),
  (120745, 120745, 1), (120771, 120771, 1), (126704, 126705, 1), (129232, 129240, 1)]

def currencySign : List (Nat × Nat × Nat) := [
  (36, 36, 1), (162, 165, 1), (1423, 1423, 1), (1547, 1547, 1), (2046, 2047, 1),
  (2546, 2547, 1), (2555, 2555, 1), (2801, 2801, 1), (3065, 3065, 1), (3647, 3647, 1),
  (6107, 6107, 1), (8352, 8385, 1), (43064, 43064, 1), (65020, 65020, 1), (65129, 65129, 1),
  (65284, 65284, 1), (65504, 65505, 1), (65509, 65510, 1), (73693, 73696, 1),
  (123647, 123647, 1), (126128, 126128, 1)]

def modifierSign : List (Nat × Nat × Nat) := [
  (94, 94, 1), (96, 96, 1), (168, 168, 1), (175, 175, 1), (180, 180, 1), (184, 184, 1),
  (706, 709, 1), (722, 735, 1), (741, 747, 1), (749, 749, 1), (751, 767, 1), (885, 885, 1),
  (900, 901, 1), (2184, 2184, 1), (8125, 8125, 1), (8127, 8129, 1), (8141, 8143, 1),
  (8157, 8159, 1), (8173, 8175, 1), (8189, 8190, 1), (12443, 12444, 1), (42752, 42774, 1),
  (42784, 42785, 1), (42889, 42890, 1), (43867, 43867, 1), (43882, 43883, 1), (64434, 64450, 1),
  (65342, 65342, 1), (65344, 65344, 1), (65507, 65507, 1), (127995, 127999, 1)]

def otherSign : List (Nat × Nat × Nat) := [
  (166, 166, 1), (169, 169, 1), (174, 174, 1), (176, 176, 1), (1154, 1154, 1), (1421, 1422, 1),
  (1550, 1551, 1), (1758, 1758, 1), (1769, 1769, 1), (1789, 1790, 1), (2038, 2038, 1),
  (2554, 2554, 1), (2928, 2928, 1), (3059, 3064, 1), (3066, 3066, 1), (3199, 3199, 1),
  (3407, 3407, 1), (3449, 3449, 1), (3841, 3843, 1), (3859, 3859, 1), (3861, 3863, 1),
  (3866, 3871, 1), (3892, 3896, 2), (4030, 4037, 1), (4039, 4044, 1), (4046, 4047, 1),
  (4053, 4056, 1), (4254, 4255, 1), (5008, 5017, 1), (5741, 5741, 1), (6464, 6464, 1),
  (6622, 6655, 1), (7009, 7018, 1), (7028, 7036, 1), (8448, 8449, 1), (8451, 8454, 1),
  (8456, 8457, 1), (8468, 8468, 1), (8470, 8471, 1), (8478, 8483, 1), (8485, 8489, 2),
  (8494, 8494, 1), (8506, 8507, 1), (8522, 8522, 1), (8524, 8525, 1), (8527, 8527, 1),
  (8586, 8587, 1), (8597, 8601, 1), (8604, 8607, 1), (8609, 8610, 1), (8612, 8613, 1),
  (8615, 8621, 1), (8623, 8653, 1), (8656, 8657, 1), (8659, 8659, 1), (8661, 8691, 1),
  (8960, 8967, 1), (8972, 8991, 1), (8994, 9000, 1), (9003, 9083, 1), (9085, 9114, 1),
  (9140, 9179, 1), (9186, 9257, 1), (9280, 9290, 1), (9372, 9449, 1), (9472, 9654, 1),
  (9656, 9664, 1), (9666, 9719, 1), (9728, 9838, 1), (9840, 10087, 1), (10132, 10175, 1),
  (10240, 10495, 1), (11008, 11055, 1), (11077, 11078, 1), (11085, 11123, 1), (11126, 11263, 1),
  (11493, 11498, 1), (11856, 11857, 1), (11904, 11929, 1), (11931, 12019, 1), (12032, 12245, 1),
  (12272, 12287, 1), (12292, 12292, 1), (12306, 12307, 1), (12320, 12320, 1), (12342, 12343, 1),
  (12350, 12351, 1), (12688, 12689, 1), (12694, 12703, 1), (12736, 12773, 1), (12783, 12783, 1),
  (12800, 12830, 1), (12842, 12871, 1), (12880, 12880, 1), (12896, 12927, 1), (12938, 12976, 1),
  (12992, 13311, 1), (19904, 19967, 1), (42128, 42182, 1), (43048, 43051, 1), (43062, 43063, 1),
  (43065, 43065, 1), (43639, 43641, 1), (64451, 64466, 1), (64832, 64847, 1), (64912, 64913, 1),
  (64968, 64975, 1), (65021, 65023, 1), (65508, 65508, 1), (65512, 65512, 1), (65517, 65518, 1),
  (65532, 65533, 1), (65847, 65855, 1), (65913, 65929, 1), (65932, 65934, 1), (65936, 65948, 1),
  (65952, 65952, 1), (66000, 66044, 1), (67703, 67704, 1), (68296, 68296, 1), (69329, 69336, 1),
  (71487, 71487, 1), (73685, 73692, 1), (73697, 73713, 1), (92988, 92991, 1), (92997, 92997, 1),
  (113820, 113820, 1), (117760, 117999, 1), (118010, 118012, 1), (118016, 118451, 1),
  (118458, 118480, 1), (118496, 118511, 1), (118608, 118723, 1), (118784, 119029, 1),
  (119040, 119078, 1), (119081, 119140, 1), (119146, 119148, 1), (119171, 119172, 1),
  (119180, 119209, 1), (119214, 119274, 1), (119296, 119361, 1), (119365, 119365, 1),
  (119552, 119638, 1), (120832, 121343, 1), (121399, 121402, 1), (121453, 121460, 1),
  (121462, 121475, 1), (121477, 121478, 1), (123215, 123215, 1), (126124, 126124, 1),
  (126254, 126254, 1), (126976, 127019, 1), (127024, 127123, 1), (127136, 127150, 1),
  (127153, 127167, 1), (127169, 127183, 1), (127185, 127221, 1), (127245, 127405, 1),
  (127462, 127490, 1), (127504, 127547, 1), (127552, 127560, 1), (127568, 127569, 1),
  (127584, 127589, 1), (127744, 127994, 1), (128000, 128728, 1), (128732, 128748, 1),
  (128752, 128764, 1), (128768, 128985, 1), (128992, 129003, 1), (129008, 129008, 1),
  (129024, 129035, 1), (129040, 129095, 1), (129104, 129113, 1), (129120, 129159, 1),
  (129168, 129197, 1), (129200, 129211, 1), (129216, 129217, 1), (129280, 129623, 1),
  (129632, 129645, 1), (129648, 129660, 1), (129664, 129674, 1), (129678, 129734, 1),
  (129736, 129736, 1), (129741, 129756, 1), (129759, 129770, 1), (129775, 129784, 1),
  (129792, 129938, 1), (129940, 130031, 1), (130042, 130042, 1)]

end MoquiLint.Text.Table
