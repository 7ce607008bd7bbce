/-!
# The first planes of CNS 11643

The characters of these planes are nearly those of Big5, and nearly in the same order.
-/

namespace GirDoc.Text.Grid.Run

/-- What the first plane shares with Big5: cells in the plane, cells in Big5, and how many of them. -/
def cnsFirst : List (Nat × Nat × Nat) :=
  [(0, 5024, 5), (6, 5030, 8), (15, 5039, 6), (21, 5047, 2), (24, 5046, 1), (29, 5053, 44),
    (73, 5098, 1), (74, 5097, 1), (75, 5099, 22), (98, 5122, 1), (100, 5124, 27), (127, 5152, 1),
    (128, 5151, 1), (129, 5153, 19), (148, 5173, 1), (149, 5172, 1), (150, 5174, 4), (155, 5045, 1),
    (156, 5182, 2), (160, 5184, 1), (162, 5186, 1), (165, 5189, 69), (282, 5258, 29), (312, 5288, 1),
    (314, 5290, 142), (470, 11125, 20), (3290, 5495, 1412), (4702, 6908, 424), (5126, 6907, 1),
    (5127, 7332, 1876), (7003, 9595, 1), (7004, 9208, 387), (7391, 9596, 525), (7916, 10310, 1),
    (7917, 10121, 105), (8023, 10227, 83), (8106, 10311, 84), (8190, 10541, 1), (8191, 10395, 54),
    (8245, 10450, 1), (8246, 10449, 1), (8247, 10451, 90), (8337, 10542, 354)]

/-- What the first plane has that Big5 has not. -/
def cnsFirstSigns : List (Nat × String) :=
  [(5, "・"), (14, "﹑"), (23, "︲"), (154, "‖"), (158, "∕﹨"), (161, "￥"), (163, "￠8"), (490, "ⅰ!)"), (571, "亠"),
    (578, "冫"), (583, "勹"), (3102, "␀!?9"), (8022, "彞")]

/-- What the second plane shares with Big5: cells in the plane, cells in Big5, and how many of them. -/
def cnsSecond : List (Nat × Nat × Nat) :=
  [(0, 11304, 10), (10, 11315, 33), (43, 11396, 1), (44, 11348, 48), (92, 11397, 46), (138, 11610, 1),
    (139, 11443, 167), (306, 11611, 1840), (2146, 14098, 1), (2147, 13452, 108), (2255, 13561, 537),
    (2792, 13451, 1), (2793, 14099, 100), (2893, 13560, 1), (2894, 14199, 399), (3293, 14599, 1637),
    (4930, 16785, 1), (4931, 16236, 146), (5077, 16923, 1), (5078, 16382, 287), (5365, 17532, 1),
    (5366, 16669, 116), (5482, 16786, 137), (5619, 16924, 104), (5723, 17449, 1), (5724, 17028, 222),
    (5946, 17251, 198), (6144, 17450, 82), (6226, 17533, 86), (6312, 17250, 1), (6313, 17619, 8),
    (6321, 17628, 153), (6474, 17782, 56), (6530, 18138, 1), (6531, 17838, 113), (6644, 17627, 1),
    (6645, 17951, 142), (6787, 17781, 1), (6788, 18093, 45), (6833, 18139, 71), (6904, 18404, 1),
    (6905, 18210, 194), (7099, 18405, 490), (7589, 18938, 1), (7590, 18895, 43), (7633, 18939, 1),
    (7634, 18941, 11), (7645, 18940, 1), (7646, 18952, 4)]

end GirDoc.Text.Grid.Run
