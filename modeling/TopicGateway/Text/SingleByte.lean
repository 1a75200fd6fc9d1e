/-! Single-byte character sets. In each of these sets the first 128 bytes are ASCII. The other 128
are given as runs of consecutive code points: where a run starts and how long it is. U+FFFD stands
for bytes that mean nothing. -/

namespace TopicGateway.Text

/-- A character set by the runs of its upper half, and the labels it goes by. -/
structure SingleByteSet where
  labels : List String
  runs : List (Nat × Nat)
  deriving DecidableEq

namespace SingleByteSet

def ibm866 : SingleByteSet where
  labels := [
    "866", "cp866", "csibm866", "ibm866"]
  runs := [
    (1040, 48), (9617, 3), (9474, 1), (9508, 1), (9569, 2), (9558, 1), (9557, 1), (9571, 1),
    (9553, 1), (9559, 1), (9565, 1), (9564, 1), (9563, 1), (9488, 1), (9492, 1), (9524, 1),
    (9516, 1), (9500, 1), (9472, 1), (9532, 1), (9566, 2), (9562, 1), (9556, 1), (9577, 1),
    (9574, 1), (9568, 1), (9552, 1), (9580, 1), (9575, 2), (9572, 2), (9561, 1), (9560, 1),
    (9554, 2), (9579, 1), (9578, 1), (9496, 1), (9484, 1), (9608, 1), (9604, 1), (9612, 1),
    (9616, 1), (9600, 1), (1088, 16), (1025, 1), (1105, 1), (1028, 1), (1108, 1), (1031, 1),
    (1111, 1), (1038, 1), (1118, 1), (176, 1), (8729, 1), (183, 1), (8730, 1), (8470, 1), (164, 1),
    (9632, 1), (160, 1)]

def iso8859p2 : SingleByteSet where
  labels := [
    "csisolatin2", "iso-8859-2", "iso-ir-101", "iso8859-2", "iso88592", "iso_8859-2",
    "iso_8859-2:1987", "l2", "latin2"]
  runs := [
    (128, 33), (260, 1), (728, 1), (321, 1), (164, 1), (317, 1), (346, 1), (167, 2), (352, 1),
    (350, 1), (356, 1), (377, 1), (173, 1), (381, 1), (379, 1), (176, 1), (261, 1), (731, 1),
    (322, 1), (180, 1), (318, 1), (347, 1), (711, 1), (184, 1), (353, 1), (351, 1), (357, 1),
    (378, 1), (733, 1), (382, 1), (380, 1), (340, 1), (193, 2), (258, 1), (196, 1), (313, 1),
    (262, 1), (199, 1), (268, 1), (201, 1), (280, 1), (203, 1), (282, 1), (205, 2), (270, 1),
    (272, 1), (323, 1), (327, 1), (211, 2), (336, 1), (214, 2), (344, 1), (366, 1), (218, 1),
    (368, 1), (220, 2), (354, 1), (223, 1), (341, 1), (225, 2), (259, 1), (228, 1), (314, 1),
    (263, 1), (231, 1), (269, 1), (233, 1), (281, 1), (235, 1), (283, 1), (237, 2), (271, 1),
    (273, 1), (324, 1), (328, 1), (243, 2), (337, 1), (246, 2), (345, 1), (367, 1), (250, 1),
    (369, 1), (252, 2), (355, 1), (729, 1)]

def iso8859p3 : SingleByteSet where
  labels := [
    "csisolatin3", "iso-8859-3", "iso-ir-109", "iso8859-3", "iso88593", "iso_8859-3",
    "iso_8859-3:1988", "l3", "latin3"]
  runs := [
    (128, 33), (294, 1), (728, 1), (163, 2), (65533, 1), (292, 1), (167, 2), (304, 1), (350, 1),
    (286, 1), (308, 1), (173, 1), (65533, 1), (379, 1), (176, 1), (295, 1), (178, 4), (293, 1),
    (183, 2), (305, 1), (351, 1), (287, 1), (309, 1), (189, 1), (65533, 1), (380, 1), (192, 3),
    (65533, 1), (196, 1), (266, 1), (264, 1), (199, 9), (65533, 1), (209, 4), (288, 1), (214, 2),
    (284, 1), (217, 4), (364, 1), (348, 1), (223, 4), (65533, 1), (228, 1), (267, 1), (265, 1),
    (231, 9), (65533, 1), (241, 4), (289, 1), (246, 2), (285, 1), (249, 4), (365, 1), (349, 1),
    (729, 1)]

def iso8859p4 : SingleByteSet where
  labels := [
    "csisolatin4", "iso-8859-4", "iso-ir-110", "iso8859-4", "iso88594", "iso_8859-4",
    "iso_8859-4:1988", "l4", "latin4"]
  runs := [
    (128, 33), (260, 1), (312, 1), (342, 1), (164, 1), (296, 1), (315, 1), (167, 2), (352, 1),
    (274, 1), (290, 1), (358, 1), (173, 1), (381, 1), (175, 2), (261, 1), (731, 1), (343, 1),
    (180, 1), (297, 1), (316, 1), (711, 1), (184, 1), (353, 1), (275, 1), (291, 1), (359, 1),
    (330, 1), (382, 1), (331, 1), (256, 1), (193, 6), (302, 1), (268, 1), (201, 1), (280, 1),
    (203, 1), (278, 1), (205, 2), (298, 1), (272, 1), (325, 1), (332, 1), (310, 1), (212, 5),
    (370, 1), (218, 3), (360, 1), (362, 1), (223, 1), (257, 1), (225, 6), (303, 1), (269, 1),
    (233, 1), (281, 1), (235, 1), (279, 1), (237, 2), (299, 1), (273, 1), (326, 1), (333, 1),
    (311, 1), (244, 5), (371, 1), (250, 3), (361, 1), (363, 1), (729, 1)]

def iso8859p5 : SingleByteSet where
  labels := [
    "csisolatincyrillic", "cyrillic", "iso-8859-5", "iso-ir-144", "iso8859-5", "iso88595",
    "iso_8859-5", "iso_8859-5:1988"]
  runs := [
    (128, 33), (1025, 12), (173, 1), (1038, 66), (8470, 1), (1105, 12), (167, 1), (1118, 2)]

def iso8859p6 : SingleByteSet where
  labels := [
    "arabic", "asmo-708", "csiso88596e", "csiso88596i", "csisolatinarabic", "ecma-114",
    "iso-8859-6", "iso-8859-6-e", "iso-8859-6-i", "iso-ir-127", "iso8859-6", "iso88596",
    "iso_8859-6", "iso_8859-6:1987"]
  runs := [
    (128, 33), (65533, 1), (65533, 1), (65533, 1), (164, 1), (65533, 1), (65533, 1), (65533, 1),
    (65533, 1), (65533, 1), (65533, 1), (65533, 1), (1548, 1), (173, 1), (65533, 1), (65533, 1),
    (65533, 1), (65533, 1), (65533, 1), (65533, 1), (65533, 1), (65533, 1), (65533, 1), (65533, 1),
    (65533, 1), (65533, 1), (65533, 1), (1563, 1), (65533, 1), (65533, 1), (65533, 1), (1567, 1),
    (65533, 1), (1569, 26), (65533, 1), (65533, 1), (65533, 1), (65533, 1), (65533, 1), (1600, 19),
    (65533, 1), (65533, 1), (65533, 1), (65533, 1), (65533, 1), (65533, 1), (65533, 1), (65533, 1),
    (65533, 1), (65533, 1), (65533, 1), (65533, 1), (65533, 1)]

def iso8859p7 : SingleByteSet where
  labels := [
    "csisolatingreek", "ecma-118", "elot_928", "greek", "greek8", "iso-8859-7", "iso-ir-126",
    "iso8859-7", "iso88597", "iso_8859-7", "iso_8859-7:1987", "sun_eu_greek"]
  runs := [
    (128, 33), (8216, 2), (163, 1), (8364, 1), (8367, 1), (166, 4), (890, 1), (171, 3), (65533, 1),
    (8213, 1), (176, 4), (900, 3), (183, 1), (904, 3), (187, 1), (908, 1), (189, 1), (910, 20),
    (65533, 1), (931, 44), (65533, 1)]

def iso8859p8 : SingleByteSet where
  labels := [
    "csiso88598e", "csiso88598i", "csisolatinhebrew", "hebrew", "iso-8859-8", "iso-8859-8-e",
    "iso-8859-8-i", "iso-ir-138", "iso8859-8", "iso88598", "iso_8859-8", "iso_8859-8:1988",
    "logical", "visual"]
  runs := [
    (128, 33), (65533, 1), (162, 8), (215, 1), (171, 15), (247, 1), (187, 4), (65533, 1),
    (65533, 1), (65533, 1), (65533, 1), (65533, 1), (65533, 1), (65533, 1), (65533, 1), (65533, 1),
    (65533, 1), (65533, 1), (65533, 1), (65533, 1), (65533, 1), (65533, 1), (65533, 1), (65533, 1),
    (65533, 1), (65533, 1), (65533, 1), (65533, 1), (65533, 1), (65533, 1), (65533, 1), (65533, 1),
    (65533, 1), (65533, 1), (65533, 1), (65533, 1), (65533, 1), (65533, 1), (65533, 1), (8215, 1),
    (1488, 27), (65533, 1), (65533, 1), (8206, 2), (65533, 1)]

def iso8859p10 : SingleByteSet where
  labels := [
    "csisolatin6", "iso-8859-10", "iso-ir-157", "iso8859-10", "iso885910", "l6", "latin6"]
  runs := [
    (128, 33), (260, 1), (274, 1), (290, 1), (298, 1), (296, 1), (310, 1), (167, 1), (315, 1),
    (272, 1), (352, 1), (358, 1), (381, 1), (173, 1), (362, 1), (330, 1), (176, 1), (261, 1),
    (275, 1), (291, 1), (299, 1), (297, 1), (311, 1), (183, 1), (316, 1), (273, 1), (353, 1),
    (359, 1), (382, 1), (8213, 1), (363, 1), (331, 1), (256, 1), (193, 6), (302, 1), (268, 1),
    (201, 1), (280, 1), (203, 1), (278, 1), (205, 4), (325, 1), (332, 1), (211, 4), (360, 1),
    (216, 1), (370, 1), (218, 6), (257, 1), (225, 6), (303, 1), (269, 1), (233, 1), (281, 1),
    (235, 1), (279, 1), (237, 4), (326, 1), (333, 1), (243, 4), (361, 1), (248, 1), (371, 1),
    (250, 5), (312, 1)]

def iso8859p13 : SingleByteSet where
  labels := [
    "iso-8859-13", "iso8859-13", "iso885913"]
  runs := [
    (128, 33), (8221, 1), (162, 3), (8222, 1), (166, 2), (216, 1), (169, 1), (342, 1), (171, 4),
    (198, 1), (176, 4), (8220, 1), (181, 3), (248, 1), (185, 1), (343, 1), (187, 4), (230, 1),
    (260, 1), (302, 1), (256, 1), (262, 1), (196, 2), (280, 1), (274, 1), (268, 1), (201, 1),
    (377, 1), (278, 1), (290, 1), (310, 1), (298, 1), (315, 1), (352, 1), (323, 1), (325, 1),
    (211, 1), (332, 1), (213, 3), (370, 1), (321, 1), (346, 1), (362, 1), (220, 1), (379, 1),
    (381, 1), (223, 1), (261, 1), (303, 1), (257, 1), (263, 1), (228, 2), (281, 1), (275, 1),
    (269, 1), (233, 1), (378, 1), (279, 1), (291, 1), (311, 1), (299, 1), (316, 1), (353, 1),
    (324, 1), (326, 1), (243, 1), (333, 1), (245, 3), (371, 1), (322, 1), (347, 1), (363, 1),
    (252, 1), (380, 1), (382, 1), (8217, 1)]

def iso8859p14 : SingleByteSet where
  labels := [
    "iso-8859-14", "iso8859-14", "iso885914"]
  runs := [
    (128, 33), (7682, 2), (163, 1), (266, 2), (7690, 1), (167, 1), (7808, 1), (169, 1), (7810, 1),
    (7691, 1), (7922, 1), (173, 2), (376, 1), (7710, 2), (288, 2), (7744, 2), (182, 1), (7766, 1),
    (7809, 1), (7767, 1), (7811, 1), (7776, 1), (7923, 1), (7812, 2), (7777, 1), (192, 16),
    (372, 1), (209, 6), (7786, 1), (216, 6), (374, 1), (223, 17), (373, 1), (241, 6), (7787, 1),
    (248, 6), (375, 1), (255, 1)]

def iso8859p15 : SingleByteSet where
  labels := [
    "csisolatin9", "iso-8859-15", "iso8859-15", "iso885915", "iso_8859-15", "l9"]
  runs := [
    (128, 36), (8364, 1), (165, 1), (352, 1), (167, 1), (353, 1), (169, 11), (381, 1), (181, 3),
    (382, 1), (185, 3), (338, 2), (376, 1), (191, 65)]

def iso8859p16 : SingleByteSet where
  labels := [
    "iso-8859-16"]
  runs := [
    (128, 33), (260, 2), (321, 1), (8364, 1), (8222, 1), (352, 1), (167, 1), (353, 1), (169, 1),
    (536, 1), (171, 1), (377, 1), (173, 1), (378, 2), (176, 2), (268, 1), (322, 1), (381, 1),
    (8221, 1), (182, 2), (382, 1), (269, 1), (537, 1), (187, 1), (338, 2), (376, 1), (380, 1),
    (192, 3), (258, 1), (196, 1), (262, 1), (198, 10), (272, 1), (323, 1), (210, 3), (336, 1),
    (214, 1), (346, 1), (368, 1), (217, 4), (280, 1), (538, 1), (223, 4), (259, 1), (228, 1),
    (263, 1), (230, 10), (273, 1), (324, 1), (242, 3), (337, 1), (246, 1), (347, 1), (369, 1),
    (249, 4), (281, 1), (539, 1), (255, 1)]

def koi8r : SingleByteSet where
  labels := [
    "cskoi8r", "koi", "koi8", "koi8-r", "koi8_r"]
  runs := [
    (9472, 1), (9474, 1), (9484, 1), (9488, 1), (9492, 1), (9496, 1), (9500, 1), (9508, 1),
    (9516, 1), (9524, 1), (9532, 1), (9600, 1), (9604, 1), (9608, 1), (9612, 1), (9616, 4),
    (8992, 1), (9632, 1), (8729, 2), (8776, 1), (8804, 2), (160, 1), (8993, 1), (176, 1), (178, 1),
    (183, 1), (247, 1), (9552, 3), (1105, 1), (9555, 15), (1025, 1), (9570, 11), (169, 1),
    (1102, 1), (1072, 2), (1094, 1), (1076, 2), (1092, 1), (1075, 1), (1093, 1), (1080, 8),
    (1103, 1), (1088, 4), (1078, 1), (1074, 1), (1100, 1), (1099, 1), (1079, 1), (1096, 1),
    (1101, 1), (1097, 1), (1095, 1), (1098, 1), (1070, 1), (1040, 2), (1062, 1), (1044, 2),
    (1060, 1), (1043, 1), (1061, 1), (1048, 8), (1071, 1), (1056, 4), (1046, 1), (1042, 1),
    (1068, 1), (1067, 1), (1047, 1), (1064, 1), (1069, 1), (1065, 1), (1063, 1), (1066, 1)]

def koi8u : SingleByteSet where
  labels := [
    "koi8-ru", "koi8-u"]
  runs := [
    (9472, 1), (9474, 1), (9484, 1), (9488, 1), (9492, 1), (9496, 1), (9500, 1), (9508, 1),
    (9516, 1), (9524, 1), (9532, 1), (9600, 1), (9604, 1), (9608, 1), (9612, 1), (9616, 4),
    (8992, 1), (9632, 1), (8729, 2), (8776, 1), (8804, 2), (160, 1), (8993, 1), (176, 1), (178, 1),
    (183, 1), (247, 1), (9552, 3), (1105, 1), (1108, 1), (9556, 1), (1110, 2), (9559, 5), (1169, 1),
    (1118, 1), (9566, 4), (1025, 1), (1028, 1), (9571, 1), (1030, 2), (9574, 5), (1168, 1),
    (1038, 1), (169, 1), (1102, 1), (1072, 2), (1094, 1), (1076, 2), (1092, 1), (1075, 1),
    (1093, 1), (1080, 8), (1103, 1), (1088, 4), (1078, 1), (1074, 1), (1100, 1), (1099, 1),
    (1079, 1), (1096, 1), (1101, 1), (1097, 1), (1095, 1), (1098, 1), (1070, 1), (1040, 2),
    (1062, 1), (1044, 2), (1060, 1), (1043, 1), (1061, 1), (1048, 8), (1071, 1), (1056, 4),
    (1046, 1), (1042, 1), (1068, 1), (1067, 1), (1047, 1), (1064, 1), (1069, 1), (1065, 1),
    (1063, 1), (1066, 1)]

def macintosh : SingleByteSet where
  labels := [
    "csmacintosh", "mac", "macintosh", "x-mac-roman"]
  runs := [
    (196, 2), (199, 1), (201, 1), (209, 1), (214, 1), (220, 1), (225, 1), (224, 1), (226, 1),
    (228, 1), (227, 1), (229, 1), (231, 1), (233, 1), (232, 1), (234, 2), (237, 1), (236, 1),
    (238, 2), (241, 1), (243, 1), (242, 1), (244, 1), (246, 1), (245, 1), (250, 1), (249, 1),
    (251, 2), (8224, 1), (176, 1), (162, 2), (167, 1), (8226, 1), (182, 1), (223, 1), (174, 1),
    (169, 1), (8482, 1), (180, 1), (168, 1), (8800, 1), (198, 1), (216, 1), (8734, 1), (177, 1),
    (8804, 2), (165, 1), (181, 1), (8706, 1), (8721, 1), (8719, 1), (960, 1), (8747, 1), (170, 1),
    (186, 1), (937, 1), (230, 1), (248, 1), (191, 1), (161, 1), (172, 1), (8730, 1), (402, 1),
    (8776, 1), (8710, 1), (171, 1), (187, 1), (8230, 1), (160, 1), (192, 1), (195, 1), (213, 1),
    (338, 2), (8211, 2), (8220, 2), (8216, 2), (247, 1), (9674, 1), (255, 1), (376, 1), (8260, 1),
    (8364, 1), (8249, 2), (64257, 2), (8225, 1), (183, 1), (8218, 1), (8222, 1), (8240, 1),
    (194, 1), (202, 1), (193, 1), (203, 1), (200, 1), (205, 3), (204, 1), (211, 2), (63743, 1),
    (210, 1), (218, 2), (217, 1), (305, 1), (710, 1), (732, 1), (175, 1), (728, 3), (184, 1),
    (733, 1), (731, 1), (711, 1)]

def macCyrillic : SingleByteSet where
  labels := [
    "x-mac-cyrillic", "x-mac-ukrainian"]
  runs := [
    (1040, 32), (8224, 1), (176, 1), (1168, 1), (163, 1), (167, 1), (8226, 1), (182, 1), (1030, 1),
    (174, 1), (169, 1), (8482, 1), (1026, 1), (1106, 1), (8800, 1), (1027, 1), (1107, 1), (8734, 1),
    (177, 1), (8804, 2), (1110, 1), (181, 1), (1169, 1), (1032, 1), (1028, 1), (1108, 1), (1031, 1),
    (1111, 1), (1033, 1), (1113, 1), (1034, 1), (1114, 1), (1112, 1), (1029, 1), (172, 1),
    (8730, 1), (402, 1), (8776, 1), (8710, 1), (171, 1), (187, 1), (8230, 1), (160, 1), (1035, 1),
    (1115, 1), (1036, 1), (1116, 1), (1109, 1), (8211, 2), (8220, 2), (8216, 2), (247, 1),
    (8222, 1), (1038, 1), (1118, 1), (1039, 1), (1119, 1), (8470, 1), (1025, 1), (1105, 1),
    (1103, 1), (1072, 31), (8364, 1)]

def windows874 : SingleByteSet where
  labels := [
    "dos-874", "iso-8859-11", "iso8859-11", "iso885911", "tis-620", "windows-874"]
  runs := [
    (8364, 1), (129, 4), (8230, 1), (134, 11), (8216, 2), (8220, 2), (8226, 1), (8211, 2), (152, 9),
    (3585, 58), (65533, 1), (65533, 1), (65533, 1), (65533, 1), (3647, 29), (65533, 1), (65533, 1),
    (65533, 1), (65533, 1)]

def windows1250 : SingleByteSet where
  labels := [
    "cp1250", "windows-1250", "x-cp1250"]
  runs := [
    (8364, 1), (129, 1), (8218, 1), (131, 1), (8222, 1), (8230, 1), (8224, 2), (136, 1), (8240, 1),
    (352, 1), (8249, 1), (346, 1), (356, 1), (381, 1), (377, 1), (144, 1), (8216, 2), (8220, 2),
    (8226, 1), (8211, 2), (152, 1), (8482, 1), (353, 1), (8250, 1), (347, 1), (357, 1), (382, 1),
    (378, 1), (160, 1), (711, 1), (728, 1), (321, 1), (164, 1), (260, 1), (166, 4), (350, 1),
    (171, 4), (379, 1), (176, 2), (731, 1), (322, 1), (180, 5), (261, 1), (351, 1), (187, 1),
    (317, 1), (733, 1), (318, 1), (380, 1), (340, 1), (193, 2), (258, 1), (196, 1), (313, 1),
    (262, 1), (199, 1), (268, 1), (201, 1), (280, 1), (203, 1), (282, 1), (205, 2), (270, 1),
    (272, 1), (323, 1), (327, 1), (211, 2), (336, 1), (214, 2), (344, 1), (366, 1), (218, 1),
    (368, 1), (220, 2), (354, 1), (223, 1), (341, 1), (225, 2), (259, 1), (228, 1), (314, 1),
    (263, 1), (231, 1), (269, 1), (233, 1), (281, 1), (235, 1), (283, 1), (237, 2), (271, 1),
    (273, 1), (324, 1), (328, 1), (243, 2), (337, 1), (246, 2), (345, 1), (367, 1), (250, 1),
    (369, 1), (252, 2), (355, 1), (729, 1)]

def windows1251 : SingleByteSet where
  labels := [
    "cp1251", "windows-1251", "x-cp1251"]
  runs := [
    (1026, 2), (8218, 1), (1107, 1), (8222, 1), (8230, 1), (8224, 2), (8364, 1), (8240, 1),
    (1033, 1), (8249, 1), (1034, 1), (1036, 1), (1035, 1), (1039, 1), (1106, 1), (8216, 2),
    (8220, 2), (8226, 1), (8211, 2), (152, 1), (8482, 1), (1113, 1), (8250, 1), (1114, 1),
    (1116, 1), (1115, 1), (1119, 1), (160, 1), (1038, 1), (1118, 1), (1032, 1), (164, 1), (1168, 1),
    (166, 2), (1025, 1), (169, 1), (1028, 1), (171, 4), (1031, 1), (176, 2), (1030, 1), (1110, 1),
    (1169, 1), (181, 3), (1105, 1), (8470, 1), (1108, 1), (187, 1), (1112, 1), (1029, 1), (1109, 1),
    (1111, 1), (1040, 64)]

def windows1252 : SingleByteSet where
  labels := [
    "ansi_x3.4-1968", "ascii", "cp1252", "cp819", "csisolatin1", "ibm819", "iso-8859-1",
    "iso-ir-100", "iso8859-1", "iso88591", "iso_8859-1", "iso_8859-1:1987", "l1", "latin1",
    "us-ascii", "windows-1252", "x-cp1252"]
  runs := [
    (8364, 1), (129, 1), (8218, 1), (402, 1), (8222, 1), (8230, 1), (8224, 2), (710, 1), (8240, 1),
    (352, 1), (8249, 1), (338, 1), (141, 1), (381, 1), (143, 2), (8216, 2), (8220, 2), (8226, 1),
    (8211, 2), (732, 1), (8482, 1), (353, 1), (8250, 1), (339, 1), (157, 1), (382, 1), (376, 1),
    (160, 96)]

def windows1253 : SingleByteSet where
  labels := [
    "cp1253", "windows-1253", "x-cp1253"]
  runs := [
    (8364, 1), (129, 1), (8218, 1), (402, 1), (8222, 1), (8230, 1), (8224, 2), (136, 1), (8240, 1),
    (138, 1), (8249, 1), (140, 5), (8216, 2), (8220, 2), (8226, 1), (8211, 2), (152, 1), (8482, 1),
    (154, 1), (8250, 1), (156, 5), (901, 2), (163, 7), (65533, 1), (171, 4), (8213, 1), (176, 4),
    (900, 1), (181, 3), (904, 3), (187, 1), (908, 1), (189, 1), (910, 20), (65533, 1), (931, 44),
    (65533, 1)]

def windows1254 : SingleByteSet where
  labels := [
    "cp1254", "csisolatin5", "iso-8859-9", "iso-ir-148", "iso8859-9", "iso88599", "iso_8859-9",
    "iso_8859-9:1989", "l5", "latin5", "windows-1254", "x-cp1254"]
  runs := [
    (8364, 1), (129, 1), (8218, 1), (402, 1), (8222, 1), (8230, 1), (8224, 2), (710, 1), (8240, 1),
    (352, 1), (8249, 1), (338, 1), (141, 4), (8216, 2), (8220, 2), (8226, 1), (8211, 2), (732, 1),
    (8482, 1), (353, 1), (8250, 1), (339, 1), (157, 2), (376, 1), (160, 48), (286, 1), (209, 12),
    (304, 1), (350, 1), (223, 17), (287, 1), (241, 12), (305, 1), (351, 1), (255, 1)]

def windows1255 : SingleByteSet where
  labels := [
    "cp1255", "windows-1255", "x-cp1255"]
  runs := [
    (8364, 1), (129, 1), (8218, 1), (402, 1), (8222, 1), (8230, 1), (8224, 2), (710, 1), (8240, 1),
    (138, 1), (8249, 1), (140, 5), (8216, 2), (8220, 2), (8226, 1), (8211, 2), (732, 1), (8482, 1),
    (154, 1), (8250, 1), (156, 8), (8362, 1), (165, 5), (215, 1), (171, 15), (247, 1), (187, 5),
    (1456, 20), (1520, 5), (65533, 1), (65533, 1), (65533, 1), (65533, 1), (65533, 1), (65533, 1),
    (65533, 1), (1488, 27), (65533, 1), (65533, 1), (8206, 2), (65533, 1)]

def windows1256 : SingleByteSet where
  labels := [
    "cp1256", "windows-1256", "x-cp1256"]
  runs := [
    (8364, 1), (1662, 1), (8218, 1), (402, 1), (8222, 1), (8230, 1), (8224, 2), (710, 1), (8240, 1),
    (1657, 1), (8249, 1), (338, 1), (1670, 1), (1688, 1), (1672, 1), (1711, 1), (8216, 2),
    (8220, 2), (8226, 1), (8211, 2), (1705, 1), (8482, 1), (1681, 1), (8250, 1), (339, 1),
    (8204, 2), (1722, 1), (160, 1), (1548, 1), (162, 8), (1726, 1), (171, 15), (1563, 1), (187, 4),
    (1567, 1), (1729, 1), (1569, 22), (215, 1), (1591, 4), (1600, 4), (224, 1), (1604, 1), (226, 1),
    (1605, 4), (231, 5), (1609, 2), (238, 2), (1611, 4), (244, 1), (1615, 2), (247, 1), (1617, 1),
    (249, 1), (1618, 1), (251, 2), (8206, 2), (1746, 1)]

def windows1257 : SingleByteSet where
  labels := [
    "cp1257", "windows-1257", "x-cp1257"]
  runs := [
    (8364, 1), (129, 1), (8218, 1), (131, 1), (8222, 1), (8230, 1), (8224, 2), (136, 1), (8240, 1),
    (138, 1), (8249, 1), (140, 1), (168, 1), (711, 1), (184, 1), (144, 1), (8216, 2), (8220, 2),
    (8226, 1), (8211, 2), (152, 1), (8482, 1), (154, 1), (8250, 1), (156, 1), (175, 1), (731, 1),
    (159, 2), (65533, 1), (162, 3), (65533, 1), (166, 2), (216, 1), (169, 1), (342, 1), (171, 4),
    (198, 1), (176, 8), (248, 1), (185, 1), (343, 1), (187, 4), (230, 1), (260, 1), (302, 1),
    (256, 1), (262, 1), (196, 2), (280, 1), (274, 1), (268, 1), (201, 1), (377, 1), (278, 1),
    (290, 1), (310, 1), (298, 1), (315, 1), (352, 1), (323, 1), (325, 1), (211, 1), (332, 1),
    (213, 3), (370, 1), (321, 1), (346, 1), (362, 1), (220, 1), (379, 1), (381, 1), (223, 1),
    (261, 1), (303, 1), (257, 1), (263, 1), (228, 2), (281, 1), (275, 1), (269, 1), (233, 1),
    (378, 1), (279, 1), (291, 1), (311, 1), (299, 1), (316, 1), (353, 1), (324, 1), (326, 1),
    (243, 1), (333, 1), (245, 3), (371, 1), (322, 1), (347, 1), (363, 1), (252, 1), (380, 1),
    (382, 1), (729, 1)]

def windows1258 : SingleByteSet where
  labels := [
    "cp1258", "windows-1258", "x-cp1258"]
  runs := [
    (8364, 1), (129, 1), (8218, 1), (402, 1), (8222, 1), (8230, 1), (8224, 2), (710, 1), (8240, 1),
    (138, 1), (8249, 1), (338, 1), (141, 4), (8216, 2), (8220, 2), (8226, 1), (8211, 2), (732, 1),
    (8482, 1), (154, 1), (8250, 1), (339, 1), (157, 2), (376, 1), (160, 35), (258, 1), (196, 8),
    (768, 1), (205, 3), (272, 1), (209, 1), (777, 1), (211, 2), (416, 1), (214, 7), (431, 1),
    (771, 1), (223, 4), (259, 1), (228, 8), (769, 1), (237, 3), (273, 1), (241, 1), (803, 1),
    (243, 2), (417, 1), (246, 7), (432, 1), (8363, 1), (255, 1)]

def all : List SingleByteSet := [
  ibm866, iso8859p2, iso8859p3, iso8859p4, iso8859p5, iso8859p6, iso8859p7, iso8859p8, iso8859p10,
  iso8859p13, iso8859p14, iso8859p15, iso8859p16, koi8r, koi8u, macintosh, macCyrillic, windows874,
  windows1250, windows1251, windows1252, windows1253, windows1254, windows1255, windows1256,
  windows1257, windows1258]

def upper (place : Nat) : List (Nat × Nat) → Nat
  | [] => 0xfffd
  | (start, count) :: rest => if place < count then start + place else upper (place - count) rest

def char (s : SingleByteSet) (b : UInt8) : Char :=
  Char.ofNat (if b < 0x80 then b.toNat else upper (b.toNat - 0x80) s.runs)

end SingleByteSet

end TopicGateway.Text
