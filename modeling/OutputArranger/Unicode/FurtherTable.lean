/-!
# Tables of further properties

Each property is the increasing list of the code points at which it begins or ceases to hold.
-/

namespace OutputArranger.Unicode

/-- Characters that change in upper case. -/
def uppercasingBounds : Array Nat := #[
  0x61, 0x7B, 0xB5, 0xB6, 0xDF, 0xF7, 0xF8, 0x100, 0x101, 0x102, 0x103, 0x104, 0x105, 0x106,
  0x107, 0x108, 0x109, 0x10A, 0x10B, 0x10C, 0x10D, 0x10E, 0x10F, 0x110, 0x111, 0x112, 0x113,
  0x114, 0x115, 0x116, 0x117, 0x118, 0x119, 0x11A, 0x11B, 0x11C, 0x11D, 0x11E, 0x11F, 0x120,
  0x121, 0x122, 0x123, 0x124, 0x125, 0x126, 0x127, 0x128, 0x129, 0x12A, 0x12B, 0x12C, 0x12D,
  0x12E, 0x12F, 0x130, 0x131, 0x132, 0x133, 0x134, 0x135, 0x136, 0x137, 0x138, 0x13A, 0x13B,
  0x13C, 0x13D, 0x13E, 0x13F, 0x140, 0x141, 0x142, 0x143, 0x144, 0x145, 0x146, 0x147, 0x148,
  0x14A, 0x14B, 0x14C, 0x14D, 0x14E, 0x14F, 0x150, 0x151, 0x152, 0x153, 0x154, 0x155, 0x156,
  0x157, 0x158, 0x159, 0x15A, 0x15B, 0x15C, 0x15D, 0x15E, 0x15F, 0x160, 0x161, 0x162, 0x163,
  0x164, 0x165, 0x166, 0x167, 0x168, 0x169, 0x16A, 0x16B, 0x16C, 0x16D, 0x16E, 0x16F, 0x170,
  0x171, 0x172, 0x173, 0x174, 0x175, 0x176, 0x177, 0x178, 0x17A, 0x17B, 0x17C, 0x17D, 0x17E,
  0x181, 0x183, 0x184, 0x185, 0x186, 0x188, 0x189, 0x18C, 0x18D, 0x192, 0x193, 0x195, 0x196,
  0x199, 0x19C, 0x19E, 0x19F, 0x1A1, 0x1A2, 0x1A3, 0x1A4, 0x1A5, 0x1A6, 0x1A8, 0x1A9, 0x1AD,
  0x1AE, 0x1B0, 0x1B1, 0x1B4, 0x1B5, 0x1B6, 0x1B7, 0x1B9, 0x1BA, 0x1BD, 0x1BE, 0x1BF, 0x1C0,
  0x1C5, 0x1C7, 0x1C8, 0x1CA, 0x1CB, 0x1CD, 0x1CE, 0x1CF, 0x1D0, 0x1D1, 0x1D2, 0x1D3, 0x1D4,
  0x1D5, 0x1D6, 0x1D7, 0x1D8, 0x1D9, 0x1DA, 0x1DB, 0x1DC, 0x1DE, 0x1DF, 0x1E0, 0x1E1, 0x1E2,
  0x1E3, 0x1E4, 0x1E5, 0x1E6, 0x1E7, 0x1E8, 0x1E9, 0x1EA, 0x1EB, 0x1EC, 0x1ED, 0x1EE, 0x1EF,
  0x1F1, 0x1F2, 0x1F4, 0x1F5, 0x1F6, 0x1F9, 0x1FA, 0x1FB, 0x1FC, 0x1FD, 0x1FE, 0x1FF, 0x200,
  0x201, 0x202, 0x203, 0x204, 0x205, 0x206, 0x207, 0x208, 0x209, 0x20A, 0x20B, 0x20C, 0x20D,
  0x20E, 0x20F, 0x210, 0x211, 0x212, 0x213, 0x214, 0x215, 0x216, 0x217, 0x218, 0x219, 0x21A,
  0x21B, 0x21C, 0x21D, 0x21E, 0x21F, 0x220, 0x223, 0x224, 0x225, 0x226, 0x227, 0x228, 0x229,
  0x22A, 0x22B, 0x22C, 0x22D, 0x22E, 0x22F, 0x230, 0x231, 0x232, 0x233, 0x234, 0x23C, 0x23D,
  0x23F, 0x241, 0x242, 0x243, 0x247, 0x248, 0x249, 0x24A, 0x24B, 0x24C, 0x24D, 0x24E, 0x24F,
  0x255, 0x256, 0x258, 0x259, 0x25A, 0x25B, 0x25D, 0x260, 0x262, 0x263, 0x267, 0x268, 0x26D,
  0x26F, 0x270, 0x271, 0x273, 0x275, 0x276, 0x27D, 0x27E, 0x280, 0x281, 0x282, 0x284, 0x287,
  0x28D, 0x292, 0x293, 0x29D, 0x29F, 0x345, 0x346, 0x371, 0x372, 0x373, 0x374, 0x377, 0x378,
  0x37B, 0x37E, 0x390, 0x391, 0x3AC, 0x3CF, 0x3D0, 0x3D2, 0x3D5, 0x3D8, 0x3D9, 0x3DA, 0x3DB,
  0x3DC, 0x3DD, 0x3DE, 0x3DF, 0x3E0, 0x3E1, 0x3E2, 0x3E3, 0x3E4, 0x3E5, 0x3E6, 0x3E7, 0x3E8,
  0x3E9, 0x3EA, 0x3EB, 0x3EC, 0x3ED, 0x3EE, 0x3EF, 0x3F4, 0x3F5, 0x3F6, 0x3F8, 0x3F9, 0x3FB,
  0x3FC, 0x430, 0x460, 0x461, 0x462, 0x463, 0x464, 0x465, 0x466, 0x467, 0x468, 0x469, 0x46A,
  0x46B, 0x46C, 0x46D, 0x46E, 0x46F, 0x470, 0x471, 0x472, 0x473, 0x474, 0x475, 0x476, 0x477,
  0x478, 0x479, 0x47A, 0x47B, 0x47C, 0x47D, 0x47E, 0x47F, 0x480, 0x481, 0x482, 0x48B, 0x48C,
  0x48D, 0x48E, 0x48F, 0x490, 0x491, 0x492, 0x493, 0x494, 0x495, 0x496, 0x497, 0x498, 0x499,
  0x49A, 0x49B, 0x49C, 0x49D, 0x49E, 0x49F, 0x4A0, 0x4A1, 0x4A2, 0x4A3, 0x4A4, 0x4A5, 0x4A6,
  0x4A7, 0x4A8, 0x4A9, 0x4AA, 0x4AB, 0x4AC, 0x4AD, 0x4AE, 0x4AF, 0x4B0, 0x4B1, 0x4B2, 0x4B3,
  0x4B4, 0x4B5, 0x4B6, 0x4B7, 0x4B8, 0x4B9, 0x4BA, 0x4BB, 0x4BC, 0x4BD, 0x4BE, 0x4BF, 0x4C0,
  0x4C2, 0x4C3, 0x4C4, 0x4C5, 0x4C6, 0x4C7, 0x4C8, 0x4C9, 0x4CA, 0x4CB, 0x4CC, 0x4CD, 0x4CE,
  0x4D0, 0x4D1, 0x4D2, 0x4D3, 0x4D4, 0x4D5, 0x4D6, 0x4D7, 0x4D8, 0x4D9, 0x4DA, 0x4DB, 0x4DC,
  0x4DD, 0x4DE, 0x4DF, 0x4E0, 0x4E1, 0x4E2, 0x4E3, 0x4E4, 0x4E5, 0x4E6, 0x4E7, 0x4E8, 0x4E9,
  0x4EA, 0x4EB, 0x4EC, 0x4ED, 0x4EE, 0x4EF, 0x4F0, 0x4F1, 0x4F2, 0x4F3, 0x4F4, 0x4F5, 0x4F6,
  0x4F7, 0x4F8, 0x4F9, 0x4FA, 0x4FB, 0x4FC, 0x4FD, 0x4FE, 0x4FF, 0x500, 0x501, 0x502, 0x503,
  0x504, 0x505, 0x506, 0x507, 0x508, 0x509, 0x50A, 0x50B, 0x50C, 0x50D, 0x50E, 0x50F, 0x510,
  0x511, 0x512, 0x513, 0x514, 0x515, 0x516, 0x517, 0x518, 0x519, 0x51A, 0x51B, 0x51C, 0x51D,
  0x51E, 0x51F, 0x520, 0x521, 0x522, 0x523, 0x524, 0x525, 0x526, 0x527, 0x528, 0x529, 0x52A,
  0x52B, 0x52C, 0x52D, 0x52E, 0x52F, 0x530, 0x561, 0x588, 0x10D0, 0x10FB, 0x10FD, 0x1100, 0x13F8,
  0x13FE, 0x1C80, 0x1C89, 0x1C8A, 0x1C8B, 0x1D79, 0x1D7A, 0x1D7D, 0x1D7E, 0x1D8E, 0x1D8F, 0x1E01,
  0x1E02, 0x1E03, 0x1E04, 0x1E05, 0x1E06, 0x1E07, 0x1E08, 0x1E09, 0x1E0A, 0x1E0B, 0x1E0C, 0x1E0D,
  0x1E0E, 0x1E0F, 0x1E10, 0x1E11, 0x1E12, 0x1E13, 0x1E14, 0x1E15, 0x1E16, 0x1E17, 0x1E18, 0x1E19,
  0x1E1A, 0x1E1B, 0x1E1C, 0x1E1D, 0x1E1E, 0x1E1F, 0x1E20, 0x1E21, 0x1E22, 0x1E23, 0x1E24, 0x1E25,
  0x1E26, 0x1E27, 0x1E28, 0x1E29, 0x1E2A, 0x1E2B, 0x1E2C, 0x1E2D, 0x1E2E, 0x1E2F, 0x1E30, 0x1E31,
  0x1E32, 0x1E33, 0x1E34, 0x1E35, 0x1E36, 0x1E37, 0x1E38, 0x1E39, 0x1E3A, 0x1E3B, 0x1E3C, 0x1E3D,
  0x1E3E, 0x1E3F, 0x1E40, 0x1E41, 0x1E42, 0x1E43, 0x1E44, 0x1E45, 0x1E46, 0x1E47, 0x1E48, 0x1E49,
  0x1E4A, 0x1E4B, 0x1E4C, 0x1E4D, 0x1E4E, 0x1E4F, 0x1E50, 0x1E51, 0x1E52, 0x1E53, 0x1E54, 0x1E55,
  0x1E56, 0x1E57, 0x1E58, 0x1E59, 0x1E5A, 0x1E5B, 0x1E5C, 0x1E5D, 0x1E5E, 0x1E5F, 0x1E60, 0x1E61,
  0x1E62, 0x1E63, 0x1E64, 0x1E65, 0x1E66, 0x1E67, 0x1E68, 0x1E69, 0x1E6A, 0x1E6B, 0x1E6C, 0x1E6D,
  0x1E6E, 0x1E6F, 0x1E70, 0x1E71, 0x1E72, 0x1E73, 0x1E74, 0x1E75, 0x1E76, 0x1E77, 0x1E78, 0x1E79,
  0x1E7A, 0x1E7B, 0x1E7C, 0x1E7D, 0x1E7E, 0x1E7F, 0x1E80, 0x1E81, 0x1E82, 0x1E83, 0x1E84, 0x1E85,
  0x1E86, 0x1E87, 0x1E88, 0x1E89, 0x1E8A, 0x1E8B, 0x1E8C, 0x1E8D, 0x1E8E, 0x1E8F, 0x1E90, 0x1E91,
  0x1E92, 0x1E93, 0x1E94, 0x1E95, 0x1E9C, 0x1EA1, 0x1EA2, 0x1EA3, 0x1EA4, 0x1EA5, 0x1EA6, 0x1EA7,
  0x1EA8, 0x1EA9, 0x1EAA, 0x1EAB, 0x1EAC, 0x1EAD, 0x1EAE, 0x1EAF, 0x1EB0, 0x1EB1, 0x1EB2, 0x1EB3,
  0x1EB4, 0x1EB5, 0x1EB6, 0x1EB7, 0x1EB8, 0x1EB9, 0x1EBA, 0x1EBB, 0x1EBC, 0x1EBD, 0x1EBE, 0x1EBF,
  0x1EC0, 0x1EC1, 0x1EC2, 0x1EC3, 0x1EC4, 0x1EC5, 0x1EC6, 0x1EC7, 0x1EC8, 0x1EC9, 0x1ECA, 0x1ECB,
  0x1ECC, 0x1ECD, 0x1ECE, 0x1ECF, 0x1ED0, 0x1ED1, 0x1ED2, 0x1ED3, 0x1ED4, 0x1ED5, 0x1ED6, 0x1ED7,
  0x1ED8, 0x1ED9, 0x1EDA, 0x1EDB, 0x1EDC, 0x1EDD, 0x1EDE, 0x1EDF, 0x1EE0, 0x1EE1, 0x1EE2, 0x1EE3,
  0x1EE4, 0x1EE5, 0x1EE6, 0x1EE7, 0x1EE8, 0x1EE9, 0x1EEA, 0x1EEB, 0x1EEC, 0x1EED, 0x1EEE, 0x1EEF,
  0x1EF0, 0x1EF1, 0x1EF2, 0x1EF3, 0x1EF4, 0x1EF5, 0x1EF6, 0x1EF7, 0x1EF8, 0x1EF9, 0x1EFA, 0x1EFB,
  0x1EFC, 0x1EFD, 0x1EFE, 0x1EFF, 0x1F08, 0x1F10, 0x1F16, 0x1F20, 0x1F28, 0x1F30, 0x1F38, 0x1F40,
  0x1F46, 0x1F50, 0x1F58, 0x1F60, 0x1F68, 0x1F70, 0x1F7E, 0x1F80, 0x1FB5, 0x1FB6, 0x1FB8, 0x1FBC,
  0x1FBD, 0x1FBE, 0x1FBF, 0x1FC2, 0x1FC5, 0x1FC6, 0x1FC8, 0x1FCC, 0x1FCD, 0x1FD0, 0x1FD4, 0x1FD6,
  0x1FD8, 0x1FE0, 0x1FE8, 0x1FF2, 0x1FF5, 0x1FF6, 0x1FF8, 0x1FFC, 0x1FFD, 0x214E, 0x214F, 0x2170,
  0x2180, 0x2184, 0x2185, 0x24D0, 0x24EA, 0x2C30, 0x2C60, 0x2C61, 0x2C62, 0x2C65, 0x2C67, 0x2C68,
  0x2C69, 0x2C6A, 0x2C6B, 0x2C6C, 0x2C6D, 0x2C73, 0x2C74, 0x2C76, 0x2C77, 0x2C81, 0x2C82, 0x2C83,
  0x2C84, 0x2C85, 0x2C86, 0x2C87, 0x2C88, 0x2C89, 0x2C8A, 0x2C8B, 0x2C8C, 0x2C8D, 0x2C8E, 0x2C8F,
  0x2C90, 0x2C91, 0x2C92, 0x2C93, 0x2C94, 0x2C95, 0x2C96, 0x2C97, 0x2C98, 0x2C99, 0x2C9A, 0x2C9B,
  0x2C9C, 0x2C9D, 0x2C9E, 0x2C9F, 0x2CA0, 0x2CA1, 0x2CA2, 0x2CA3, 0x2CA4, 0x2CA5, 0x2CA6, 0x2CA7,
  0x2CA8, 0x2CA9, 0x2CAA, 0x2CAB, 0x2CAC, 0x2CAD, 0x2CAE, 0x2CAF, 0x2CB0, 0x2CB1, 0x2CB2, 0x2CB3,
  0x2CB4, 0x2CB5, 0x2CB6, 0x2CB7, 0x2CB8, 0x2CB9, 0x2CBA, 0x2CBB, 0x2CBC, 0x2CBD, 0x2CBE, 0x2CBF,
  0x2CC0, 0x2CC1, 0x2CC2, 0x2CC3, 0x2CC4, 0x2CC5, 0x2CC6, 0x2CC7, 0x2CC8, 0x2CC9, 0x2CCA, 0x2CCB,
  0x2CCC, 0x2CCD, 0x2CCE, 0x2CCF, 0x2CD0, 0x2CD1, 0x2CD2, 0x2CD3, 0x2CD4, 0x2CD5, 0x2CD6, 0x2CD7,
  0x2CD8, 0x2CD9, 0x2CDA, 0x2CDB, 0x2CDC, 0x2CDD, 0x2CDE, 0x2CDF, 0x2CE0, 0x2CE1, 0x2CE2, 0x2CE3,
  0x2CE4, 0x2CEC, 0x2CED, 0x2CEE, 0x2CEF, 0x2CF3, 0x2CF4, 0x2D00, 0x2D26, 0x2D27, 0x2D28, 0x2D2D,
  0x2D2E, 0xA641, 0xA642, 0xA643, 0xA644, 0xA645, 0xA646, 0xA647, 0xA648, 0xA649, 0xA64A, 0xA64B,
  0xA64C, 0xA64D, 0xA64E, 0xA64F, 0xA650, 0xA651, 0xA652, 0xA653, 0xA654, 0xA655, 0xA656, 0xA657,
  0xA658, 0xA659, 0xA65A, 0xA65B, 0xA65C, 0xA65D, 0xA65E, 0xA65F, 0xA660, 0xA661, 0xA662, 0xA663,
  0xA664, 0xA665, 0xA666, 0xA667, 0xA668, 0xA669, 0xA66A, 0xA66B, 0xA66C, 0xA66D, 0xA66E, 0xA681,
  0xA682, 0xA683, 0xA684, 0xA685, 0xA686, 0xA687, 0xA688, 0xA689, 0xA68A, 0xA68B, 0xA68C, 0xA68D,
  0xA68E, 0xA68F, 0xA690, 0xA691, 0xA692, 0xA693, 0xA694, 0xA695, 0xA696, 0xA697, 0xA698, 0xA699,
  0xA69A, 0xA69B, 0xA69C, 0xA723, 0xA724, 0xA725, 0xA726, 0xA727, 0xA728, 0xA729, 0xA72A, 0xA72B,
  0xA72C, 0xA72D, 0xA72E, 0xA72F, 0xA730, 0xA733, 0xA734, 0xA735, 0xA736, 0xA737, 0xA738, 0xA739,
  0xA73A, 0xA73B, 0xA73C, 0xA73D, 0xA73E, 0xA73F, 0xA740, 0xA741, 0xA742, 0xA743, 0xA744, 0xA745,
  0xA746, 0xA747, 0xA748, 0xA749, 0xA74A, 0xA74B, 0xA74C, 0xA74D, 0xA74E, 0xA74F, 0xA750, 0xA751,
  0xA752, 0xA753, 0xA754, 0xA755, 0xA756, 0xA757, 0xA758, 0xA759, 0xA75A, 0xA75B, 0xA75C, 0xA75D,
  0xA75E, 0xA75F, 0xA760, 0xA761, 0xA762, 0xA763, 0xA764, 0xA765, 0xA766, 0xA767, 0xA768, 0xA769,
  0xA76A, 0xA76B, 0xA76C, 0xA76D, 0xA76E, 0xA76F, 0xA770, 0xA77A, 0xA77B, 0xA77C, 0xA77D, 0xA77F,
  0xA780, 0xA781, 0xA782, 0xA783, 0xA784, 0xA785, 0xA786, 0xA787, 0xA788, 0xA78C, 0xA78D, 0xA791,
  0xA792, 0xA793, 0xA795, 0xA797, 0xA798, 0xA799, 0xA79A, 0xA79B, 0xA79C, 0xA79D, 0xA79E, 0xA79F,
  0xA7A0, 0xA7A1, 0xA7A2, 0xA7A3, 0xA7A4, 0xA7A5, 0xA7A6, 0xA7A7, 0xA7A8, 0xA7A9, 0xA7AA, 0xA7B5,
  0xA7B6, 0xA7B7, 0xA7B8, 0xA7B9, 0xA7BA, 0xA7BB, 0xA7BC, 0xA7BD, 0xA7BE, 0xA7BF, 0xA7C0, 0xA7C1,
  0xA7C2, 0xA7C3, 0xA7C4, 0xA7C8, 0xA7C9, 0xA7CA, 0xA7CB, 0xA7CD, 0xA7CE, 0xA7D1, 0xA7D2, 0xA7D7,
  0xA7D8, 0xA7D9, 0xA7DA, 0xA7DB, 0xA7DC, 0xA7F6, 0xA7F7, 0xAB53, 0xAB54, 0xAB70, 0xABC0, 0xFB00,
  0xFB07, 0xFB13, 0xFB18, 0xFF41, 0xFF5B, 0x10428, 0x10450, 0x104D8, 0x104FC, 0x10597, 0x105A2,
  0x105A3, 0x105B2, 0x105B3, 0x105BA, 0x105BB, 0x105BD, 0x10CC0, 0x10CF3, 0x10D70, 0x10D86,
  0x118C0, 0x118E0, 0x16E60, 0x16E80, 0x1E922, 0x1E944]

/-- Dashes. -/
def dashBounds : Array Nat := #[
  0x2D, 0x2E, 0x58A, 0x58B, 0x5BE, 0x5BF, 0x1400, 0x1401, 0x1806, 0x1807, 0x2010, 0x2016, 0x2053,
  0x2054, 0x207B, 0x207C, 0x208B, 0x208C, 0x2212, 0x2213, 0x2E17, 0x2E18, 0x2E1A, 0x2E1B, 0x2E3A,
  0x2E3C, 0x2E40, 0x2E41, 0x2E5D, 0x2E5E, 0x301C, 0x301D, 0x3030, 0x3031, 0x30A0, 0x30A1, 0xFE31,
  0xFE33, 0xFE58, 0xFE59, 0xFE63, 0xFE64, 0xFF0D, 0xFF0E, 0x10D6E, 0x10D6F, 0x10EAD, 0x10EAE]

/-- Marks that change the sound or the sense of a character. -/
def diacriticBounds : Array Nat := #[
  0x5E, 0x5F, 0x60, 0x61, 0xA8, 0xA9, 0xAF, 0xB0, 0xB4, 0xB5, 0xB7, 0xB9, 0x2B0, 0x34F, 0x350,
  0x358, 0x35D, 0x363, 0x374, 0x376, 0x37A, 0x37B, 0x384, 0x386, 0x483, 0x488, 0x559, 0x55A,
  0x591, 0x5BE, 0x5BF, 0x5C0, 0x5C1, 0x5C3, 0x5C4, 0x5C6, 0x5C7, 0x5C8, 0x64B, 0x653, 0x657,
  0x659, 0x6DF, 0x6E1, 0x6E5, 0x6E7, 0x6EA, 0x6ED, 0x730, 0x74B, 0x7A6, 0x7B1, 0x7EB, 0x7F6,
  0x818, 0x81A, 0x898, 0x8A0, 0x8C9, 0x8D3, 0x8E3, 0x8FF, 0x93C, 0x93D, 0x94D, 0x94E, 0x951,
  0x955, 0x971, 0x972, 0x9BC, 0x9BD, 0x9CD, 0x9CE, 0xA3C, 0xA3D, 0xA4D, 0xA4E, 0xABC, 0xABD,
  0xACD, 0xACE, 0xAFD, 0xB00, 0xB3C, 0xB3D, 0xB4D, 0xB4E, 0xB55, 0xB56, 0xBCD, 0xBCE, 0xC3C,
  0xC3D, 0xC4D, 0xC4E, 0xCBC, 0xCBD, 0xCCD, 0xCCE, 0xD3B, 0xD3D, 0xD4D, 0xD4E, 0xDCA, 0xDCB,
  0xE3A, 0xE3B, 0xE47, 0xE4D, 0xE4E, 0xE4F, 0xEBA, 0xEBB, 0xEC8, 0xECD, 0xF18, 0xF1A, 0xF35,
  0xF36, 0xF37, 0xF38, 0xF39, 0xF3A, 0xF3E, 0xF40, 0xF82, 0xF85, 0xF86, 0xF88, 0xFC6, 0xFC7,
  0x1037, 0x1038, 0x1039, 0x103B, 0x1063, 0x1065, 0x1069, 0x106E, 0x1087, 0x108E, 0x108F, 0x1090,
  0x109A, 0x109C, 0x135D, 0x1360, 0x1714, 0x1716, 0x1734, 0x1735, 0x17C9, 0x17D4, 0x17DD, 0x17DE,
  0x1939, 0x193C, 0x1A60, 0x1A61, 0x1A75, 0x1A7D, 0x1A7F, 0x1A80, 0x1AB0, 0x1ABF, 0x1AC1, 0x1ACC,
  0x1B34, 0x1B35, 0x1B44, 0x1B45, 0x1B6B, 0x1B74, 0x1BAA, 0x1BAC, 0x1BE6, 0x1BE7, 0x1BF2, 0x1BF4,
  0x1C36, 0x1C38, 0x1C78, 0x1C7E, 0x1CD0, 0x1CE9, 0x1CED, 0x1CEE, 0x1CF4, 0x1CF5, 0x1CF7, 0x1CFA,
  0x1D2C, 0x1D6B, 0x1D9B, 0x1DBF, 0x1DC4, 0x1DD0, 0x1DF5, 0x1E00, 0x1FBD, 0x1FBE, 0x1FBF, 0x1FC2,
  0x1FCD, 0x1FD0, 0x1FDD, 0x1FE0, 0x1FED, 0x1FF0, 0x1FFD, 0x1FFF, 0x2CEF, 0x2CF2, 0x2E2F, 0x2E30,
  0x302A, 0x3030, 0x3099, 0x309D, 0x30FC, 0x30FD, 0xA66F, 0xA670, 0xA67C, 0xA67E, 0xA67F, 0xA680,
  0xA69C, 0xA69E, 0xA6F0, 0xA6F2, 0xA700, 0xA722, 0xA788, 0xA78B, 0xA7F8, 0xA7FA, 0xA806, 0xA807,
  0xA82C, 0xA82D, 0xA8C4, 0xA8C5, 0xA8E0, 0xA8F2, 0xA92B, 0xA92F, 0xA953, 0xA954, 0xA9B3, 0xA9B4,
  0xA9C0, 0xA9C1, 0xA9E5, 0xA9E6, 0xAA7B, 0xAA7E, 0xAABF, 0xAAC3, 0xAAF6, 0xAAF7, 0xAB5B, 0xAB60,
  0xAB69, 0xAB6C, 0xABEC, 0xABEE, 0xFB1E, 0xFB1F, 0xFE20, 0xFE30, 0xFF3E, 0xFF3F, 0xFF40, 0xFF41,
  0xFF70, 0xFF71, 0xFF9E, 0xFFA0, 0xFFE3, 0xFFE4, 0x102E0, 0x102E1, 0x10780, 0x10786, 0x10787,
  0x107B1, 0x107B2, 0x107BB, 0x10A38, 0x10A3B, 0x10A3F, 0x10A40, 0x10AE5, 0x10AE7, 0x10D22,
  0x10D28, 0x10D4E, 0x10D4F, 0x10D69, 0x10D6E, 0x10EFD, 0x10F00, 0x10F46, 0x10F51, 0x10F82,
  0x10F86, 0x11046, 0x11047, 0x11070, 0x11071, 0x110B9, 0x110BB, 0x11133, 0x11135, 0x11173,
  0x11174, 0x111C0, 0x111C1, 0x111CA, 0x111CD, 0x11235, 0x11237, 0x112E9, 0x112EB, 0x1133B,
  0x1133D, 0x1134D, 0x1134E, 0x11366, 0x1136D, 0x11370, 0x11375, 0x113CE, 0x113D1, 0x113D2,
  0x113D4, 0x113E1, 0x113E3, 0x11442, 0x11443, 0x11446, 0x11447, 0x114C2, 0x114C4, 0x115BF,
  0x115C1, 0x1163F, 0x11640, 0x116B6, 0x116B8, 0x1172B, 0x1172C, 0x11839, 0x1183B, 0x1193D,
  0x1193F, 0x11943, 0x11944, 0x119E0, 0x119E1, 0x11A34, 0x11A35, 0x11A47, 0x11A48, 0x11A99,
  0x11A9A, 0x11C3F, 0x11C40, 0x11D42, 0x11D43, 0x11D44, 0x11D46, 0x11D97, 0x11D98, 0x11F41,
  0x11F43, 0x11F5A, 0x11F5B, 0x13447, 0x13456, 0x1612F, 0x16130, 0x16AF0, 0x16AF5, 0x16B30,
  0x16B37, 0x16D6B, 0x16D6D, 0x16F8F, 0x16FA0, 0x16FF0, 0x16FF2, 0x1AFF0, 0x1AFF4, 0x1AFF5,
  0x1AFFC, 0x1AFFD, 0x1AFFF, 0x1CF00, 0x1CF2E, 0x1CF30, 0x1CF47, 0x1D167, 0x1D16A, 0x1D16D,
  0x1D173, 0x1D17B, 0x1D183, 0x1D185, 0x1D18C, 0x1D1AA, 0x1D1AE, 0x1E030, 0x1E06E, 0x1E130,
  0x1E137, 0x1E2AE, 0x1E2AF, 0x1E2EC, 0x1E2F0, 0x1E5EE, 0x1E5F0, 0x1E8D0, 0x1E8D7, 0x1E944,
  0x1E947, 0x1E948, 0x1E94B]

/-- Emoji. -/
def emojiBounds : Array Nat := #[
  0x23, 0x24, 0x2A, 0x2B, 0x30, 0x3A, 0xA9, 0xAA, 0xAE, 0xAF, 0x203C, 0x203D, 0x2049, 0x204A,
  0x2122, 0x2123, 0x2139, 0x213A, 0x2194, 0x219A, 0x21A9, 0x21AB, 0x231A, 0x231C, 0x2328, 0x2329,
  0x23CF, 0x23D0, 0x23E9, 0x23F4, 0x23F8, 0x23FB, 0x24C2, 0x24C3, 0x25AA, 0x25AC, 0x25B6, 0x25B7,
  0x25C0, 0x25C1, 0x25FB, 0x25FF, 0x2600, 0x2605, 0x260E, 0x260F, 0x2611, 0x2612, 0x2614, 0x2616,
  0x2618, 0x2619, 0x261D, 0x261E, 0x2620, 0x2621, 0x2622, 0x2624, 0x2626, 0x2627, 0x262A, 0x262B,
  0x262E, 0x2630, 0x2638, 0x263B, 0x2640, 0x2641, 0x2642, 0x2643, 0x2648, 0x2654, 0x265F, 0x2661,
  0x2663, 0x2664, 0x2665, 0x2667, 0x2668, 0x2669, 0x267B, 0x267C, 0x267E, 0x2680, 0x2692, 0x2698,
  0x2699, 0x269A, 0x269B, 0x269D, 0x26A0, 0x26A2, 0x26A7, 0x26A8, 0x26AA, 0x26AC, 0x26B0, 0x26B2,
  0x26BD, 0x26BF, 0x26C4, 0x26C6, 0x26C8, 0x26C9, 0x26CE, 0x26D0, 0x26D1, 0x26D2, 0x26D3, 0x26D5,
  0x26E9, 0x26EB, 0x26F0, 0x26F6, 0x26F7, 0x26FB, 0x26FD, 0x26FE, 0x2702, 0x2703, 0x2705, 0x2706,
  0x2708, 0x270E, 0x270F, 0x2710, 0x2712, 0x2713, 0x2714, 0x2715, 0x2716, 0x2717, 0x271D, 0x271E,
  0x2721, 0x2722, 0x2728, 0x2729, 0x2733, 0x2735, 0x2744, 0x2745, 0x2747, 0x2748, 0x274C, 0x274D,
  0x274E, 0x274F, 0x2753, 0x2756, 0x2757, 0x2758, 0x2763, 0x2765, 0x2795, 0x2798, 0x27A1, 0x27A2,
  0x27B0, 0x27B1, 0x27BF, 0x27C0, 0x2934, 0x2936, 0x2B05, 0x2B08, 0x2B1B, 0x2B1D, 0x2B50, 0x2B51,
  0x2B55, 0x2B56, 0x3030, 0x3031, 0x303D, 0x303E, 0x3297, 0x3298, 0x3299, 0x329A, 0x1F004,
  0x1F005, 0x1F0CF, 0x1F0D0, 0x1F170, 0x1F172, 0x1F17E, 0x1F180, 0x1F18E, 0x1F18F, 0x1F191,
  0x1F19B, 0x1F1E6, 0x1F200, 0x1F201, 0x1F203, 0x1F21A, 0x1F21B, 0x1F22F, 0x1F230, 0x1F232,
  0x1F23B, 0x1F250, 0x1F252, 0x1F300, 0x1F322, 0x1F324, 0x1F394, 0x1F396, 0x1F398, 0x1F399,
  0x1F39C, 0x1F39E, 0x1F3F1, 0x1F3F3, 0x1F3F6, 0x1F3F7, 0x1F4FE, 0x1F4FF, 0x1F53E, 0x1F549,
  0x1F54F, 0x1F550, 0x1F568, 0x1F56F, 0x1F571, 0x1F573, 0x1F57B, 0x1F587, 0x1F588, 0x1F58A,
  0x1F58E, 0x1F590, 0x1F591, 0x1F595, 0x1F597, 0x1F5A4, 0x1F5A6, 0x1F5A8, 0x1F5A9, 0x1F5B1,
  0x1F5B3, 0x1F5BC, 0x1F5BD, 0x1F5C2, 0x1F5C5, 0x1F5D1, 0x1F5D4, 0x1F5DC, 0x1F5DF, 0x1F5E1,
  0x1F5E2, 0x1F5E3, 0x1F5E4, 0x1F5E8, 0x1F5E9, 0x1F5EF, 0x1F5F0, 0x1F5F3, 0x1F5F4, 0x1F5FA,
  0x1F650, 0x1F680, 0x1F6C6, 0x1F6CB, 0x1F6D3, 0x1F6D5, 0x1F6D8, 0x1F6DC, 0x1F6E6, 0x1F6E9,
  0x1F6EA, 0x1F6EB, 0x1F6ED, 0x1F6F0, 0x1F6F1, 0x1F6F3, 0x1F6FD, 0x1F7E0, 0x1F7EC, 0x1F7F0,
  0x1F7F1, 0x1F90C, 0x1F93B, 0x1F93C, 0x1F946, 0x1F947, 0x1FA00, 0x1FA70, 0x1FA7D, 0x1FA80,
  0x1FA8A, 0x1FA8F, 0x1FAC7, 0x1FACE, 0x1FADD, 0x1FADF, 0x1FAEA, 0x1FAF0, 0x1FAF9]

/-- Emoji whose skin tone can be changed. -/
def emojiBaseBounds : Array Nat := #[
  0x261D, 0x261E, 0x26F9, 0x26FA, 0x270A, 0x270E, 0x1F385, 0x1F386, 0x1F3C2, 0x1F3C5, 0x1F3C7,
  0x1F3C8, 0x1F3CA, 0x1F3CD, 0x1F442, 0x1F444, 0x1F446, 0x1F451, 0x1F466, 0x1F479, 0x1F47C,
  0x1F47D, 0x1F481, 0x1F484, 0x1F485, 0x1F488, 0x1F48F, 0x1F490, 0x1F491, 0x1F492, 0x1F4AA,
  0x1F4AB, 0x1F574, 0x1F576, 0x1F57A, 0x1F57B, 0x1F590, 0x1F591, 0x1F595, 0x1F597, 0x1F645,
  0x1F648, 0x1F64B, 0x1F650, 0x1F6A3, 0x1F6A4, 0x1F6B4, 0x1F6B7, 0x1F6C0, 0x1F6C1, 0x1F6CC,
  0x1F6CD, 0x1F90C, 0x1F90D, 0x1F90F, 0x1F910, 0x1F918, 0x1F920, 0x1F926, 0x1F927, 0x1F930,
  0x1F93A, 0x1F93C, 0x1F93F, 0x1F977, 0x1F978, 0x1F9B5, 0x1F9B7, 0x1F9B8, 0x1F9BA, 0x1F9BB,
  0x1F9BC, 0x1F9CD, 0x1F9D0, 0x1F9D1, 0x1F9DE, 0x1FAC3, 0x1FAC6, 0x1FAF0, 0x1FAF9]

/-- Emoji that are pictures unless it is said otherwise. -/
def emojiShownBounds : Array Nat := #[
  0x231A, 0x231C, 0x23E9, 0x23ED, 0x23F0, 0x23F1, 0x23F3, 0x23F4, 0x25FD, 0x25FF, 0x2614, 0x2616,
  0x2648, 0x2654, 0x267F, 0x2680, 0x2693, 0x2694, 0x26A1, 0x26A2, 0x26AA, 0x26AC, 0x26BD, 0x26BF,
  0x26C4, 0x26C6, 0x26CE, 0x26CF, 0x26D4, 0x26D5, 0x26EA, 0x26EB, 0x26F2, 0x26F4, 0x26F5, 0x26F6,
  0x26FA, 0x26FB, 0x26FD, 0x26FE, 0x2705, 0x2706, 0x270A, 0x270C, 0x2728, 0x2729, 0x274C, 0x274D,
  0x274E, 0x274F, 0x2753, 0x2756, 0x2757, 0x2758, 0x2795, 0x2798, 0x27B0, 0x27B1, 0x27BF, 0x27C0,
  0x2B1B, 0x2B1D, 0x2B50, 0x2B51, 0x2B55, 0x2B56, 0x1F004, 0x1F005, 0x1F0CF, 0x1F0D0, 0x1F18E,
  0x1F18F, 0x1F191, 0x1F19B, 0x1F1E6, 0x1F200, 0x1F201, 0x1F202, 0x1F21A, 0x1F21B, 0x1F22F,
  0x1F230, 0x1F232, 0x1F237, 0x1F238, 0x1F23B, 0x1F250, 0x1F252, 0x1F300, 0x1F321, 0x1F32D,
  0x1F336, 0x1F337, 0x1F37D, 0x1F37E, 0x1F394, 0x1F3A0, 0x1F3CB, 0x1F3CF, 0x1F3D4, 0x1F3E0,
  0x1F3F1, 0x1F3F4, 0x1F3F5, 0x1F3F8, 0x1F43F, 0x1F440, 0x1F441, 0x1F442, 0x1F4FD, 0x1F4FF,
  0x1F53E, 0x1F54B, 0x1F54F, 0x1F550, 0x1F568, 0x1F57A, 0x1F57B, 0x1F595, 0x1F597, 0x1F5A4,
  0x1F5A5, 0x1F5FB, 0x1F650, 0x1F680, 0x1F6C6, 0x1F6CC, 0x1F6CD, 0x1F6D0, 0x1F6D3, 0x1F6D5,
  0x1F6D8, 0x1F6DC, 0x1F6E0, 0x1F6EB, 0x1F6ED, 0x1F6F4, 0x1F6FD, 0x1F7E0, 0x1F7EC, 0x1F7F0,
  0x1F7F1, 0x1F90C, 0x1F93B, 0x1F93C, 0x1F946, 0x1F947, 0x1FA00, 0x1FA70, 0x1FA7D, 0x1FA80,
  0x1FA8A, 0x1FA8F, 0x1FAC7, 0x1FACE, 0x1FADD, 0x1FADF, 0x1FAEA, 0x1FAF0, 0x1FAF9]

/-- Pictographs, reserved ones included. -/
def pictographBounds : Array Nat := #[
  0xA9, 0xAA, 0xAE, 0xAF, 0x203C, 0x203D, 0x2049, 0x204A, 0x2122, 0x2123, 0x2139, 0x213A, 0x2194,
  0x219A, 0x21A9, 0x21AB, 0x231A, 0x231C, 0x2328, 0x2329, 0x2388, 0x2389, 0x23CF, 0x23D0, 0x23E9,
  0x23F4, 0x23F8, 0x23FB, 0x24C2, 0x24C3, 0x25AA, 0x25AC, 0x25B6, 0x25B7, 0x25C0, 0x25C1, 0x25FB,
  0x25FF, 0x2600, 0x2606, 0x2607, 0x2613, 0x2614, 0x2686, 0x2690, 0x2706, 0x2708, 0x2713, 0x2714,
  0x2715, 0x2716, 0x2717, 0x271D, 0x271E, 0x2721, 0x2722, 0x2728, 0x2729, 0x2733, 0x2735, 0x2744,
  0x2745, 0x2747, 0x2748, 0x274C, 0x274D, 0x274E, 0x274F, 0x2753, 0x2756, 0x2757, 0x2758, 0x2763,
  0x2768, 0x2795, 0x2798, 0x27A1, 0x27A2, 0x27B0, 0x27B1, 0x27BF, 0x27C0, 0x2934, 0x2936, 0x2B05,
  0x2B08, 0x2B1B, 0x2B1D, 0x2B50, 0x2B51, 0x2B55, 0x2B56, 0x3030, 0x3031, 0x303D, 0x303E, 0x3297,
  0x3298, 0x3299, 0x329A, 0x1F000, 0x1F100, 0x1F10D, 0x1F110, 0x1F12F, 0x1F130, 0x1F16C, 0x1F172,
  0x1F17E, 0x1F180, 0x1F18E, 0x1F18F, 0x1F191, 0x1F19B, 0x1F1AD, 0x1F1E6, 0x1F201, 0x1F210,
  0x1F21A, 0x1F21B, 0x1F22F, 0x1F230, 0x1F232, 0x1F23B, 0x1F23C, 0x1F240, 0x1F249, 0x1F3FB,
  0x1F400, 0x1F53E, 0x1F546, 0x1F650, 0x1F680, 0x1F700, 0x1F774, 0x1F780, 0x1F7D5, 0x1F800,
  0x1F80C, 0x1F810, 0x1F848, 0x1F850, 0x1F85A, 0x1F860, 0x1F888, 0x1F890, 0x1F8AE, 0x1F900,
  0x1F90C, 0x1F93B, 0x1F93C, 0x1F946, 0x1F947, 0x1FB00, 0x1FC00, 0x1FFFE]

/-- Characters that lengthen or repeat the one before them. -/
def extenderBounds : Array Nat := #[
  0xB7, 0xB8, 0x2D0, 0x2D2, 0x640, 0x641, 0x7FA, 0x7FB, 0xA71, 0xA72, 0xAFB, 0xAFC, 0xB55, 0xB56,
  0xE46, 0xE47, 0xEC6, 0xEC7, 0x180A, 0x180B, 0x1843, 0x1844, 0x1AA7, 0x1AA8, 0x1C36, 0x1C37,
  0x1C7B, 0x1C7C, 0x3005, 0x3006, 0x3031, 0x3036, 0x309D, 0x309F, 0x30FC, 0x30FF, 0xA015, 0xA016,
  0xA60C, 0xA60D, 0xA9CF, 0xA9D0, 0xA9E6, 0xA9E7, 0xAA70, 0xAA71, 0xAADD, 0xAADE, 0xAAF3, 0xAAF5,
  0xFF70, 0xFF71, 0x10781, 0x10783, 0x10D4E, 0x10D4F, 0x10D6A, 0x10D6B, 0x10D6F, 0x10D70, 0x11237,
  0x11238, 0x1135D, 0x1135E, 0x113D2, 0x113D4, 0x115C6, 0x115C9, 0x11A98, 0x11A99, 0x16B42,
  0x16B44, 0x16FE0, 0x16FE2, 0x16FE3, 0x16FE4, 0x1E13C, 0x1E13E, 0x1E5EF, 0x1E5F0, 0x1E944,
  0x1E947]

/-- Signs that take away a vowel and may join two consonants. -/
def graphemeLinkBounds : Array Nat := #[
  0x94D, 0x94E, 0x9CD, 0x9CE, 0xA4D, 0xA4E, 0xACD, 0xACE, 0xB4D, 0xB4E, 0xBCD, 0xBCE, 0xC4D,
  0xC4E, 0xCCD, 0xCCE, 0xD3B, 0xD3D, 0xD4D, 0xD4E, 0xDCA, 0xDCB, 0xE3A, 0xE3B, 0xEBA, 0xEBB,
  0xF84, 0xF85, 0x1039, 0x103B, 0x1714, 0x1716, 0x1734, 0x1735, 0x17D2, 0x17D3, 0x1A60, 0x1A61,
  0x1B44, 0x1B45, 0x1BAA, 0x1BAC, 0x1BF2, 0x1BF4, 0x2D7F, 0x2D80, 0xA806, 0xA807, 0xA82C, 0xA82D,
  0xA8C4, 0xA8C5, 0xA953, 0xA954, 0xA9C0, 0xA9C1, 0xAAF6, 0xAAF7, 0xABED, 0xABEE, 0x10A3F,
  0x10A40, 0x11046, 0x11047, 0x11070, 0x11071, 0x1107F, 0x11080, 0x110B9, 0x110BA, 0x11133,
  0x11135, 0x111C0, 0x111C1, 0x11235, 0x11236, 0x112EA, 0x112EB, 0x1134D, 0x1134E, 0x113CE,
  0x113D1, 0x11442, 0x11443, 0x114C2, 0x114C3, 0x115BF, 0x115C0, 0x1163F, 0x11640, 0x116B6,
  0x116B7, 0x1172B, 0x1172C, 0x11839, 0x1183A, 0x1193D, 0x1193F, 0x119E0, 0x119E1, 0x11A34,
  0x11A35, 0x11A47, 0x11A48, 0x11A99, 0x11A9A, 0x11C3F, 0x11C40, 0x11D44, 0x11D46, 0x11D97,
  0x11D98, 0x11F41, 0x11F43, 0x1612F, 0x16130]

/-- Ideographs. -/
def ideographBounds : Array Nat := #[
  0x3006, 0x3008, 0x3021, 0x302A, 0x3038, 0x303B, 0x3400, 0x4DC0, 0x4E00, 0xA000, 0xF900, 0xFA6E,
  0xFA70, 0xFADA, 0x16FE4, 0x16FE5, 0x17000, 0x187F8, 0x18800, 0x18CD6, 0x18CFF, 0x18D09, 0x1B170,
  0x1B2FC, 0x20000, 0x2A6E0, 0x2A700, 0x2B73A, 0x2B740, 0x2B81E, 0x2B820, 0x2CEA2, 0x2CEB0,
  0x2EBE1, 0x2EBF0, 0x2EE5E, 0x2F800, 0x2FA1E, 0x30000, 0x3134B, 0x31350, 0x323B0]

/-- Ideographs that are used in several languages alike. -/
def unifiedIdeographBounds : Array Nat := #[
  0x3400, 0x4DC0, 0x4E00, 0xA000, 0xFA0E, 0xFA10, 0xFA11, 0xFA12, 0xFA13, 0xFA15, 0xFA1F, 0xFA20,
  0xFA21, 0xFA22, 0xFA23, 0xFA25, 0xFA27, 0xFA2A, 0x20000, 0x2A6E0, 0x2A700, 0x2B73A, 0x2B740,
  0x2B81E, 0x2B820, 0x2CEA2, 0x2CEB0, 0x2EBE1, 0x2EBF0, 0x2EE5E, 0x30000, 0x3134B, 0x31350,
  0x323B0]

/-- Characters of formulas. -/
def mathBounds : Array Nat := #[
  0x2B, 0x2C, 0x3C, 0x3F, 0x5E, 0x5F, 0x7C, 0x7D, 0x7E, 0x7F, 0xAC, 0xAD, 0xB1, 0xB2, 0xD7, 0xD8,
  0xF7, 0xF8, 0x3D0, 0x3D3, 0x3D5, 0x3D6, 0x3F0, 0x3F2, 0x3F4, 0x3F7, 0x606, 0x609, 0x2016,
  0x2017, 0x2032, 0x2035, 0x2040, 0x2041, 0x2044, 0x2045, 0x2052, 0x2053, 0x2061, 0x2065, 0x207A,
  0x207F, 0x208A, 0x208F, 0x20D0, 0x20DD, 0x20E1, 0x20E2, 0x20E5, 0x20E7, 0x20EB, 0x20F0, 0x2102,
  0x2103, 0x2107, 0x2108, 0x210A, 0x2114, 0x2115, 0x2116, 0x2118, 0x211E, 0x2124, 0x2125, 0x2128,
  0x212A, 0x212C, 0x212E, 0x212F, 0x2132, 0x2133, 0x2139, 0x213C, 0x214A, 0x214B, 0x214C, 0x2190,
  0x21A8, 0x21A9, 0x21AF, 0x21B0, 0x21B2, 0x21B6, 0x21B8, 0x21BC, 0x21DC, 0x21DD, 0x21DE, 0x21E4,
  0x21E6, 0x21F4, 0x2300, 0x2308, 0x230C, 0x2320, 0x2322, 0x237C, 0x237D, 0x239B, 0x23B6, 0x23B7,
  0x23B8, 0x23D0, 0x23D1, 0x23DC, 0x23E3, 0x25A0, 0x25A2, 0x25AE, 0x25B8, 0x25BC, 0x25C2, 0x25C6,
  0x25C8, 0x25CA, 0x25CC, 0x25CF, 0x25D4, 0x25E2, 0x25E3, 0x25E4, 0x25E5, 0x25E7, 0x25ED, 0x25F8,
  0x2600, 0x2605, 0x2607, 0x2640, 0x2641, 0x2642, 0x2643, 0x2660, 0x2664, 0x266D, 0x2670, 0x27C0,
  0x2800, 0x2900, 0x2B00, 0x2B30, 0x2B45, 0x2B47, 0x2B4D, 0xFB29, 0xFB2A, 0xFE61, 0xFE67, 0xFE68,
  0xFE69, 0xFF0B, 0xFF0C, 0xFF1C, 0xFF1F, 0xFF3C, 0xFF3D, 0xFF3E, 0xFF3F, 0xFF5C, 0xFF5D, 0xFF5E,
  0xFF5F, 0xFFE2, 0xFFE3, 0xFFE9, 0xFFED, 0x10D8E, 0x10D90, 0x1D400, 0x1D455, 0x1D456, 0x1D49D,
  0x1D49E, 0x1D4A0, 0x1D4A2, 0x1D4A3, 0x1D4A5, 0x1D4A7, 0x1D4A9, 0x1D4AD, 0x1D4AE, 0x1D4BA,
  0x1D4BB, 0x1D4BC, 0x1D4BD, 0x1D4C4, 0x1D4C5, 0x1D506, 0x1D507, 0x1D50B, 0x1D50D, 0x1D515,
  0x1D516, 0x1D51D, 0x1D51E, 0x1D53A, 0x1D53B, 0x1D53F, 0x1D540, 0x1D545, 0x1D546, 0x1D547,
  0x1D54A, 0x1D551, 0x1D552, 0x1D6A6, 0x1D6A8, 0x1D7CC, 0x1D7CE, 0x1D800, 0x1EE00, 0x1EE04,
  0x1EE05, 0x1EE20, 0x1EE21, 0x1EE23, 0x1EE24, 0x1EE25, 0x1EE27, 0x1EE28, 0x1EE29, 0x1EE33,
  0x1EE34, 0x1EE38, 0x1EE39, 0x1EE3A, 0x1EE3B, 0x1EE3C, 0x1EE42, 0x1EE43, 0x1EE47, 0x1EE48,
  0x1EE49, 0x1EE4A, 0x1EE4B, 0x1EE4C, 0x1EE4D, 0x1EE50, 0x1EE51, 0x1EE53, 0x1EE54, 0x1EE55,
  0x1EE57, 0x1EE58, 0x1EE59, 0x1EE5A, 0x1EE5B, 0x1EE5C, 0x1EE5D, 0x1EE5E, 0x1EE5F, 0x1EE60,
  0x1EE61, 0x1EE63, 0x1EE64, 0x1EE65, 0x1EE67, 0x1EE6B, 0x1EE6C, 0x1EE73, 0x1EE74, 0x1EE78,
  0x1EE79, 0x1EE7D, 0x1EE7E, 0x1EE7F, 0x1EE80, 0x1EE8A, 0x1EE8B, 0x1EE9C, 0x1EEA1, 0x1EEA4,
  0x1EEA5, 0x1EEAA, 0x1EEAB, 0x1EEBC, 0x1EEF0, 0x1EEF2]

/-- Characters that are kept for the syntax of patterns. -/
def patternSyntaxBounds : Array Nat := #[
  0x21, 0x30, 0x3A, 0x41, 0x5B, 0x5F, 0x60, 0x61, 0x7B, 0x7F, 0xA1, 0xA8, 0xA9, 0xAA, 0xAB, 0xAD,
  0xAE, 0xAF, 0xB0, 0xB2, 0xB6, 0xB7, 0xBB, 0xBC, 0xBF, 0xC0, 0xD7, 0xD8, 0xF7, 0xF8, 0x2010,
  0x2028, 0x2030, 0x203F, 0x2041, 0x2054, 0x2055, 0x205F, 0x2190, 0x2460, 0x2500, 0x2776, 0x2794,
  0x2C00, 0x2E00, 0x2E80, 0x3001, 0x3004, 0x3008, 0x3021, 0x3030, 0x3031, 0xFD3E, 0xFD40, 0xFE45,
  0xFE47]

/-- Punctuation that ends a sentence. -/
def sentenceTerminalBounds : Array Nat := #[
  0x21, 0x22, 0x2E, 0x2F, 0x3F, 0x40, 0x589, 0x58A, 0x61D, 0x620, 0x6D4, 0x6D5, 0x700, 0x703,
  0x7F9, 0x7FA, 0x837, 0x838, 0x839, 0x83A, 0x83D, 0x83F, 0x964, 0x966, 0x104A, 0x104C, 0x1362,
  0x1363, 0x1367, 0x1369, 0x166E, 0x166F, 0x1735, 0x1737, 0x17D4, 0x17D6, 0x1803, 0x1804, 0x1809,
  0x180A, 0x1944, 0x1946, 0x1AA8, 0x1AAC, 0x1B4E, 0x1B50, 0x1B5A, 0x1B5C, 0x1B5E, 0x1B60, 0x1B7D,
  0x1B80, 0x1C3B, 0x1C3D, 0x1C7E, 0x1C80, 0x2024, 0x2025, 0x203C, 0x203E, 0x2047, 0x204A, 0x2CF9,
  0x2CFC, 0x2E2E, 0x2E2F, 0x2E3C, 0x2E3D, 0x2E53, 0x2E55, 0x3002, 0x3003, 0xA4FF, 0xA500, 0xA60E,
  0xA610, 0xA6F3, 0xA6F4, 0xA6F7, 0xA6F8, 0xA876, 0xA878, 0xA8CE, 0xA8D0, 0xA92F, 0xA930, 0xA9C8,
  0xA9CA, 0xAA5D, 0xAA60, 0xAAF0, 0xAAF2, 0xABEB, 0xABEC, 0xFE12, 0xFE13, 0xFE15, 0xFE17, 0xFE52,
  0xFE53, 0xFE56, 0xFE58, 0xFF01, 0xFF02, 0xFF0E, 0xFF0F, 0xFF1F, 0xFF20, 0xFF61, 0xFF62, 0x10A56,
  0x10A58, 0x10F55, 0x10F5A, 0x10F86, 0x10F8A, 0x11047, 0x11049, 0x110BE, 0x110C2, 0x11141,
  0x11144, 0x111C5, 0x111C7, 0x111CD, 0x111CE, 0x111DE, 0x111E0, 0x11238, 0x1123A, 0x1123B,
  0x1123D, 0x112A9, 0x112AA, 0x113D4, 0x113D6, 0x1144B, 0x1144D, 0x115C2, 0x115C4, 0x115C9,
  0x115D8, 0x11641, 0x11643, 0x1173C, 0x1173F, 0x11944, 0x11945, 0x11946, 0x11947, 0x11A42,
  0x11A44, 0x11A9B, 0x11A9D, 0x11C41, 0x11C43, 0x11EF7, 0x11EF9, 0x11F43, 0x11F45, 0x16A6E,
  0x16A70, 0x16AF5, 0x16AF6, 0x16B37, 0x16B39, 0x16B44, 0x16B45, 0x16D6E, 0x16D70, 0x16E98,
  0x16E99, 0x1BC9F, 0x1BCA0, 0x1DA88, 0x1DA89]

/-- Punctuation that ends a part of a text. -/
def terminalBounds : Array Nat := #[
  0x21, 0x22, 0x2C, 0x2D, 0x2E, 0x2F, 0x3A, 0x3C, 0x3F, 0x40, 0x37E, 0x37F, 0x387, 0x388, 0x589,
  0x58A, 0x5C3, 0x5C4, 0x60C, 0x60D, 0x61B, 0x61C, 0x61D, 0x620, 0x6D4, 0x6D5, 0x700, 0x70B,
  0x70C, 0x70D, 0x7F8, 0x7FA, 0x830, 0x836, 0x837, 0x83F, 0x85E, 0x85F, 0x964, 0x966, 0xE5A,
  0xE5C, 0xF08, 0xF09, 0xF0D, 0xF13, 0x104A, 0x104C, 0x1361, 0x1369, 0x166E, 0x166F, 0x16EB,
  0x16EE, 0x1735, 0x1737, 0x17D4, 0x17D7, 0x17DA, 0x17DB, 0x1802, 0x1806, 0x1808, 0x180A, 0x1944,
  0x1946, 0x1AA8, 0x1AAC, 0x1B4E, 0x1B50, 0x1B5A, 0x1B5C, 0x1B5D, 0x1B60, 0x1B7D, 0x1B80, 0x1C3B,
  0x1C40, 0x1C7E, 0x1C80, 0x2024, 0x2025, 0x203C, 0x203E, 0x2047, 0x204A, 0x2CF9, 0x2CFC, 0x2E2E,
  0x2E2F, 0x2E3C, 0x2E3D, 0x2E41, 0x2E42, 0x2E4C, 0x2E4D, 0x2E4E, 0x2E50, 0x2E53, 0x2E55, 0x3001,
  0x3003, 0xA4FE, 0xA500, 0xA60D, 0xA610, 0xA6F3, 0xA6F8, 0xA876, 0xA878, 0xA8CE, 0xA8D0, 0xA92F,
  0xA930, 0xA9C7, 0xA9CA, 0xAA5D, 0xAA60, 0xAADF, 0xAAE0, 0xAAF0, 0xAAF2, 0xABEB, 0xABEC, 0xFE12,
  0xFE13, 0xFE15, 0xFE17, 0xFE50, 0xFE53, 0xFE54, 0xFE58, 0xFF01, 0xFF02, 0xFF0C, 0xFF0D, 0xFF0E,
  0xFF0F, 0xFF1A, 0xFF1C, 0xFF1F, 0xFF20, 0xFF61, 0xFF62, 0xFF64, 0xFF65, 0x1039F, 0x103A0,
  0x103D0, 0x103D1, 0x10857, 0x10858, 0x1091F, 0x10920, 0x10A56, 0x10A58, 0x10AF0, 0x10AF6,
  0x10B3A, 0x10B40, 0x10B99, 0x10B9D, 0x10F55, 0x10F5A, 0x10F86, 0x10F8A, 0x11047, 0x1104E,
  0x110BE, 0x110C2, 0x11141, 0x11144, 0x111C5, 0x111C7, 0x111CD, 0x111CE, 0x111DE, 0x111E0,
  0x11238, 0x1123D, 0x112A9, 0x112AA, 0x113D4, 0x113D6, 0x1144B, 0x1144E, 0x1145A, 0x1145C,
  0x115C2, 0x115C6, 0x115C9, 0x115D8, 0x11641, 0x11643, 0x1173C, 0x1173F, 0x11944, 0x11945,
  0x11946, 0x11947, 0x11A42, 0x11A44, 0x11A9B, 0x11A9D, 0x11AA1, 0x11AA3, 0x11C41, 0x11C44,
  0x11C71, 0x11C72, 0x11EF7, 0x11EF9, 0x11F43, 0x11F45, 0x12470, 0x12475, 0x16A6E, 0x16A70,
  0x16AF5, 0x16AF6, 0x16B37, 0x16B3A, 0x16B44, 0x16B45, 0x16D6E, 0x16D70, 0x16E97, 0x16E99,
  0x1BC9F, 0x1BCA0, 0x1DA87, 0x1DA8B]

/-- Characters whose dot gives way to an accent. -/
def softDottedBounds : Array Nat := #[
  0x69, 0x6B, 0x12F, 0x130, 0x249, 0x24A, 0x268, 0x269, 0x29D, 0x29E, 0x2B2, 0x2B3, 0x3F3, 0x3F4,
  0x456, 0x457, 0x458, 0x459, 0x1D62, 0x1D63, 0x1D96, 0x1D97, 0x1DA4, 0x1DA5, 0x1DA8, 0x1DA9,
  0x1E2D, 0x1E2E, 0x1ECB, 0x1ECC, 0x2071, 0x2072, 0x2148, 0x214A, 0x2C7C, 0x2C7D, 0x1D422,
  0x1D424, 0x1D456, 0x1D458, 0x1D48A, 0x1D48C, 0x1D4BE, 0x1D4C0, 0x1D4F2, 0x1D4F4, 0x1D526,
  0x1D528, 0x1D55A, 0x1D55C, 0x1D58E, 0x1D590, 0x1D5C2, 0x1D5C4, 0x1D5F6, 0x1D5F8, 0x1D62A,
  0x1D62C, 0x1D65E, 0x1D660, 0x1D692, 0x1D694, 0x1DF1A, 0x1DF1B, 0x1E04C, 0x1E04E, 0x1E068,
  0x1E069]

/-- Characters of scripts without spaces between words. -/
def complexBounds : Array Nat := #[
  0xE01, 0xE3B, 0xE40, 0xE4F, 0xE81, 0xE83, 0xE84, 0xE85, 0xE86, 0xE8B, 0xE8C, 0xEA4, 0xEA5,
  0xEA6, 0xEA7, 0xEBE, 0xEC0, 0xEC5, 0xEC6, 0xEC7, 0xEC8, 0xECF, 0xEDC, 0xEE0, 0x1000, 0x1040,
  0x1050, 0x1090, 0x109A, 0x10A0, 0x1780, 0x17D4, 0x17D7, 0x17D8, 0x17DC, 0x17DE, 0x1950, 0x196E,
  0x1970, 0x1975, 0x1980, 0x19AC, 0x19B0, 0x19CA, 0x19DA, 0x19DB, 0x19DE, 0x19E0, 0x1A20, 0x1A5F,
  0x1A60, 0x1A7D, 0x1AA0, 0x1AAE, 0xA9E0, 0xA9F0, 0xA9FA, 0xA9FF, 0xAA60, 0xAAC3, 0xAADB, 0xAAE0,
  0x11700, 0x1171B, 0x1171D, 0x1172C, 0x1173A, 0x1173C, 0x1173F, 0x11747]

end OutputArranger.Unicode
