/-!
# Ages

The version of the character database in which every code point was assigned. An entry is a code
point times 32 plus the number of the version that holds from there on; versions are numbered in the
order of `versions`, and the number after the last one stands for no version.
-/

namespace OutputArranger.Unicode

/-- The versions that assigned characters, the oldest one first. -/
def versions : List (Nat × Nat) :=
  [(1, 1), (2, 0), (2, 1), (3, 0), (3, 1), (3, 2), (4, 0), (4, 1), (5, 0), (5, 1), (5, 2), (6, 0),
   (6, 1), (6, 2), (6, 3), (7, 0), (8, 0), (9, 0), (10, 0), (11, 0), (12, 0), (12, 1), (13, 0),
   (14, 0), (15, 0), (15, 1), (16, 0)]

/-- Where the age changes and to which one, from code point 0x0 on. -/
def ageChangesLow : Array Nat := #[
  0x0, 0x3EC3, 0x3F40, 0x4303, 0x4405, 0x4426, 0x4443, 0x4686, 0x46E7, 0x4848, 0x4A00, 0x5523,
  0x55C6, 0x5600, 0x5BE3, 0x5C00, 0x5D43, 0x5DE6, 0x6000, 0x68C3, 0x69E5, 0x6A06, 0x6B07, 0x6BA6,
  0x6C00, 0x6C43, 0x6C65, 0x6E09, 0x6E80, 0x6EC9, 0x6F1B, 0x6F40, 0x6F68, 0x6FC0, 0x6FEF, 0x701B,
  0x7080, 0x717B, 0x7180, 0x71BB, 0x71C0, 0x745B, 0x7460, 0x79E9, 0x7A00, 0x7AE3, 0x7B05, 0x7B40,
  0x7B63, 0x7B80, 0x7BA3, 0x7BC0, 0x7BE3, 0x7C00, 0x7C23, 0x7C40, 0x7E84, 0x7EC5, 0x7EE6, 0x7F87,
  0x8003, 0x8020, 0x81A3, 0x81C0, 0x8A03, 0x8A20, 0x8BA3, 0x8BC0, 0x90E9, 0x9103, 0x9145, 0x9183,
  0x9200, 0x98A5, 0x98E0, 0x9925, 0x9960, 0x99A5, 0x99E8, 0x9A00, 0x9D83, 0x9DC0, 0x9EC7, 0x9F00,
  0x9F48, 0xA005, 0xA208, 0xA289, 0xA48A, 0xA4CB, 0xA50F, 0xA61B, 0xA620, 0xAAFB, 0xAB20, 0xAC13,
  0xAC20, 0xB113, 0xB120, 0xB143, 0xB17B, 0xB1AF, 0xB1EC, 0xB21B, 0xB221, 0xB447, 0xB461, 0xB600,
  0xB748, 0xB760, 0xB881, 0xB8A7, 0xB91B, 0xBA00, 0xBD7B, 0xBDF3, 0xBE00, 0xBEBB, 0xC006, 0xC08C,
  0xC0AF, 0xC0C9, 0xC167, 0xC180, 0xC1A6, 0xC2C9, 0xC360, 0xC38E, 0xC3B7, 0xC3C7, 0xC3E0, 0xC40B,
  0xC420, 0xC769, 0xC800, 0xCA63, 0xCAC6, 0xCB27, 0xCBEB, 0xCC00, 0xCDC5, 0xCE00, 0xD703, 0xD740,
  0xD7E3, 0xD800, 0xD9E3, 0xDA00, 0xDDC6, 0xDE00, 0xDF43, 0xDFE6, 0xE003, 0xE1DB, 0xE1E3, 0xE5A6,
  0xE603, 0xE97B, 0xE9A6, 0xEA07, 0xEDC9, 0xF003, 0xF625, 0xF65B, 0xF808, 0xFF7B, 0xFFB3, 0x1000A,
  0x105DB, 0x1060A, 0x107FB, 0x1080B, 0x10B9B, 0x10BCB, 0x10BFB, 0x10C12, 0x10D7B, 0x10E17,
  0x111FB, 0x11217, 0x1125B, 0x112FA, 0x11317, 0x1140C, 0x1142F, 0x1144C, 0x115AF, 0x11670,
  0x116B7, 0x116D1, 0x117D6, 0x11917, 0x11A73, 0x11A91, 0x11C70, 0x11C8C, 0x11FEF, 0x1200A,
  0x12020, 0x12086, 0x120A0, 0x1274B, 0x12780, 0x129CA, 0x129EB, 0x12A00, 0x12AAA, 0x12ACB,
  0x12B00, 0x12E29, 0x12E6B, 0x12F0F, 0x12F2A, 0x12F68, 0x12FA7, 0x12FC8, 0x1300F, 0x13020,
  0x1309B, 0x130A0, 0x131BB, 0x131E0, 0x1323B, 0x13260, 0x1353B, 0x13540, 0x1363B, 0x13640,
  0x1367B, 0x136C0, 0x1375B, 0x13780, 0x137A6, 0x137C0, 0x138BB, 0x138E0, 0x1393B, 0x13960,
  0x139C7, 0x139FB, 0x13AE0, 0x13B1B, 0x13B80, 0x13BDB, 0x13BE0, 0x13C9B, 0x13CC0, 0x13F6A,
  0x13F92, 0x13FD3, 0x13FFB, 0x14026, 0x14040, 0x14066, 0x1409B, 0x140A0, 0x1417B, 0x141E0,
  0x1423B, 0x14260, 0x1453B, 0x14540, 0x1463B, 0x14640, 0x1469B, 0x146A0, 0x146FB, 0x14700,
  0x1475B, 0x14780, 0x147BB, 0x147C0, 0x1487B, 0x148E0, 0x1493B, 0x14960, 0x149DB, 0x14A29,
  0x14A5B, 0x14B20, 0x14BBB, 0x14BC0, 0x14BFB, 0x14CC0, 0x14EA9, 0x14ED3, 0x14EFB, 0x15020,
  0x1509B, 0x150A0, 0x15186, 0x151A0, 0x151DB, 0x151E0, 0x1525B, 0x15260, 0x1553B, 0x15540,
  0x1563B, 0x15640, 0x1569B, 0x156A0, 0x1575B, 0x15780, 0x158DB, 0x158E0, 0x1595B, 0x15960,
  0x159DB, 0x15A00, 0x15A3B, 0x15C00, 0x15C26, 0x15C9B, 0x15CC0, 0x15E0C, 0x15E26, 0x15E5B,
  0x15F30, 0x15F52, 0x1601B, 0x16020, 0x1609B, 0x160A0, 0x161BB, 0x161E0, 0x1623B, 0x16260,
  0x1653B, 0x16540, 0x1663B, 0x16640, 0x1669B, 0x166A6, 0x166C0, 0x1675B, 0x16780, 0x16889,
  0x168BB, 0x168E0, 0x1693B, 0x16960, 0x169DB, 0x16AB6, 0x16AC0, 0x16B1B, 0x16B80, 0x16BDB,
  0x16BE0, 0x16C49, 0x16C9B, 0x16CC0, 0x16E26, 0x16E4B, 0x16F1B, 0x17040, 0x1709B, 0x170A0,
  0x1717B, 0x171C0, 0x1723B, 0x17240, 0x172DB, 0x17320, 0x1737B, 0x17380, 0x173BB, 0x173C0,
  0x1741B, 0x17460, 0x174BB, 0x17500, 0x1757B, 0x175C0, 0x176C7, 0x176E0, 0x1775B, 0x177C0,
  0x1787B, 0x178C0, 0x1793B, 0x17940, 0x179DB, 0x17A09, 0x17A3B, 0x17AE0, 0x17B1B, 0x17CC7,
  0x17CE0, 0x17E66, 0x17F7B, 0x1800F, 0x18020, 0x18093, 0x180A0, 0x181BB, 0x181C0, 0x1823B,
  0x18240, 0x1853B, 0x18540, 0x1868F, 0x186A0, 0x1875B, 0x18797, 0x187A9, 0x187C0, 0x188BB,
  0x188C0, 0x1893B, 0x18940, 0x189DB, 0x18AA0, 0x18AFB, 0x18B09, 0x18B50, 0x18B7B, 0x18BB7,
  0x18BDB, 0x18C00, 0x18C49, 0x18C9B, 0x18CC0, 0x18E1B, 0x18EF4, 0x18F09, 0x19011, 0x1902F,
  0x19040, 0x19093, 0x190A0, 0x191BB, 0x191C0, 0x1923B, 0x19240, 0x1953B, 0x19540, 0x1969B,
  0x196A0, 0x1975B, 0x19786, 0x197C0, 0x198BB, 0x198C0, 0x1993B, 0x19940, 0x199DB, 0x19AA0,
  0x19AFB, 0x19BB7, 0x19BC0, 0x19BFB, 0x19C00, 0x19C48, 0x19C9B, 0x19CC0, 0x19E1B, 0x19E28,
  0x19E78, 0x19E9B, 0x1A012, 0x1A02F, 0x1A040, 0x1A096, 0x1A0A0, 0x1A1BB, 0x1A1C0, 0x1A23B,
  0x1A240, 0x1A52B, 0x1A540, 0x1A74B, 0x1A772, 0x1A7A9, 0x1A7C0, 0x1A889, 0x1A8BB, 0x1A8C0,
  0x1A93B, 0x1A940, 0x1A9CB, 0x1A9F1, 0x1AA1B, 0x1AA91, 0x1AAE0, 0x1AB11, 0x1ABF0, 0x1AC00,
  0x1AC49, 0x1AC9B, 0x1ACC0, 0x1AE09, 0x1AED1, 0x1AF29, 0x1B01B, 0x1B036, 0x1B043, 0x1B09B,
  0x1B0A3, 0x1B2FB, 0x1B343, 0x1B65B, 0x1B663, 0x1B79B, 0x1B7A3, 0x1B7DB, 0x1B803, 0x1B8FB,
  0x1B943, 0x1B97B, 0x1B9E3, 0x1BABB, 0x1BAC3, 0x1BAFB, 0x1BB03, 0x1BC1B, 0x1BCCF, 0x1BE1B,
  0x1BE43, 0x1BEBB, 0x1C020, 0x1C77B, 0x1C7E0, 0x1CB9B, 0x1D020, 0x1D07B, 0x1D080, 0x1D0BB,
  0x1D0D4, 0x1D0E0, 0x1D134, 0x1D140, 0x1D17B, 0x1D194, 0x1D1A0, 0x1D1D4, 0x1D280, 0x1D314,
  0x1D320, 0x1D414, 0x1D420, 0x1D49B, 0x1D4A0, 0x1D4DB, 0x1D4E0, 0x1D514, 0x1D540, 0x1D594,
  0x1D5A0, 0x1D754, 0x1D760, 0x1D7DB, 0x1D800, 0x1D8BB, 0x1D8C0, 0x1D8FB, 0x1D900, 0x1D9D8,
  0x1D9FB, 0x1DA00, 0x1DB5B, 0x1DB80, 0x1DBCC, 0x1DC1B, 0x1E001, 0x1E91B, 0x1E921, 0x1ED43,
  0x1ED69, 0x1EDBB, 0x1EE21, 0x1F18B, 0x1F201, 0x1F2C3, 0x1F2E1, 0x1F31B, 0x1F321, 0x1F5C3,
  0x1F621, 0x1F703, 0x1F721, 0x1F743, 0x1F7BB, 0x1F7C3, 0x1F9BB, 0x1F9C9, 0x1F9E3, 0x1FA07,
  0x1FA49, 0x1FAAA, 0x1FB2B, 0x1FB7B]

/-- Where the age changes and to which one, from code point 0x1000 on. -/
def ageChangesMiddle : Array Nat := #[
  0x20003, 0x20449, 0x20463, 0x20509, 0x20523, 0x20569, 0x20583, 0x20669, 0x206C3, 0x20749,
  0x20803, 0x20B49, 0x2134A, 0x213C9, 0x21400, 0x218DB, 0x218EC, 0x2191B, 0x219AC, 0x219DB,
  0x21A00, 0x21EE5, 0x21F27, 0x21F60, 0x21F87, 0x21FAC, 0x22000, 0x22B4A, 0x22BE0, 0x2346A,
  0x23500, 0x23F4A, 0x24003, 0x240E7, 0x24103, 0x248E7, 0x24903, 0x2493B, 0x24943, 0x249DB,
  0x24A03, 0x24AFB, 0x24B03, 0x24B3B, 0x24B43, 0x24BDB, 0x24C03, 0x250E7, 0x25103, 0x2513B,
  0x25143, 0x251DB, 0x25203, 0x255E7, 0x25603, 0x2563B, 0x25643, 0x256DB, 0x25703, 0x257FB,
  0x25803, 0x2583B, 0x25843, 0x258DB, 0x25903, 0x259E7, 0x25A03, 0x25AFB, 0x25B03, 0x25DE7,
  0x25E03, 0x261E7, 0x26203, 0x2623B, 0x26243, 0x262DB, 0x26303, 0x263E7, 0x26403, 0x268E7,
  0x26903, 0x26B7B, 0x26BAB, 0x26BE7, 0x26C23, 0x26FBB, 0x27007, 0x2735B, 0x27403, 0x27EB0,
  0x27EDB, 0x27F10, 0x27FDB, 0x2800A, 0x28023, 0x2CEEA, 0x2D003, 0x2D3BB, 0x2D403, 0x2DE2F,
  0x2DF3B, 0x2E005, 0x2E1B7, 0x2E1C5, 0x2E2B7, 0x2E2DB, 0x2E3F7, 0x2E405, 0x2E6FB, 0x2E805,
  0x2EA9B, 0x2EC05, 0x2EDBB, 0x2EDC5, 0x2EE3B, 0x2EE45, 0x2EE9B, 0x2F003, 0x2FBA6, 0x2FBDB,
  0x2FC03, 0x2FD5B, 0x2FE06, 0x2FF5B, 0x30003, 0x301F7, 0x30203, 0x3035B, 0x30403, 0x30F13,
  0x30F3B, 0x31003, 0x31549, 0x3157B, 0x3160A, 0x31EDB, 0x32006, 0x323AF, 0x323FB, 0x32406,
  0x3259B, 0x32606, 0x3279B, 0x32806, 0x3283B, 0x32886, 0x32DDB, 0x32E06, 0x32EBB, 0x33007,
  0x3354A, 0x3359B, 0x33607, 0x3395B, 0x33A07, 0x33B4A, 0x33B7B, 0x33BC7, 0x33C06, 0x34007,
  0x3439B, 0x343C7, 0x3440A, 0x34BFB, 0x34C0A, 0x34FBB, 0x34FEA, 0x3515B, 0x3520A, 0x3535B,
  0x3540A, 0x355DB, 0x3560F, 0x357F6, 0x35837, 0x359FB, 0x36008, 0x36997, 0x369BB, 0x369DA,
  0x36A08, 0x36FB7, 0x36FFA, 0x37009, 0x3756C, 0x375C9, 0x3774C, 0x3780B, 0x37E9B, 0x37F8B,
  0x38009, 0x3871B, 0x38769, 0x3895B, 0x389A9, 0x39011, 0x3913A, 0x3917B, 0x39213, 0x3977B,
  0x397B3, 0x3980C, 0x3991B, 0x39A0A, 0x39E6C, 0x39EF2, 0x39F0F, 0x39F54, 0x39F7B, 0x3A006,
  0x3AD87, 0x3B888, 0x3B969, 0x3BCEF, 0x3BED2, 0x3BF57, 0x3BF71, 0x3BF8B, 0x3BFAA, 0x3BFC8,
  0x3C000, 0x3D361, 0x3D389, 0x3D400, 0x3DF49, 0x3E000, 0x3E2DB, 0x3E300, 0x3E3DB, 0x3E400,
  0x3E8DB, 0x3E900, 0x3E9DB, 0x3EA00, 0x3EB1B, 0x3EB20, 0x3EB5B, 0x3EB60, 0x3EB9B, 0x3EBA0,
  0x3EBDB, 0x3EBE0, 0x3EFDB, 0x3F000, 0x3F6BB, 0x3F6C0, 0x3F8BB, 0x3F8C0, 0x3FA9B, 0x3FAC0,
  0x3FB9B, 0x3FBA0, 0x3FE1B, 0x3FE40, 0x3FEBB, 0x3FEC0, 0x3FFFB, 0x40000, 0x405E3, 0x40600,
  0x408E5, 0x40903, 0x409C5, 0x40A66, 0x40AA7, 0x40AE5, 0x40B07, 0x40BE5, 0x40C89, 0x40CBB,
  0x40CCE, 0x40D40, 0x40E25, 0x40E5B, 0x40E80, 0x411FB, 0x41207, 0x412AB, 0x413BB, 0x41400,
  0x41561, 0x41582, 0x415A3, 0x41605, 0x41647, 0x416CA, 0x4172B, 0x4174D, 0x4176F, 0x417D0,
  0x417F2, 0x41817, 0x4183B, 0x41A00, 0x41C43, 0x41C85, 0x41D67, 0x41D88, 0x41E09, 0x41E3B,
  0x42000, 0x42723, 0x42766, 0x42787, 0x427A5, 0x42987, 0x429A8, 0x429E9, 0x42A0A, 0x42A60,
  0x43063, 0x43088, 0x430A9, 0x4312A, 0x43150, 0x4319B, 0x43200, 0x43D63, 0x43E85, 0x44000,
  0x45E45, 0x46000, 0x46023, 0x46040, 0x46F63, 0x46F85, 0x46FA3, 0x47365, 0x479E6, 0x47A27,
  0x47B88, 0x47D0A, 0x47D2B, 0x47E8F, 0x47F71, 0x47FF2, 0x48000, 0x484A3, 0x484FA, 0x4855B,
  0x48800, 0x4897B, 0x48C00, 0x49D65, 0x49FE6, 0x4A000, 0x4B2C5, 0x4B400, 0x4BE03, 0x4BF05,
  0x4C000, 0x4C286, 0x4C2C5, 0x4C307, 0x4C323, 0x4C340, 0x4CE03, 0x4CE45, 0x4CFC7, 0x4D005,
  0x4D146, 0x4D247, 0x4D3A9, 0x4D3CA, 0x4D406, 0x4D447, 0x4D648, 0x4D669, 0x4D7AA, 0x4D809,
  0x4D88A, 0x4D9CB, 0x4D9EA, 0x4DC4B, 0x4DC6A, 0x4DC8B, 0x4DD0A, 0x4E00F, 0x4E020, 0x4E0AB,
  0x4E0C0, 0x4E14B, 0x4E180, 0x4E50B, 0x4E520, 0x4E98B, 0x4E9A0, 0x4E9CB, 0x4E9E0, 0x4EA6B,
  0x4EAC0, 0x4EAEA, 0x4EB00, 0x4EBEB, 0x4EC20, 0x4ED05, 0x4EEC0, 0x4F2AB, 0x4F300, 0x4F60B,
  0x4F620, 0x4F7EB, 0x4F807, 0x4F8E8, 0x4F96C, 0x4F989, 0x4F9AC, 0x4F9CB, 0x4FA05, 0x4FD89,
  0x4FE05, 0x50003, 0x52005, 0x56006, 0x561C7, 0x56288, 0x56369, 0x56408, 0x56489, 0x569AF,
  0x56A09, 0x56AAA, 0x56B4F, 0x56E9B, 0x56ECF, 0x572DB, 0x572F6, 0x5730F, 0x57753, 0x577AF,
  0x57934, 0x5794F, 0x57A52, 0x57A73, 0x57D90, 0x57E13, 0x57FF4, 0x58007, 0x585F7, 0x58607,
  0x58BF7, 0x58C08, 0x58DA9, 0x58E0A, 0x58E29, 0x58E88, 0x58F09, 0x58FCA, 0x59007, 0x59D6A,
  0x59E4C, 0x59E9B, 0x59F27, 0x5A4DB, 0x5A4EC, 0x5A51B, 0x5A5AC, 0x5A5DB, 0x5A607, 0x5ACCC,
  0x5AD1B, 0x5ADE7, 0x5AE0B, 0x5AE3B, 0x5AFEB, 0x5B007, 0x5B2FB, 0x5B407, 0x5B4FB, 0x5B507,
  0x5B5FB, 0x5B607, 0x5B6FB, 0x5B707, 0x5B7FB, 0x5B807, 0x5B8FB, 0x5B907, 0x5B9FB, 0x5BA07,
  0x5BAFB, 0x5BB07, 0x5BBFB, 0x5BC09, 0x5C007, 0x5C309, 0x5C387, 0x5C3C9, 0x5C62A, 0x5C64C,
  0x5C78F, 0x5C871, 0x5C8B2, 0x5C953, 0x5C9F4, 0x5CA16, 0x5CA77, 0x5CBDB, 0x5D003, 0x5D35B,
  0x5D363, 0x5DE9B, 0x5E003, 0x5FADB, 0x5FE03, 0x5FF99, 0x60000, 0x60703, 0x60765, 0x607C3,
  0x607E0, 0x6081B, 0x60820, 0x612A5, 0x612FB, 0x61320, 0x613E5, 0x61420, 0x61FE5, 0x6201B,
  0x620A0, 0x625A9, 0x625D2, 0x625F3, 0x6261B, 0x62620, 0x631FB, 0x63200, 0x63403, 0x6370B,
  0x63776, 0x63807, 0x63A09, 0x63C9A, 0x63CDB, 0x63DF9, 0x63E05, 0x64000, 0x643A6, 0x643FB,
  0x64400, 0x6488A, 0x64A06, 0x64A25, 0x64C00, 0x64F86, 0x64FC7, 0x64FE0, 0x65625, 0x65800,
  0x65986, 0x65A00, 0x65FF5, 0x66000, 0x66EE6, 0x66F60, 0x67BC6, 0x67C00, 0x67FE6, 0x68003,
  0x9B6D6, 0x9B806, 0x9C000, 0x13F4C7, 0x13F789, 0x13F88A, 0x13F98C, 0x13F9B0, 0x13FAD2, 0x13FD73,
  0x13FE16, 0x13FFB7]

/-- Where the age changes and to which one, from code point 0xA000 on. -/
def ageChangesHigh : Array Nat := #[
  0x140003, 0x1491BB, 0x149203, 0x149445, 0x149483, 0x149685, 0x1496A3, 0x149825, 0x149843,
  0x1498A5, 0x1498C3, 0x1498FB, 0x149A0A, 0x14A009, 0x14C59B, 0x14C809, 0x14CC0B, 0x14CC49,
  0x14CE8C, 0x14CF89, 0x14D30F, 0x14D3D0, 0x14D3EC, 0x14D40A, 0x14DF1B, 0x14E007, 0x14E2E8,
  0x14E369, 0x14E408, 0x14E449, 0x14F1AB, 0x14F1F0, 0x14F20B, 0x14F24C, 0x14F28F, 0x14F40B,
  0x14F54C, 0x14F56F, 0x14F5D1, 0x14F5F3, 0x14F60F, 0x14F650, 0x14F713, 0x14F754, 0x14F817,
  0x14F854, 0x14F8F6, 0x14F97A, 0x14F9DB, 0x14FA17, 0x14FA5B, 0x14FA77, 0x14FA9B, 0x14FAB7,
  0x14FB5A, 0x14FBBB, 0x14FE57, 0x14FEB6, 0x14FEEF, 0x14FF0C, 0x14FF4B, 0x14FF69, 0x150007,
  0x150596, 0x1505BB, 0x15060A, 0x15075B, 0x150808, 0x150F1B, 0x151009, 0x1518B1, 0x1518DB,
  0x1519C9, 0x151B5B, 0x151C0A, 0x151F90, 0x151FD3, 0x152009, 0x152A9B, 0x152BE9, 0x152C0A,
  0x152FBB, 0x15300A, 0x1539DB, 0x1539EA, 0x153B5B, 0x153BCA, 0x153C0F, 0x153FFB, 0x154009,
  0x1546FB, 0x154809, 0x1549DB, 0x154A09, 0x154B5B, 0x154B89, 0x154C0A, 0x154F8F, 0x15500A,
  0x15587B, 0x155B6A, 0x155C0C, 0x155EFB, 0x15602B, 0x1560FB, 0x15612B, 0x1561FB, 0x15622B,
  0x1562FB, 0x15640B, 0x1564FB, 0x15650B, 0x1565FB, 0x15660F, 0x156C10, 0x156C8F, 0x156CD4,
  0x156D16, 0x156D9B, 0x156E10, 0x15780A, 0x157DDB, 0x157E0A, 0x157F5B, 0x158001, 0x1AF49B,
  0x1AF60A, 0x1AF8FB, 0x1AF96A, 0x1AFF9B, 0x1B0001, 0x1C0000, 0x1F45CC, 0x1F4605, 0x1F4D6A,
  0x1F4DDB, 0x1F4E07, 0x1F5B5B, 0x1F6000, 0x1F60FB, 0x1F6260, 0x1F631B, 0x1F63A3, 0x1F63C0,
  0x1F66FB, 0x1F6700, 0x1F67BB, 0x1F67C0, 0x1F67FB, 0x1F6800, 0x1F685B, 0x1F6860, 0x1F68BB,
  0x1F68C0, 0x1F764B, 0x1F7857, 0x1F787B, 0x1F7A60, 0x1FA817, 0x1FAA00, 0x1FB21B, 0x1FB240,
  0x1FB91B, 0x1FB9F7, 0x1FBA04, 0x1FBE00, 0x1FBF85, 0x1FBFA6, 0x1FBFD7, 0x1FC005, 0x1FC207,
  0x1FC35B, 0x1FC400, 0x1FC489, 0x1FC4EF, 0x1FC5D0, 0x1FC600, 0x1FC8A5, 0x1FC8E6, 0x1FC920,
  0x1FCA7B, 0x1FCA80, 0x1FCCFB, 0x1FCD00, 0x1FCD9B, 0x1FCE00, 0x1FCE65, 0x1FCE80, 0x1FCEBB,
  0x1FCEC0, 0x1FDFBB, 0x1FDFE0, 0x1FE01B, 0x1FE020, 0x1FEBE5, 0x1FEC20, 0x1FF7FB, 0x1FF840,
  0x1FF91B, 0x1FF940, 0x1FFA1B, 0x1FFA40, 0x1FFB1B, 0x1FFB40, 0x1FFBBB, 0x1FFC00, 0x1FFCFB,
  0x1FFD00, 0x1FFDFB, 0x1FFF23, 0x1FFF82, 0x1FFFA0, 0x200006, 0x20019B, 0x2001A6, 0x2004FB,
  0x200506, 0x20077B, 0x200786, 0x2007DB, 0x2007E6, 0x2009DB, 0x200A06, 0x200BDB, 0x201006,
  0x201F7B, 0x202006, 0x20207B, 0x2020E6, 0x20269B, 0x2026E6, 0x202807, 0x20316F, 0x2031B1,
  0x2031FB, 0x203209, 0x203396, 0x2033BB, 0x20340F, 0x20343B, 0x203A09, 0x203FDB, 0x205009,
  0x2053BB, 0x205409, 0x205A3B, 0x205C0F, 0x205F9B, 0x206004, 0x2063EF, 0x206404, 0x20649B,
  0x2065B2, 0x206604, 0x20697B, 0x206A0F, 0x206F7B, 0x207006, 0x2073DB, 0x2073E6, 0x207407,
  0x20789B, 0x207907, 0x207ADB, 0x208004, 0x2084C6, 0x208504, 0x2089C6, 0x2093DB, 0x209406,
  0x20955B, 0x209611, 0x209A9B, 0x209B11, 0x209F9B, 0x20A00F, 0x20A51B, 0x20A60F, 0x20AC9B,
  0x20ADEF, 0x20AE17, 0x20AF7B, 0x20AF97, 0x20B17B, 0x20B197, 0x20B27B, 0x20B297, 0x20B2DB,
  0x20B2F7, 0x20B45B, 0x20B477, 0x20B65B, 0x20B677, 0x20B75B, 0x20B777, 0x20B7BB, 0x20B81A,
  0x20BE9B, 0x20C00F, 0x20E6FB, 0x20E80F, 0x20EADB, 0x20EC0F, 0x20ED1B, 0x20F017, 0x20F0DB,
  0x20F0F7, 0x20F63B, 0x20F657, 0x20F77B, 0x210006, 0x2100DB, 0x210106, 0x21013B, 0x210146,
  0x2106DB, 0x2106E6, 0x21073B, 0x210786, 0x2107BB, 0x2107E6, 0x21080A, 0x210ADB, 0x210AEA,
  0x210C0F, 0x2113FB, 0x2114EF, 0x21161B, 0x211C10, 0x211E7B, 0x211E90, 0x211EDB, 0x211F70,
  0x212008, 0x21234A, 0x21239B, 0x2123E8, 0x212409, 0x21275B, 0x2127E9, 0x21281B, 0x21300C,
  0x21371B, 0x213790, 0x2137CC, 0x213810, 0x213A1B, 0x213A50, 0x214007, 0x21409B, 0x2140A7,
  0x2140FB, 0x214187, 0x21429B, 0x2142A7, 0x21431B, 0x214327, 0x214693, 0x2146DB, 0x214707,
  0x21477B, 0x2147E7, 0x214913, 0x21493B, 0x214A07, 0x214B3B, 0x214C0A, 0x21500F, 0x21541B,
  0x21580F, 0x215CFB, 0x215D6F, 0x215EFB, 0x21600A, 0x2166DB, 0x21672A, 0x216ADB, 0x216B0A,
  0x216E7B, 0x216F0A, 0x21700F, 0x21725B, 0x21732F, 0x2173BB, 0x21752F, 0x21761B, 0x21800A,
  0x21893B, 0x219010, 0x21967B, 0x219810, 0x219E7B, 0x219F50, 0x21A013, 0x21A51B, 0x21A613,
  0x21A75B, 0x21A81A, 0x21ACDB, 0x21AD3A, 0x21B0DB, 0x21B1DA, 0x21B21B, 0x21CC0A, 0x21CFFB,
  0x21D016, 0x21D55B, 0x21D576, 0x21D5DB, 0x21D616, 0x21D65B, 0x21D85A, 0x21D8BB, 0x21DF9A,
  0x21DFB8, 0x21E013, 0x21E51B, 0x21E613, 0x21EB5B, 0x21EE17, 0x21F15B, 0x21F616, 0x21F99B,
  0x21FC14, 0x21FEFB]

/-- Where the age changes and to which one, from code point 0x11000 on. -/
def ageChangesTop : Array Nat := #[
  0x22000B, 0x2209DB, 0x220A4B, 0x220E17, 0x220EDB, 0x220FEF, 0x22100A, 0x221857, 0x22187B,
  0x2219B3, 0x2219DB, 0x221A0C, 0x221D3B, 0x221E0C, 0x221F5B, 0x22200C, 0x2226BB, 0x2226CC,
  0x222893, 0x2228F6, 0x22291B, 0x222A0F, 0x222EFB, 0x22300C, 0x223930, 0x2239AF, 0x2239D6,
  0x223A0C, 0x223B4F, 0x223B70, 0x223C1B, 0x223C2F, 0x223EBB, 0x22400F, 0x22425B, 0x22426F,
  0x2247D1, 0x2247F8, 0x22485B, 0x225010, 0x2250FB, 0x225110, 0x22513B, 0x225150, 0x2251DB,
  0x2251F0, 0x2253DB, 0x2253F0, 0x22555B, 0x22560F, 0x225D7B, 0x225E0F, 0x225F5B, 0x226010,
  0x22602F, 0x22609B, 0x2260AF, 0x2261BB, 0x2261EF, 0x22623B, 0x22626F, 0x22653B, 0x22654F,
  0x22663B, 0x22664F, 0x22669B, 0x2266AF, 0x22675B, 0x226773, 0x22678F, 0x2268BB, 0x2268EF,
  0x22693B, 0x22696F, 0x2269DB, 0x226A10, 0x226A3B, 0x226AEF, 0x226B1B, 0x226BAF, 0x226C9B,
  0x226CCF, 0x226DBB, 0x226E0F, 0x226EBB, 0x22701A, 0x22715B, 0x22717A, 0x22719B, 0x2271DA,
  0x2271FB, 0x22721A, 0x2276DB, 0x2276FA, 0x22783B, 0x22785A, 0x22787B, 0x2278BA, 0x2278DB,
  0x2278FA, 0x22797B, 0x22799A, 0x227ADB, 0x227AFA, 0x227B3B, 0x227C3A, 0x227C7B, 0x228011,
  0x228B56, 0x228B71, 0x228B9B, 0x228BB1, 0x228BD3, 0x228BF4, 0x228C16, 0x228C5B, 0x22900F,
  0x22991B, 0x229A0F, 0x229B5B, 0x22B00F, 0x22B6DB, 0x22B70F, 0x22B950, 0x22BBDB, 0x22C00F,
  0x22C8BB, 0x22CA0F, 0x22CB5B, 0x22CC11, 0x22CDBB, 0x22D00C, 0x22D714, 0x22D737, 0x22D75B,
  0x22D80C, 0x22D95B, 0x22DA1A, 0x22DC9B, 0x22E010, 0x22E353, 0x22E37B, 0x22E3B0, 0x22E59B,
  0x22E610, 0x22E817, 0x22E8FB, 0x230013, 0x23079B, 0x23140F, 0x231E7B, 0x231FEF, 0x232016,
  0x2320FB, 0x232136, 0x23215B, 0x232196, 0x23229B, 0x2322B6, 0x2322FB, 0x232316, 0x2326DB,
  0x2326F6, 0x23273B, 0x232776, 0x2328FB, 0x232A16, 0x232B5B, 0x233414, 0x23351B, 0x233554,
  0x233B1B, 0x233B54, 0x233CBB, 0x234012, 0x23491B, 0x234A12, 0x235094, 0x2350D2, 0x2353B3,
  0x2353D2, 0x23547B, 0x235617, 0x23580F, 0x235F3B, 0x236018, 0x23615B, 0x23781A, 0x237C5B,
  0x237E1A, 0x237F5B, 0x238011, 0x23813B, 0x238151, 0x2386FB, 0x238711, 0x2388DB, 0x238A11,
  0x238DBB, 0x238E11, 0x23921B, 0x239251, 0x23951B, 0x239531, 0x2396FB, 0x23A012, 0x23A0FB,
  0x23A112, 0x23A15B, 0x23A172, 0x23A6FB, 0x23A752, 0x23A77B, 0x23A792, 0x23A7DB, 0x23A7F2,
  0x23A91B, 0x23AA12, 0x23AB5B, 0x23AC13, 0x23ACDB, 0x23ACF3, 0x23AD3B, 0x23AD53, 0x23B1FB,
  0x23B213, 0x23B25B, 0x23B273, 0x23B33B, 0x23B413, 0x23B55B, 0x23DC13, 0x23DF3B, 0x23E018,
  0x23E23B, 0x23E258, 0x23E77B, 0x23E7D8, 0x23EB5A, 0x23EB7B, 0x23F616, 0x23F63B, 0x23F814,
  0x23FE5B, 0x23FFF4, 0x240008, 0x246DEF, 0x247330, 0x24735B, 0x248008, 0x248C6F, 0x248DFB,
  0x248E08, 0x248E8F, 0x248EBB, 0x249010, 0x24A89B, 0x25F217, 0x25FE7B, 0x26000A, 0x2685F8,
  0x268614, 0x268738, 0x268ADB, 0x268C1A, 0x287F7B, 0x288010, 0x28C8FB, 0x2C201A, 0x2C275B,
  0x2D000B, 0x2D473B, 0x2D480F, 0x2D4BFB, 0x2D4C0F, 0x2D4D5B, 0x2D4DCF, 0x2D4E17, 0x2D57FB,
  0x2D5817, 0x2D595B, 0x2D5A0F, 0x2D5DDB, 0x2D5E0F, 0x2D5EDB, 0x2D600F, 0x2D68DB, 0x2D6A0F,
  0x2D6B5B, 0x2D6B6F, 0x2D6C5B, 0x2D6C6F, 0x2D6F1B, 0x2D6FAF, 0x2D721B, 0x2DA81A, 0x2DAF5B,
  0x2DC813, 0x2DD37B, 0x2DE00C, 0x2DE8B4, 0x2DE97B, 0x2DE9F4, 0x2DEA0C, 0x2DEFF4, 0x2DF11B,
  0x2DF1EC, 0x2DF41B, 0x2DFC11, 0x2DFC32, 0x2DFC54, 0x2DFC96, 0x2DFCBB, 0x2DFE16, 0x2DFE5B,
  0x2E0011, 0x30FDB3, 0x30FE54, 0x30FF1B, 0x310011, 0x315E76, 0x319ADB, 0x319FFA, 0x31A016,
  0x31A13B, 0x35FE17, 0x35FE9B, 0x35FEB7, 0x35FF9B, 0x35FFB7, 0x35FFFB, 0x36000B, 0x360052,
  0x3623F7, 0x36247B, 0x362658, 0x36267B, 0x362A14, 0x362A7B, 0x362AB8, 0x362ADB, 0x362C94,
  0x362D1B, 0x362E12, 0x365F9B, 0x37800F, 0x378D7B, 0x378E0F, 0x378FBB, 0x37900F, 0x37913B,
  0x37920F, 0x37935B, 0x37938F, 0x37949B, 0x39801A, 0x399F5B, 0x39A01A, 0x39D69B, 0x39E017,
  0x39E5DB, 0x39E617, 0x39E8FB, 0x39EA17, 0x39F89B, 0x3A0004, 0x3A1EDB, 0x3A2004, 0x3A24FB,
  0x3A2529, 0x3A2544, 0x3A3BD0, 0x3A3D37, 0x3A3D7B, 0x3A4007, 0x3A48DB, 0x3A5818, 0x3A5A9B,
  0x3A5C13, 0x3A5E9B, 0x3A6006, 0x3A6AFB, 0x3A6C08, 0x3A6E53, 0x3A6F3B, 0x3A8004, 0x3A8ABB,
  0x3A8AC4, 0x3A93BB, 0x3A93C4, 0x3A941B, 0x3A9444, 0x3A947B, 0x3A94A4, 0x3A94FB, 0x3A9524,
  0x3A95BB, 0x3A95C4, 0x3A975B, 0x3A9764, 0x3A979B, 0x3A97A4, 0x3A9826, 0x3A9844, 0x3A989B,
  0x3A98A4, 0x3AA0DB, 0x3AA0E4, 0x3AA17B, 0x3AA1A4, 0x3AA2BB, 0x3AA2C4, 0x3AA3BB, 0x3AA3C4,
  0x3AA75B, 0x3AA764, 0x3AA7FB, 0x3AA804, 0x3AA8BB, 0x3AA8C4, 0x3AA8FB, 0x3AA944, 0x3AAA3B,
  0x3AAA44, 0x3AD487, 0x3AD4DB, 0x3AD504, 0x3AF948, 0x3AF99B, 0x3AF9C4, 0x3B0010, 0x3B519B,
  0x3B5370, 0x3B541B, 0x3B5430, 0x3B561B, 0x3BE017, 0x3BE3FB, 0x3BE4B8, 0x3BE57B, 0x3C0011,
  0x3C00FB, 0x3C0111, 0x3C033B, 0x3C0371, 0x3C045B, 0x3C0471, 0x3C04BB, 0x3C04D1, 0x3C057B,
  0x3C0618, 0x3C0DDB, 0x3C11F8, 0x3C121B, 0x3C2014, 0x3C25BB, 0x3C2614, 0x3C27DB, 0x3C2814,
  0x3C295B, 0x3C29D4, 0x3C2A1B, 0x3C5217, 0x3C55FB, 0x3C5814, 0x3C5F5B, 0x3C5FF4, 0x3C601B,
  0x3C9A18, 0x3C9F5B, 0x3CBA1A, 0x3CBF7B, 0x3CBFFA, 0x3CC01B, 0x3CFC17, 0x3CFCFB, 0x3CFD17,
  0x3CFD9B, 0x3CFDB7, 0x3CFDFB, 0x3CFE17, 0x3CFFFB, 0x3D000F, 0x3D18BB, 0x3D18EF, 0x3D1AFB,
  0x3D2011, 0x3D2974, 0x3D299B, 0x3D2A11, 0x3D2B5B, 0x3D2BD1, 0x3D2C1B, 0x3D8E33, 0x3D96BB,
  0x3DA034, 0x3DA7DB, 0x3DC00C, 0x3DC09B, 0x3DC0AC, 0x3DC41B, 0x3DC42C, 0x3DC47B, 0x3DC48C,
  0x3DC4BB, 0x3DC4EC, 0x3DC51B, 0x3DC52C, 0x3DC67B, 0x3DC68C, 0x3DC71B, 0x3DC72C, 0x3DC75B,
  0x3DC76C, 0x3DC79B, 0x3DC84C, 0x3DC87B, 0x3DC8EC, 0x3DC91B, 0x3DC92C, 0x3DC95B, 0x3DC96C,
  0x3DC99B, 0x3DC9AC, 0x3DCA1B, 0x3DCA2C, 0x3DCA7B, 0x3DCA8C, 0x3DCABB, 0x3DCAEC, 0x3DCB1B,
  0x3DCB2C, 0x3DCB5B, 0x3DCB6C, 0x3DCB9B, 0x3DCBAC, 0x3DCBDB, 0x3DCBEC, 0x3DCC1B, 0x3DCC2C,
  0x3DCC7B, 0x3DCC8C, 0x3DCCBB, 0x3DCCEC, 0x3DCD7B, 0x3DCD8C, 0x3DCE7B, 0x3DCE8C, 0x3DCF1B,
  0x3DCF2C, 0x3DCFBB, 0x3DCFCC, 0x3DCFFB, 0x3DD00C, 0x3DD15B, 0x3DD16C, 0x3DD39B, 0x3DD42C,
  0x3DD49B, 0x3DD4AC, 0x3DD55B, 0x3DD56C, 0x3DD79B, 0x3DDE0C, 0x3DDE5B, 0x3E0009, 0x3E059B,
  0x3E0609, 0x3E129B, 0x3E140B, 0x3E15FB, 0x3E162B, 0x3E17EF, 0x3E181B, 0x3E182B, 0x3E1A1B,
  0x3E1A2B, 0x3E1C0F, 0x3E1EDB, 0x3E200A, 0x3E216F, 0x3E21B6, 0x3E220A, 0x3E25F3, 0x3E260B,
  0x3E262A, 0x3E264B, 0x3E27AA, 0x3E27CB, 0x3E27EA, 0x3E280B, 0x3E284A, 0x3E286B, 0x3E28CA,
  0x3E28EB, 0x3E294A, 0x3E29EB, 0x3E2AEA, 0x3E2B0B, 0x3E2BEA, 0x3E2C0B, 0x3E2D4C, 0x3E2D94,
  0x3E2DB6, 0x3E2E0B, 0x3E2F2A, 0x3E2F4B, 0x3E2F6A, 0x3E2FAB, 0x3E2FEA, 0x3E300B, 0x3E314A,
  0x3E31CB, 0x3E320A, 0x3E322B, 0x3E3371, 0x3E35B6, 0x3E35DB, 0x3E3CCB, 0x3E400A, 0x3E402B,
  0x3E407B, 0x3E420A, 0x3E464B, 0x3E4771, 0x3E479B, 0x3E480A, 0x3E493B, 0x3E4A0B, 0x3E4A5B,
  0x3E4C12, 0x3E4CDB, 0x3E600B, 0x3E642F, 0x3E65B0, 0x3E660B, 0x3E66CF, 0x3E66EB, 0x3E6FAF,
  0x3E6FD0, 0x3E700B, 0x3E728F, 0x3E740B, 0x3E78AF, 0x3E78CB, 0x3E796F, 0x3E79F0, 0x3E7A8F,
  0x3E7C0B, 0x3E7E2F, 0x3E7F10, 0x3E800B, 0x3E87EF, 0x3E880B, 0x3E882F, 0x3E884B, 0x3E9F0F,
  0x3E9F2B, 0x3E9FAF, 0x3E9FF0, 0x3EA00B, 0x3EA7CF, 0x3EA80C, 0x3EA88F, 0x3EA970, 0x3EAA0B,
  0x3EAD0F, 0x3EAF51, 0x3EAF6F, 0x3EB491, 0x3EB4AF, 0x3EBF6B, 0x3EC00C, 0x3EC02B, 0x3EC22C,
  0x3EC24B, 0x3EC2AC, 0x3EC2CB, 0x3EC2EC, 0x3EC30B, 0x3EC32C, 0x3EC34B, 0x3EC36C, 0x3EC38B,
  0x3EC3EC, 0x3EC40B, 0x3EC4CC, 0x3EC50B, 0x3EC58C, 0x3EC5AB, 0x3EC5CC, 0x3EC60B, 0x3EC68C,
  0x3EC6AB, 0x3EC82F, 0x3EC870, 0x3EC8AB, 0x3ECA0F, 0x3ED00B, 0x3ED8CF, 0x3EDA10, 0x3EDA31,
  0x3EDA72, 0x3EDAB4, 0x3EDAD6, 0x3EDB1B, 0x3EDB98, 0x3EDBB7, 0x3EDC0F, 0x3EDDBB, 0x3EDE0F,
  0x3EDE91, 0x3EDEF2, 0x3EDF33, 0x3EDF54, 0x3EDF76, 0x3EDFBB, 0x3EE00B, 0x3EEE98, 0x3EEEFB,
  0x3EEF78, 0x3EF00F, 0x3EFAB3, 0x3EFB38, 0x3EFB5B, 0x3EFC14, 0x3EFD9B, 0x3EFE17, 0x3EFE3B,
  0x3F000F, 0x3F019B, 0x3F020F, 0x3F091B, 0x3F0A0F, 0x3F0B5B, 0x3F0C0F, 0x3F111B, 0x3F120F,
  0x3F15DB, 0x3F1616, 0x3F165A, 0x3F179B, 0x3F181A, 0x3F185B, 0x3F2012, 0x3F2196, 0x3F21B4,
  0x3F2210, 0x3F2331, 0x3F23F2, 0x3F2411, 0x3F2512, 0x3F2611, 0x3F2632, 0x3F2671, 0x3F27F4,
  0x3F2811, 0x3F2992, 0x3F29B3, 0x3F2A11, 0x3F2BF2, 0x3F2D93, 0x3F2E34, 0x3F2E56, 0x3F2E73,
  0x3F2EF6, 0x3F2F37, 0x3F2F53, 0x3F2F74, 0x3F2F93, 0x3F3010, 0x3F30B1, 0x3F3252, 0x3F3313,
  0x3F3476, 0x3F34B4, 0x3F3576, 0x3F35D4, 0x3F3613, 0x3F3754, 0x3F3810, 0x3F3833, 0x3F3874,
  0x3F3976, 0x3F3997, 0x3F39B4, 0x3F3A12, 0x3F3CF3, 0x3F4014, 0x3F4A9B, 0x3F4C13, 0x3F4DDB,
  0x3F4E14, 0x3F4E96, 0x3F4EB8, 0x3F4F14, 0x3F4F77, 0x3F4FBB, 0x3F5014, 0x3F5076, 0x3F50F8,
  0x3F513A, 0x3F515B, 0x3F51FA, 0x3F5214, 0x3F52D6, 0x3F5537, 0x3F55B8, 0x3F5616, 0x3F56F7,
  0x3F5778, 0x3F57DA, 0x3F57F8, 0x3F5816, 0x3F5877, 0x3F58DA, 0x3F58FB, 0x3F59D8, 0x3F5A16,
  0x3F5AF7, 0x3F5B58, 0x3F5B9A, 0x3F5BBB, 0x3F5BFA, 0x3F5C17, 0x3F5D18, 0x3F5D3A, 0x3F5D5B,
  0x3F5E17, 0x3F5EF8, 0x3F5F3B, 0x3F6016, 0x3F727B, 0x3F7296, 0x3F797A, 0x3F7E16, 0x3F7F5B,
  0x3FFFC1, 0x400004, 0x54DAF6, 0x54DBD7, 0x54DC1B, 0x54E00A, 0x56E6B7, 0x56E738, 0x56E75B,
  0x56E80B, 0x5703DB, 0x570410, 0x59D45B, 0x59D612, 0x5D7C3B, 0x5D7E19, 0x5DCBDB, 0x5F0004,
  0x5F43DB, 0x5FFFC1, 0x600016, 0x62697B, 0x626A18, 0x64761B, 0x7FFFC1, 0x80001B, 0x9FFFC1,
  0xA0001B, 0xBFFFC1, 0xC0001B, 0xDFFFC1, 0xE0001B, 0xFFFFC1, 0x100001B, 0x11FFFC1, 0x120001B,
  0x13FFFC1, 0x140001B, 0x15FFFC1, 0x160001B, 0x17FFFC1, 0x180001B, 0x19FFFC1, 0x1A0001B,
  0x1BFFFC1, 0x1C0001B, 0x1C00024, 0x1C0005B, 0x1C00404, 0x1C0101B, 0x1C02006, 0x1C03E1B,
  0x1DFFFC1]

/-- Where the age changes and to which one. -/
def ageChanges : Array Nat := ageChangesLow ++ ageChangesMiddle ++ ageChangesHigh ++ ageChangesTop

end OutputArranger.Unicode
