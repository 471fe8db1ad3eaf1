/-!
# Scripts

The script of every code point. An entry is a code point times 256 plus the number of the script
that holds from there on; scripts are numbered in the order of `scriptNames`.
-/

namespace OutputArranger.Unicode

/-- The names of the scripts, in the order of their numbers. -/
def scriptNames : List String :=
  ["Common", "Latin", "Bopomofo", "Inherited", "Greek", "Unknown", "Coptic", "Cyrillic",
   "Armenian", "Hebrew", "Arabic", "Syriac", "Thaana", "Nko", "Samaritan", "Mandaic",
   "Devanagari", "Bengali", "Gurmukhi", "Gujarati", "Oriya", "Tamil", "Telugu", "Kannada",
   "Malayalam", "Sinhala", "Thai", "Lao", "Tibetan", "Myanmar", "Georgian", "Hangul", "Ethiopic",
   "Cherokee", "Canadian_Aboriginal", "Ogham", "Runic", "Tagalog", "Hanunoo", "Buhid", "Tagbanwa",
   "Khmer", "Mongolian", "Limbu", "Tai_Le", "New_Tai_Lue", "Buginese", "Tai_Tham", "Balinese",
   "Sundanese", "Batak", "Lepcha", "Ol_Chiki", "Braille", "Glagolitic", "Tifinagh", "Han",
   "Hiragana", "Katakana", "Yi", "Lisu", "Vai", "Bamum", "Syloti_Nagri", "Phags_Pa", "Saurashtra",
   "Kayah_Li", "Rejang", "Javanese", "Cham", "Tai_Viet", "Meetei_Mayek", "Linear_B", "Lycian",
   "Carian", "Old_Italic", "Gothic", "Old_Permic", "Ugaritic", "Old_Persian", "Deseret",
   "Shavian", "Osmanya", "Osage", "Elbasan", "Caucasian_Albanian", "Vithkuqi", "Linear_A",
   "Cypriot", "Imperial_Aramaic", "Palmyrene", "Nabataean", "Hatran", "Phoenician", "Lydian",
   "Meroitic_Hieroglyphs", "Meroitic_Cursive", "Kharoshthi", "Old_South_Arabian",
   "Old_North_Arabian", "Manichaean", "Avestan", "Inscriptional_Parthian",
   "Inscriptional_Pahlavi", "Psalter_Pahlavi", "Old_Turkic", "Old_Hungarian", "Hanifi_Rohingya",
   "Yezidi", "Old_Sogdian", "Sogdian", "Old_Uyghur", "Chorasmian", "Elymaic", "Brahmi", "Kaithi",
   "Sora_Sompeng", "Chakma", "Mahajani", "Sharada", "Khojki", "Multani", "Khudawadi", "Grantha",
   "Newa", "Tirhuta", "Siddham", "Modi", "Takri", "Ahom", "Dogra", "Warang_Citi", "Dives_Akuru",
   "Nandinagari", "Zanabazar_Square", "Soyombo", "Pau_Cin_Hau", "Bhaiksuki", "Marchen",
   "Masaram_Gondi", "Gunjala_Gondi", "Makasar", "Kawi", "Cuneiform", "Cypro_Minoan",
   "Egyptian_Hieroglyphs", "Anatolian_Hieroglyphs", "Mro", "Tangsa", "Bassa_Vah", "Pahawh_Hmong",
   "Medefaidrin", "Miao", "Tangut", "Nushu", "Khitan_Small_Script", "Duployan", "SignWriting",
   "Nyiakeng_Puachue_Hmong", "Toto", "Wancho", "Nag_Mundari", "Mende_Kikakui", "Adlam", "Todhri",
   "Sunuwar", "Kirat_Rai", "Tulu_Tigalari", "Garay", "Gurung_Khema", "Ol_Onal"]

/-- The four-letter codes of the scripts, in the same order. -/
def scriptCodes : List String :=
  ["Zyyy", "Latn", "Bopo", "Zinh", "Grek", "Zzzz", "Copt", "Cyrl", "Armn", "Hebr", "Arab", "Syrc",
   "Thaa", "Nkoo", "Samr", "Mand", "Deva", "Beng", "Guru", "Gujr", "Orya", "Taml", "Telu", "Knda",
   "Mlym", "Sinh", "Thai", "Laoo", "Tibt", "Mymr", "Geor", "Hang", "Ethi", "Cher", "Cans", "Ogam",
   "Runr", "Tglg", "Hano", "Buhd", "Tagb", "Khmr", "Mong", "Limb", "Tale", "Talu", "Bugi", "Lana",
   "Bali", "Sund", "Batk", "Lepc", "Olck", "Brai", "Glag", "Tfng", "Hani", "Hira", "Kana", "Yiii",
   "Lisu", "Vaii", "Bamu", "Sylo", "Phag", "Saur", "Kali", "Rjng", "Java", "Cham", "Tavt", "Mtei",
   "Linb", "Lyci", "Cari", "Ital", "Goth", "Perm", "Ugar", "Xpeo", "Dsrt", "Shaw", "Osma", "Osge",
   "Elba", "Aghb", "Vith", "Lina", "Cprt", "Armi", "Palm", "Nbat", "Hatr", "Phnx", "Lydi", "Mero",
   "Merc", "Khar", "Sarb", "Narb", "Mani", "Avst", "Prti", "Phli", "Phlp", "Orkh", "Hung", "Rohg",
   "Yezi", "Sogo", "Sogd", "Ougr", "Chrs", "Elym", "Brah", "Kthi", "Sora", "Cakm", "Mahj", "Shrd",
   "Khoj", "Mult", "Sind", "Gran", "Newa", "Tirh", "Sidd", "Modi", "Takr", "Ahom", "Dogr", "Wara",
   "Diak", "Nand", "Zanb", "Soyo", "Pauc", "Bhks", "Marc", "Gonm", "Gong", "Maka", "Kawi", "Xsux",
   "Cpmn", "Egyp", "Hluw", "Mroo", "Tnsa", "Bass", "Hmng", "Medf", "Plrd", "Tang", "Nshu", "Kits",
   "Dupl", "Sgnw", "Hmnp", "Toto", "Wcho", "Nagm", "Mend", "Adlm", "Todr", "Sunu", "Krai", "Tutg",
   "Gara", "Gukh", "Onao"]

/-- Where the script changes and to which one, from code point 0x0 on. -/
def scriptChangesLow : Array Nat := #[
  0x0, 0x4101, 0x5B00, 0x6101, 0x7B00, 0xAA01, 0xAB00, 0xBA01, 0xBB00, 0xC001, 0xD700, 0xD801,
  0xF700, 0xF801, 0x2B900, 0x2E001, 0x2E500, 0x2EA02, 0x2EC00, 0x30003, 0x37004, 0x37400, 0x37504,
  0x37805, 0x37A04, 0x37E00, 0x37F04, 0x38005, 0x38404, 0x38500, 0x38604, 0x38700, 0x38804,
  0x38B05, 0x38C04, 0x38D05, 0x38E04, 0x3A205, 0x3A304, 0x3E206, 0x3F004, 0x40007, 0x48503,
  0x48707, 0x53005, 0x53108, 0x55705, 0x55908, 0x58B05, 0x58D08, 0x59005, 0x59109, 0x5C805,
  0x5D009, 0x5EB05, 0x5EF09, 0x5F505, 0x6000A, 0x60500, 0x6060A, 0x60C00, 0x60D0A, 0x61B00,
  0x61C0A, 0x61F00, 0x6200A, 0x64000, 0x6410A, 0x64B03, 0x6560A, 0x67003, 0x6710A, 0x6DD00,
  0x6DE0A, 0x7000B, 0x70E05, 0x70F0B, 0x74B05, 0x74D0B, 0x7500A, 0x7800C, 0x7B205, 0x7C00D,
  0x7FB05, 0x7FD0D, 0x8000E, 0x82E05, 0x8300E, 0x83F05, 0x8400F, 0x85C05, 0x85E0F, 0x85F05,
  0x8600B, 0x86B05, 0x8700A, 0x88F05, 0x8900A, 0x89205, 0x8970A, 0x8E200, 0x8E30A, 0x90010,
  0x95103, 0x95510, 0x96400, 0x96610, 0x98011, 0x98405, 0x98511, 0x98D05, 0x98F11, 0x99105,
  0x99311, 0x9A905, 0x9AA11, 0x9B105, 0x9B211, 0x9B305, 0x9B611, 0x9BA05, 0x9BC11, 0x9C505,
  0x9C711, 0x9C905, 0x9CB11, 0x9CF05, 0x9D711, 0x9D805, 0x9DC11, 0x9DE05, 0x9DF11, 0x9E405,
  0x9E611, 0x9FF05, 0xA0112, 0xA0405, 0xA0512, 0xA0B05, 0xA0F12, 0xA1105, 0xA1312, 0xA2905,
  0xA2A12, 0xA3105, 0xA3212, 0xA3405, 0xA3512, 0xA3705, 0xA3812, 0xA3A05, 0xA3C12, 0xA3D05,
  0xA3E12, 0xA4305, 0xA4712, 0xA4905, 0xA4B12, 0xA4E05, 0xA5112, 0xA5205, 0xA5912, 0xA5D05,
  0xA5E12, 0xA5F05, 0xA6612, 0xA7705, 0xA8113, 0xA8405, 0xA8513, 0xA8E05, 0xA8F13, 0xA9205,
  0xA9313, 0xAA905, 0xAAA13, 0xAB105, 0xAB213, 0xAB405, 0xAB513, 0xABA05, 0xABC13, 0xAC605,
  0xAC713, 0xACA05, 0xACB13, 0xACE05, 0xAD013, 0xAD105, 0xAE013, 0xAE405, 0xAE613, 0xAF205,
  0xAF913, 0xB0005, 0xB0114, 0xB0405, 0xB0514, 0xB0D05, 0xB0F14, 0xB1105, 0xB1314, 0xB2905,
  0xB2A14, 0xB3105, 0xB3214, 0xB3405, 0xB3514, 0xB3A05, 0xB3C14, 0xB4505, 0xB4714, 0xB4905,
  0xB4B14, 0xB4E05, 0xB5514, 0xB5805, 0xB5C14, 0xB5E05, 0xB5F14, 0xB6405, 0xB6614, 0xB7805,
  0xB8215, 0xB8405, 0xB8515, 0xB8B05, 0xB8E15, 0xB9105, 0xB9215, 0xB9605, 0xB9915, 0xB9B05,
  0xB9C15, 0xB9D05, 0xB9E15, 0xBA005, 0xBA315, 0xBA505, 0xBA815, 0xBAB05, 0xBAE15, 0xBBA05,
  0xBBE15, 0xBC305, 0xBC615, 0xBC905, 0xBCA15, 0xBCE05, 0xBD015, 0xBD105, 0xBD715, 0xBD805,
  0xBE615, 0xBFB05, 0xC0016, 0xC0D05, 0xC0E16, 0xC1105, 0xC1216, 0xC2905, 0xC2A16, 0xC3A05,
  0xC3C16, 0xC4505, 0xC4616, 0xC4905, 0xC4A16, 0xC4E05, 0xC5516, 0xC5705, 0xC5816, 0xC5B05,
  0xC5D16, 0xC5E05, 0xC6016, 0xC6405, 0xC6616, 0xC7005, 0xC7716, 0xC8017, 0xC8D05, 0xC8E17,
  0xC9105, 0xC9217, 0xCA905, 0xCAA17, 0xCB405, 0xCB517, 0xCBA05, 0xCBC17, 0xCC505, 0xCC617,
  0xCC905, 0xCCA17, 0xCCE05, 0xCD517, 0xCD705, 0xCDD17, 0xCDF05, 0xCE017, 0xCE405, 0xCE617,
  0xCF005, 0xCF117, 0xCF405, 0xD0018, 0xD0D05, 0xD0E18, 0xD1105, 0xD1218, 0xD4505, 0xD4618,
  0xD4905, 0xD4A18, 0xD5005, 0xD5418, 0xD6405, 0xD6618, 0xD8005, 0xD8119, 0xD8405, 0xD8519,
  0xD9705, 0xD9A19, 0xDB205, 0xDB319, 0xDBC05, 0xDBD19, 0xDBE05, 0xDC019, 0xDC705, 0xDCA19,
  0xDCB05, 0xDCF19, 0xDD505, 0xDD619, 0xDD705, 0xDD819, 0xDE005, 0xDE619, 0xDF005, 0xDF219,
  0xDF505, 0xE011A, 0xE3B05, 0xE3F00, 0xE401A, 0xE5C05, 0xE811B, 0xE8305, 0xE841B, 0xE8505,
  0xE861B, 0xE8B05, 0xE8C1B, 0xEA405, 0xEA51B, 0xEA605, 0xEA71B, 0xEBE05, 0xEC01B, 0xEC505,
  0xEC61B, 0xEC705, 0xEC81B, 0xECF05, 0xED01B, 0xEDA05, 0xEDC1B, 0xEE005, 0xF001C, 0xF4805,
  0xF491C, 0xF6D05, 0xF711C, 0xF9805, 0xF991C, 0xFBD05, 0xFBE1C, 0xFCD05, 0xFCE1C, 0xFD500,
  0xFD91C, 0xFDB05]

/-- Where the script changes and to which one, from code point 0x1000 on. -/
def scriptChangesMiddle : Array Nat := #[
  0x10001D, 0x10A01E, 0x10C605, 0x10C71E, 0x10C805, 0x10CD1E, 0x10CE05, 0x10D01E, 0x10FB00,
  0x10FC1E, 0x11001F, 0x120020, 0x124905, 0x124A20, 0x124E05, 0x125020, 0x125705, 0x125820,
  0x125905, 0x125A20, 0x125E05, 0x126020, 0x128905, 0x128A20, 0x128E05, 0x129020, 0x12B105,
  0x12B220, 0x12B605, 0x12B820, 0x12BF05, 0x12C020, 0x12C105, 0x12C220, 0x12C605, 0x12C820,
  0x12D705, 0x12D820, 0x131105, 0x131220, 0x131605, 0x131820, 0x135B05, 0x135D20, 0x137D05,
  0x138020, 0x139A05, 0x13A021, 0x13F605, 0x13F821, 0x13FE05, 0x140022, 0x168023, 0x169D05,
  0x16A024, 0x16EB00, 0x16EE24, 0x16F905, 0x170025, 0x171605, 0x171F25, 0x172026, 0x173500,
  0x173705, 0x174027, 0x175405, 0x176028, 0x176D05, 0x176E28, 0x177105, 0x177228, 0x177405,
  0x178029, 0x17DE05, 0x17E029, 0x17EA05, 0x17F029, 0x17FA05, 0x18002A, 0x180200, 0x18042A,
  0x180500, 0x18062A, 0x181A05, 0x18202A, 0x187905, 0x18802A, 0x18AB05, 0x18B022, 0x18F605,
  0x19002B, 0x191F05, 0x19202B, 0x192C05, 0x19302B, 0x193C05, 0x19402B, 0x194105, 0x19442B,
  0x19502C, 0x196E05, 0x19702C, 0x197505, 0x19802D, 0x19AC05, 0x19B02D, 0x19CA05, 0x19D02D,
  0x19DB05, 0x19DE2D, 0x19E029, 0x1A002E, 0x1A1C05, 0x1A1E2E, 0x1A202F, 0x1A5F05, 0x1A602F,
  0x1A7D05, 0x1A7F2F, 0x1A8A05, 0x1A902F, 0x1A9A05, 0x1AA02F, 0x1AAE05, 0x1AB003, 0x1ACF05,
  0x1B0030, 0x1B4D05, 0x1B4E30, 0x1B8031, 0x1BC032, 0x1BF405, 0x1BFC32, 0x1C0033, 0x1C3805,
  0x1C3B33, 0x1C4A05, 0x1C4D33, 0x1C5034, 0x1C8007, 0x1C8B05, 0x1C901E, 0x1CBB05, 0x1CBD1E,
  0x1CC031, 0x1CC805, 0x1CD003, 0x1CD300, 0x1CD403, 0x1CE100, 0x1CE203, 0x1CE900, 0x1CED03,
  0x1CEE00, 0x1CF403, 0x1CF500, 0x1CF803, 0x1CFA00, 0x1CFB05, 0x1D0001, 0x1D2604, 0x1D2B07,
  0x1D2C01, 0x1D5D04, 0x1D6201, 0x1D6604, 0x1D6B01, 0x1D7807, 0x1D7901, 0x1DBF04, 0x1DC003,
  0x1E0001, 0x1F0004, 0x1F1605, 0x1F1804, 0x1F1E05, 0x1F2004, 0x1F4605, 0x1F4804, 0x1F4E05,
  0x1F5004, 0x1F5805, 0x1F5904, 0x1F5A05, 0x1F5B04, 0x1F5C05, 0x1F5D04, 0x1F5E05, 0x1F5F04,
  0x1F7E05, 0x1F8004, 0x1FB505, 0x1FB604, 0x1FC505, 0x1FC604, 0x1FD405, 0x1FD604, 0x1FDC05,
  0x1FDD04, 0x1FF005, 0x1FF204, 0x1FF505, 0x1FF604, 0x1FFF05, 0x200000, 0x200C03, 0x200E00,
  0x206505, 0x206600, 0x207101, 0x207205, 0x207400, 0x207F01, 0x208000, 0x208F05, 0x209001,
  0x209D05, 0x20A000, 0x20C105, 0x20D003, 0x20F105, 0x210000, 0x212604, 0x212700, 0x212A01,
  0x212C00, 0x213201, 0x213300, 0x214E01, 0x214F00, 0x216001, 0x218900, 0x218C05, 0x219000,
  0x242A05, 0x244000, 0x244B05, 0x246000, 0x280035, 0x290000, 0x2B7405, 0x2B7600, 0x2B9605,
  0x2B9700, 0x2C0036, 0x2C6001, 0x2C8006, 0x2CF405, 0x2CF906, 0x2D001E, 0x2D2605, 0x2D271E,
  0x2D2805, 0x2D2D1E, 0x2D2E05, 0x2D3037, 0x2D6805, 0x2D6F37, 0x2D7105, 0x2D7F37, 0x2D8020,
  0x2D9705, 0x2DA020, 0x2DA705, 0x2DA820, 0x2DAF05, 0x2DB020, 0x2DB705, 0x2DB820, 0x2DBF05,
  0x2DC020, 0x2DC705, 0x2DC820, 0x2DCF05, 0x2DD020, 0x2DD705, 0x2DD820, 0x2DDF05, 0x2DE007,
  0x2E0000, 0x2E5E05, 0x2E8038, 0x2E9A05, 0x2E9B38, 0x2EF405, 0x2F0038, 0x2FD605, 0x2FF000,
  0x300538, 0x300600, 0x300738, 0x300800, 0x302138, 0x302A03, 0x302E1F, 0x303000, 0x303838,
  0x303C00, 0x304005, 0x304139, 0x309705, 0x309903, 0x309B00, 0x309D39, 0x30A000, 0x30A13A,
  0x30FB00, 0x30FD3A, 0x310005, 0x310502, 0x313005, 0x31311F, 0x318F05, 0x319000, 0x31A002,
  0x31C000, 0x31E605, 0x31EF00, 0x31F03A, 0x32001F, 0x321F05, 0x322000, 0x32601F, 0x327F00,
  0x32D03A, 0x32FF00, 0x33003A, 0x335800, 0x340038, 0x4DC000, 0x4E0038]

/-- Where the script changes and to which one, from code point 0xA000 on. -/
def scriptChangesHigh : Array Nat := #[
  0xA0003B, 0xA48D05, 0xA4903B, 0xA4C705, 0xA4D03C, 0xA5003D, 0xA62C05, 0xA64007, 0xA6A03E,
  0xA6F805, 0xA70000, 0xA72201, 0xA78800, 0xA78B01, 0xA7CE05, 0xA7D001, 0xA7D205, 0xA7D301,
  0xA7D405, 0xA7D501, 0xA7DD05, 0xA7F201, 0xA8003F, 0xA82D05, 0xA83000, 0xA83A05, 0xA84040,
  0xA87805, 0xA88041, 0xA8C605, 0xA8CE41, 0xA8DA05, 0xA8E010, 0xA90042, 0xA92E00, 0xA92F42,
  0xA93043, 0xA95405, 0xA95F43, 0xA9601F, 0xA97D05, 0xA98044, 0xA9CE05, 0xA9CF00, 0xA9D044,
  0xA9DA05, 0xA9DE44, 0xA9E01D, 0xA9FF05, 0xAA0045, 0xAA3705, 0xAA4045, 0xAA4E05, 0xAA5045,
  0xAA5A05, 0xAA5C45, 0xAA601D, 0xAA8046, 0xAAC305, 0xAADB46, 0xAAE047, 0xAAF705, 0xAB0120,
  0xAB0705, 0xAB0920, 0xAB0F05, 0xAB1120, 0xAB1705, 0xAB2020, 0xAB2705, 0xAB2820, 0xAB2F05,
  0xAB3001, 0xAB5B00, 0xAB5C01, 0xAB6504, 0xAB6601, 0xAB6A00, 0xAB6C05, 0xAB7021, 0xABC047,
  0xABEE05, 0xABF047, 0xABFA05, 0xAC001F, 0xD7A405, 0xD7B01F, 0xD7C705, 0xD7CB1F, 0xD7FC05,
  0xF90038, 0xFA6E05, 0xFA7038, 0xFADA05, 0xFB0001, 0xFB0705, 0xFB1308, 0xFB1805, 0xFB1D09,
  0xFB3705, 0xFB3809, 0xFB3D05, 0xFB3E09, 0xFB3F05, 0xFB4009, 0xFB4205, 0xFB4309, 0xFB4505,
  0xFB4609, 0xFB500A, 0xFBC305, 0xFBD30A, 0xFD3E00, 0xFD400A, 0xFD9005, 0xFD920A, 0xFDC805,
  0xFDCF0A, 0xFDD005, 0xFDF00A, 0xFE0003, 0xFE1000, 0xFE1A05, 0xFE2003, 0xFE2E07, 0xFE3000,
  0xFE5305, 0xFE5400, 0xFE6705, 0xFE6800, 0xFE6C05, 0xFE700A, 0xFE7505, 0xFE760A, 0xFEFD05,
  0xFEFF00, 0xFF0005, 0xFF0100, 0xFF2101, 0xFF3B00, 0xFF4101, 0xFF5B00, 0xFF663A, 0xFF7000,
  0xFF713A, 0xFF9E00, 0xFFA01F, 0xFFBF05, 0xFFC21F, 0xFFC805, 0xFFCA1F, 0xFFD005, 0xFFD21F,
  0xFFD805, 0xFFDA1F, 0xFFDD05, 0xFFE000, 0xFFE705, 0xFFE800, 0xFFEF05, 0xFFF900, 0xFFFE05,
  0x1000048, 0x1000C05, 0x1000D48, 0x1002705, 0x1002848, 0x1003B05, 0x1003C48, 0x1003E05,
  0x1003F48, 0x1004E05, 0x1005048, 0x1005E05, 0x1008048, 0x100FB05, 0x1010000, 0x1010305,
  0x1010700, 0x1013405, 0x1013700, 0x1014004, 0x1018F05, 0x1019000, 0x1019D05, 0x101A004,
  0x101A105, 0x101D000, 0x101FD03, 0x101FE05, 0x1028049, 0x1029D05, 0x102A04A, 0x102D105,
  0x102E003, 0x102E100, 0x102FC05, 0x103004B, 0x1032405, 0x1032D4B, 0x103304C, 0x1034B05,
  0x103504D, 0x1037B05, 0x103804E, 0x1039E05, 0x1039F4E, 0x103A04F, 0x103C405, 0x103C84F,
  0x103D605, 0x1040050, 0x1045051, 0x1048052, 0x1049E05, 0x104A052, 0x104AA05, 0x104B053,
  0x104D405, 0x104D853, 0x104FC05, 0x1050054, 0x1052805, 0x1053055, 0x1056405, 0x1056F55,
  0x1057056, 0x1057B05, 0x1057C56, 0x1058B05, 0x1058C56, 0x1059305, 0x1059456, 0x1059605,
  0x1059756, 0x105A205, 0x105A356, 0x105B205, 0x105B356, 0x105BA05, 0x105BB56, 0x105BD05,
  0x105C0A4, 0x105F405, 0x1060057, 0x1073705, 0x1074057, 0x1075605, 0x1076057, 0x1076805,
  0x1078001, 0x1078605, 0x1078701, 0x107B105, 0x107B201, 0x107BB05, 0x1080058, 0x1080605,
  0x1080858, 0x1080905, 0x1080A58, 0x1083605, 0x1083758, 0x1083905, 0x1083C58, 0x1083D05,
  0x1083F58, 0x1084059, 0x1085605, 0x1085759, 0x108605A, 0x108805B, 0x1089F05, 0x108A75B,
  0x108B005, 0x108E05C, 0x108F305, 0x108F45C, 0x108F605, 0x108FB5C, 0x109005D, 0x1091C05,
  0x1091F5D, 0x109205E, 0x1093A05, 0x1093F5E, 0x1094005, 0x109805F, 0x109A060, 0x109B805,
  0x109BC60, 0x109D005, 0x109D260, 0x10A0061, 0x10A0405, 0x10A0561, 0x10A0705, 0x10A0C61,
  0x10A1405, 0x10A1561, 0x10A1805, 0x10A1961, 0x10A3605, 0x10A3861, 0x10A3B05, 0x10A3F61,
  0x10A4905, 0x10A5061, 0x10A5905, 0x10A6062, 0x10A8063, 0x10AA005, 0x10AC064, 0x10AE705,
  0x10AEB64, 0x10AF705, 0x10B0065, 0x10B3605, 0x10B3965, 0x10B4066, 0x10B5605, 0x10B5866,
  0x10B6067, 0x10B7305, 0x10B7867, 0x10B8068, 0x10B9205, 0x10B9968, 0x10B9D05, 0x10BA968,
  0x10BB005, 0x10C0069, 0x10C4905, 0x10C806A, 0x10CB305, 0x10CC06A, 0x10CF305, 0x10CFA6A,
  0x10D006B, 0x10D2805, 0x10D306B, 0x10D3A05, 0x10D40A8, 0x10D6605, 0x10D69A8, 0x10D8605,
  0x10D8EA8, 0x10D9005, 0x10E600A, 0x10E7F05, 0x10E806C, 0x10EAA05, 0x10EAB6C, 0x10EAE05,
  0x10EB06C, 0x10EB205, 0x10EC20A, 0x10EC505, 0x10EFC0A, 0x10F006D, 0x10F2805, 0x10F306E,
  0x10F5A05, 0x10F706F, 0x10F8A05, 0x10FB070, 0x10FCC05, 0x10FE071, 0x10FF705]

/-- Where the script changes and to which one, from code point 0x11000 on. -/
def scriptChangesTop : Array Nat := #[
  0x1100072, 0x1104E05, 0x1105272, 0x1107605, 0x1107F72, 0x1108073, 0x110C305, 0x110CD73,
  0x110CE05, 0x110D074, 0x110E905, 0x110F074, 0x110FA05, 0x1110075, 0x1113505, 0x1113675,
  0x1114805, 0x1115076, 0x1117705, 0x1118077, 0x111E005, 0x111E119, 0x111F505, 0x1120078,
  0x1121205, 0x1121378, 0x1124205, 0x1128079, 0x1128705, 0x1128879, 0x1128905, 0x1128A79,
  0x1128E05, 0x1128F79, 0x1129E05, 0x1129F79, 0x112AA05, 0x112B07A, 0x112EB05, 0x112F07A,
  0x112FA05, 0x113007B, 0x1130405, 0x113057B, 0x1130D05, 0x1130F7B, 0x1131105, 0x113137B,
  0x1132905, 0x1132A7B, 0x1133105, 0x113327B, 0x1133405, 0x113357B, 0x1133A05, 0x1133B03,
  0x1133C7B, 0x1134505, 0x113477B, 0x1134905, 0x1134B7B, 0x1134E05, 0x113507B, 0x1135105,
  0x113577B, 0x1135805, 0x1135D7B, 0x1136405, 0x113667B, 0x1136D05, 0x113707B, 0x1137505,
  0x11380A7, 0x1138A05, 0x1138BA7, 0x1138C05, 0x1138EA7, 0x1138F05, 0x11390A7, 0x113B605,
  0x113B7A7, 0x113C105, 0x113C2A7, 0x113C305, 0x113C5A7, 0x113C605, 0x113C7A7, 0x113CB05,
  0x113CCA7, 0x113D605, 0x113D7A7, 0x113D905, 0x113E1A7, 0x113E305, 0x114007C, 0x1145C05,
  0x1145D7C, 0x1146205, 0x114807D, 0x114C805, 0x114D07D, 0x114DA05, 0x115807E, 0x115B605,
  0x115B87E, 0x115DE05, 0x116007F, 0x1164505, 0x116507F, 0x1165A05, 0x116602A, 0x1166D05,
  0x1168080, 0x116BA05, 0x116C080, 0x116CA05, 0x116D01D, 0x116E405, 0x1170081, 0x1171B05,
  0x1171D81, 0x1172C05, 0x1173081, 0x1174705, 0x1180082, 0x1183C05, 0x118A083, 0x118F305,
  0x118FF83, 0x1190084, 0x1190705, 0x1190984, 0x1190A05, 0x1190C84, 0x1191405, 0x1191584,
  0x1191705, 0x1191884, 0x1193605, 0x1193784, 0x1193905, 0x1193B84, 0x1194705, 0x1195084,
  0x1195A05, 0x119A085, 0x119A805, 0x119AA85, 0x119D805, 0x119DA85, 0x119E505, 0x11A0086,
  0x11A4805, 0x11A5087, 0x11AA305, 0x11AB022, 0x11AC088, 0x11AF905, 0x11B0010, 0x11B0A05,
  0x11BC0A5, 0x11BE205, 0x11BF0A5, 0x11BFA05, 0x11C0089, 0x11C0905, 0x11C0A89, 0x11C3705,
  0x11C3889, 0x11C4605, 0x11C5089, 0x11C6D05, 0x11C708A, 0x11C9005, 0x11C928A, 0x11CA805,
  0x11CA98A, 0x11CB705, 0x11D008B, 0x11D0705, 0x11D088B, 0x11D0A05, 0x11D0B8B, 0x11D3705,
  0x11D3A8B, 0x11D3B05, 0x11D3C8B, 0x11D3E05, 0x11D3F8B, 0x11D4805, 0x11D508B, 0x11D5A05,
  0x11D608C, 0x11D6605, 0x11D678C, 0x11D6905, 0x11D6A8C, 0x11D8F05, 0x11D908C, 0x11D9205,
  0x11D938C, 0x11D9905, 0x11DA08C, 0x11DAA05, 0x11EE08D, 0x11EF905, 0x11F008E, 0x11F1105,
  0x11F128E, 0x11F3B05, 0x11F3E8E, 0x11F5B05, 0x11FB03C, 0x11FB105, 0x11FC015, 0x11FF205,
  0x11FFF15, 0x120008F, 0x1239A05, 0x124008F, 0x1246F05, 0x124708F, 0x1247505, 0x124808F,
  0x1254405, 0x12F9090, 0x12FF305, 0x1300091, 0x1345605, 0x1346091, 0x143FB05, 0x1440092,
  0x1464705, 0x16100A9, 0x1613A05, 0x168003E, 0x16A3905, 0x16A4093, 0x16A5F05, 0x16A6093,
  0x16A6A05, 0x16A6E93, 0x16A7094, 0x16ABF05, 0x16AC094, 0x16ACA05, 0x16AD095, 0x16AEE05,
  0x16AF095, 0x16AF605, 0x16B0096, 0x16B4605, 0x16B5096, 0x16B5A05, 0x16B5B96, 0x16B6205,
  0x16B6396, 0x16B7805, 0x16B7D96, 0x16B9005, 0x16D40A6, 0x16D7A05, 0x16E4097, 0x16E9B05,
  0x16F0098, 0x16F4B05, 0x16F4F98, 0x16F8805, 0x16F8F98, 0x16FA005, 0x16FE099, 0x16FE19A,
  0x16FE238, 0x16FE49B, 0x16FE505, 0x16FF038, 0x16FF205, 0x1700099, 0x187F805, 0x1880099,
  0x18B009B, 0x18CD605, 0x18CFF9B, 0x18D0099, 0x18D0905, 0x1AFF03A, 0x1AFF405, 0x1AFF53A,
  0x1AFFC05, 0x1AFFD3A, 0x1AFFF05, 0x1B0003A, 0x1B00139, 0x1B1203A, 0x1B12305, 0x1B13239,
  0x1B13305, 0x1B15039, 0x1B15305, 0x1B1553A, 0x1B15605, 0x1B1643A, 0x1B16805, 0x1B1709A,
  0x1B2FC05, 0x1BC009C, 0x1BC6B05, 0x1BC709C, 0x1BC7D05, 0x1BC809C, 0x1BC8905, 0x1BC909C,
  0x1BC9A05, 0x1BC9C9C, 0x1BCA000, 0x1BCA405, 0x1CC0000, 0x1CCFA05, 0x1CD0000, 0x1CEB405,
  0x1CF0003, 0x1CF2E05, 0x1CF3003, 0x1CF4705, 0x1CF5000, 0x1CFC405, 0x1D00000, 0x1D0F605,
  0x1D10000, 0x1D12705, 0x1D12900, 0x1D16703, 0x1D16A00, 0x1D17B03, 0x1D18300, 0x1D18503,
  0x1D18C00, 0x1D1AA03, 0x1D1AE00, 0x1D1EB05, 0x1D20004, 0x1D24605, 0x1D2C000, 0x1D2D405,
  0x1D2E000, 0x1D2F405, 0x1D30000, 0x1D35705, 0x1D36000, 0x1D37905, 0x1D40000, 0x1D45505,
  0x1D45600, 0x1D49D05, 0x1D49E00, 0x1D4A005, 0x1D4A200, 0x1D4A305, 0x1D4A500, 0x1D4A705,
  0x1D4A900, 0x1D4AD05, 0x1D4AE00, 0x1D4BA05, 0x1D4BB00, 0x1D4BC05, 0x1D4BD00, 0x1D4C405,
  0x1D4C500, 0x1D50605, 0x1D50700, 0x1D50B05, 0x1D50D00, 0x1D51505, 0x1D51600, 0x1D51D05,
  0x1D51E00, 0x1D53A05, 0x1D53B00, 0x1D53F05, 0x1D54000, 0x1D54505, 0x1D54600, 0x1D54705,
  0x1D54A00, 0x1D55105, 0x1D55200, 0x1D6A605, 0x1D6A800, 0x1D7CC05, 0x1D7CE00, 0x1D8009D,
  0x1DA8C05, 0x1DA9B9D, 0x1DAA005, 0x1DAA19D, 0x1DAB005, 0x1DF0001, 0x1DF1F05, 0x1DF2501,
  0x1DF2B05, 0x1E00036, 0x1E00705, 0x1E00836, 0x1E01905, 0x1E01B36, 0x1E02205, 0x1E02336,
  0x1E02505, 0x1E02636, 0x1E02B05, 0x1E03007, 0x1E06E05, 0x1E08F07, 0x1E09005, 0x1E1009E,
  0x1E12D05, 0x1E1309E, 0x1E13E05, 0x1E1409E, 0x1E14A05, 0x1E14E9E, 0x1E15005, 0x1E2909F,
  0x1E2AF05, 0x1E2C0A0, 0x1E2FA05, 0x1E2FFA0, 0x1E30005, 0x1E4D0A1, 0x1E4FA05, 0x1E5D0AA,
  0x1E5FB05, 0x1E5FFAA, 0x1E60005, 0x1E7E020, 0x1E7E705, 0x1E7E820, 0x1E7EC05, 0x1E7ED20,
  0x1E7EF05, 0x1E7F020, 0x1E7FF05, 0x1E800A2, 0x1E8C505, 0x1E8C7A2, 0x1E8D705, 0x1E900A3,
  0x1E94C05, 0x1E950A3, 0x1E95A05, 0x1E95EA3, 0x1E96005, 0x1EC7100, 0x1ECB505, 0x1ED0100,
  0x1ED3E05, 0x1EE000A, 0x1EE0405, 0x1EE050A, 0x1EE2005, 0x1EE210A, 0x1EE2305, 0x1EE240A,
  0x1EE2505, 0x1EE270A, 0x1EE2805, 0x1EE290A, 0x1EE3305, 0x1EE340A, 0x1EE3805, 0x1EE390A,
  0x1EE3A05, 0x1EE3B0A, 0x1EE3C05, 0x1EE420A, 0x1EE4305, 0x1EE470A, 0x1EE4805, 0x1EE490A,
  0x1EE4A05, 0x1EE4B0A, 0x1EE4C05, 0x1EE4D0A, 0x1EE5005, 0x1EE510A, 0x1EE5305, 0x1EE540A,
  0x1EE5505, 0x1EE570A, 0x1EE5805, 0x1EE590A, 0x1EE5A05, 0x1EE5B0A, 0x1EE5C05, 0x1EE5D0A,
  0x1EE5E05, 0x1EE5F0A, 0x1EE6005, 0x1EE610A, 0x1EE6305, 0x1EE640A, 0x1EE6505, 0x1EE670A,
  0x1EE6B05, 0x1EE6C0A, 0x1EE7305, 0x1EE740A, 0x1EE7805, 0x1EE790A, 0x1EE7D05, 0x1EE7E0A,
  0x1EE7F05, 0x1EE800A, 0x1EE8A05, 0x1EE8B0A, 0x1EE9C05, 0x1EEA10A, 0x1EEA405, 0x1EEA50A,
  0x1EEAA05, 0x1EEAB0A, 0x1EEBC05, 0x1EEF00A, 0x1EEF205, 0x1F00000, 0x1F02C05, 0x1F03000,
  0x1F09405, 0x1F0A000, 0x1F0AF05, 0x1F0B100, 0x1F0C005, 0x1F0C100, 0x1F0D005, 0x1F0D100,
  0x1F0F605, 0x1F10000, 0x1F1AE05, 0x1F1E600, 0x1F20039, 0x1F20100, 0x1F20305, 0x1F21000,
  0x1F23C05, 0x1F24000, 0x1F24905, 0x1F25000, 0x1F25205, 0x1F26000, 0x1F26605, 0x1F30000,
  0x1F6D805, 0x1F6DC00, 0x1F6ED05, 0x1F6F000, 0x1F6FD05, 0x1F70000, 0x1F77705, 0x1F77B00,
  0x1F7DA05, 0x1F7E000, 0x1F7EC05, 0x1F7F000, 0x1F7F105, 0x1F80000, 0x1F80C05, 0x1F81000,
  0x1F84805, 0x1F85000, 0x1F85A05, 0x1F86000, 0x1F88805, 0x1F89000, 0x1F8AE05, 0x1F8B000,
  0x1F8BC05, 0x1F8C000, 0x1F8C205, 0x1F90000, 0x1FA5405, 0x1FA6000, 0x1FA6E05, 0x1FA7000,
  0x1FA7D05, 0x1FA8000, 0x1FA8A05, 0x1FA8F00, 0x1FAC705, 0x1FACE00, 0x1FADD05, 0x1FADF00,
  0x1FAEA05, 0x1FAF000, 0x1FAF905, 0x1FB0000, 0x1FB9305, 0x1FB9400, 0x1FBFA05, 0x2000038,
  0x2A6E005, 0x2A70038, 0x2B73A05, 0x2B74038, 0x2B81E05, 0x2B82038, 0x2CEA205, 0x2CEB038,
  0x2EBE105, 0x2EBF038, 0x2EE5E05, 0x2F80038, 0x2FA1E05, 0x3000038, 0x3134B05, 0x3135038,
  0x323B005, 0xE000100, 0xE000205, 0xE002000, 0xE008005, 0xE010003, 0xE01F005]

/-- Where the script changes and to which one. -/
def scriptChanges : Array Nat :=
  scriptChangesLow ++ scriptChangesMiddle ++ scriptChangesHigh ++ scriptChangesTop

end OutputArranger.Unicode
