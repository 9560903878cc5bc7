namespace Stencil.Unicode

/-! The characters that are used with several scripts, or with another one than their own.

Scripts are given by their codes of four letters, in lowercase.
-/

/-- Ranges of such characters, each with all the scripts that they are used with. -/
def scriptExtensions : List ((Nat × Nat) × List String) := [
  ((0x00B7, 0x00B7), ["avst", "cari", "copt", "dupl", "elba", "geor", "glag", "gong", "goth",
    "grek", "hani", "latn", "lydi", "mahj", "perm", "shaw"]),
  ((0x02BC, 0x02BC), ["beng", "cyrl", "deva", "latn", "lisu", "thai", "toto"]),
  ((0x02C7, 0x02C7), ["bopo", "latn"]),
  ((0x02C9, 0x02CB), ["bopo", "latn"]),
  ((0x02CD, 0x02CD), ["latn", "lisu"]),
  ((0x02D7, 0x02D7), ["latn", "thai"]),
  ((0x02D9, 0x02D9), ["bopo", "latn"]),
  ((0x0300, 0x0300), ["cher", "copt", "cyrl", "grek", "latn", "perm", "tale", "sunu"]),
  ((0x0301, 0x0301), ["cher", "cyrl", "grek", "latn", "osge", "tale", "sunu", "todr"]),
  ((0x0302, 0x0302), ["cher", "cyrl", "latn", "tfng"]),
  ((0x0303, 0x0303), ["glag", "latn", "syrc", "thai", "sunu"]),
  ((0x0304, 0x0304), ["aghb", "cher", "copt", "cyrl", "goth", "grek", "latn", "osge", "syrc",
    "tfng", "todr"]),
  ((0x0305, 0x0305), ["copt", "elba", "glag", "goth", "kana", "latn"]),
  ((0x0306, 0x0306), ["cyrl", "grek", "latn", "perm", "tfng"]),
  ((0x0307, 0x0307), ["copt", "dupl", "hebr", "latn", "perm", "syrc", "tale", "tfng", "todr"]),
  ((0x0308, 0x0308), ["armn", "cyrl", "dupl", "goth", "grek", "hebr", "latn", "perm", "syrc",
    "tale", "tfng"]),
  ((0x0309, 0x0309), ["latn", "tfng"]),
  ((0x030A, 0x030A), ["dupl", "latn", "syrc"]),
  ((0x030B, 0x030B), ["cher", "cyrl", "latn", "osge"]),
  ((0x030C, 0x030C), ["cher", "latn", "tale"]),
  ((0x030D, 0x030D), ["latn", "sunu"]),
  ((0x030E, 0x030E), ["ethi", "latn"]),
  ((0x0310, 0x0310), ["latn", "sunu"]),
  ((0x0311, 0x0311), ["cyrl", "latn", "todr"]),
  ((0x0313, 0x0313), ["grek", "latn", "perm", "todr"]),
  ((0x0323, 0x0323), ["cher", "dupl", "kana", "latn", "syrc", "tfng"]),
  ((0x0324, 0x0324), ["cher", "dupl", "latn", "syrc"]),
  ((0x0325, 0x0325), ["latn", "syrc"]),
  ((0x032D, 0x032D), ["latn", "syrc", "sunu"]),
  ((0x032E, 0x032E), ["latn", "syrc"]),
  ((0x0330, 0x0330), ["cher", "latn", "syrc"]),
  ((0x0331, 0x0331), ["aghb", "cher", "goth", "latn", "syrc", "thai", "sunu"]),
  ((0x0342, 0x0342), ["grek"]),
  ((0x0345, 0x0345), ["grek"]),
  ((0x0358, 0x0358), ["latn", "osge"]),
  ((0x035E, 0x035E), ["aghb", "latn", "todr"]),
  ((0x0363, 0x036F), ["latn"]),
  ((0x0374, 0x0375), ["copt", "grek"]),
  ((0x0483, 0x0483), ["cyrl", "perm"]),
  ((0x0484, 0x0484), ["cyrl", "glag"]),
  ((0x0485, 0x0486), ["cyrl", "latn"]),
  ((0x0487, 0x0487), ["cyrl", "glag"]),
  ((0x0589, 0x0589), ["armn", "geor", "glag"]),
  ((0x060C, 0x060C), ["arab", "nkoo", "rohg", "syrc", "thaa", "yezi", "gara"]),
  ((0x061B, 0x061B), ["arab", "nkoo", "rohg", "syrc", "thaa", "yezi", "gara"]),
  ((0x061C, 0x061C), ["arab", "syrc", "thaa"]),
  ((0x061F, 0x061F), ["adlm", "arab", "nkoo", "rohg", "syrc", "thaa", "yezi", "gara"]),
  ((0x0640, 0x0640), ["adlm", "arab", "mand", "mani", "ougr", "phlp", "rohg", "sogd", "syrc"]),
  ((0x064B, 0x0655), ["arab", "syrc"]),
  ((0x0660, 0x0669), ["arab", "thaa", "yezi"]),
  ((0x0670, 0x0670), ["arab", "syrc"]),
  ((0x06D4, 0x06D4), ["arab", "rohg"]),
  ((0x0951, 0x0951), ["beng", "deva", "gran", "gujr", "guru", "knda", "latn", "mlym", "nand",
    "newa", "orya", "shrd", "taml", "telu", "tirh"]),
  ((0x0952, 0x0952), ["beng", "deva", "gran", "gujr", "guru", "knda", "latn", "mlym", "newa",
    "orya", "taml", "telu", "tirh"]),
  ((0x0964, 0x0964), ["beng", "deva", "dogr", "gong", "gonm", "gran", "gujr", "guru", "knda",
    "mahj", "mlym", "nand", "orya", "sind", "sinh", "sylo", "takr", "taml", "telu", "tirh",
    "onao"]),
  ((0x0965, 0x0965), ["beng", "deva", "dogr", "gong", "gonm", "gran", "gujr", "guru", "knda",
    "limb", "mahj", "mlym", "nand", "orya", "sind", "sinh", "sylo", "takr", "taml", "telu",
    "tirh", "gukh", "onao"]),
  ((0x0966, 0x096F), ["deva", "dogr", "kthi", "mahj"]),
  ((0x09E6, 0x09EF), ["beng", "cakm", "sylo"]),
  ((0x0A66, 0x0A6F), ["guru", "mult"]),
  ((0x0AE6, 0x0AEF), ["gujr", "khoj"]),
  ((0x0BE6, 0x0BF3), ["gran", "taml"]),
  ((0x0CE6, 0x0CEF), ["knda", "nand", "tutg"]),
  ((0x1040, 0x1049), ["cakm", "mymr", "tale"]),
  ((0x10FB, 0x10FB), ["geor", "glag", "latn"]),
  ((0x16EB, 0x16ED), ["runr"]),
  ((0x1735, 0x1736), ["buhd", "hano", "tagb", "tglg"]),
  ((0x1802, 0x1803), ["mong", "phag"]),
  ((0x1805, 0x1805), ["mong", "phag"]),
  ((0x1CD0, 0x1CD0), ["beng", "deva", "gran", "knda"]),
  ((0x1CD1, 0x1CD1), ["deva"]),
  ((0x1CD2, 0x1CD2), ["beng", "deva", "gran", "knda"]),
  ((0x1CD3, 0x1CD3), ["deva", "gran", "knda"]),
  ((0x1CD4, 0x1CD4), ["deva"]),
  ((0x1CD5, 0x1CD5), ["beng", "deva", "newa", "telu", "tirh"]),
  ((0x1CD6, 0x1CD6), ["beng", "deva", "telu"]),
  ((0x1CD7, 0x1CD7), ["deva", "newa", "shrd"]),
  ((0x1CD8, 0x1CD8), ["beng", "deva", "newa", "telu"]),
  ((0x1CD9, 0x1CD9), ["deva", "shrd"]),
  ((0x1CDA, 0x1CDA), ["deva", "knda", "mlym", "orya", "taml", "telu"]),
  ((0x1CDB, 0x1CDB), ["deva"]),
  ((0x1CDC, 0x1CDD), ["deva", "shrd"]),
  ((0x1CDE, 0x1CDF), ["deva"]),
  ((0x1CE0, 0x1CE0), ["deva", "shrd"]),
  ((0x1CE1, 0x1CE1), ["beng", "deva"]),
  ((0x1CE2, 0x1CE2), ["deva", "newa", "tirh"]),
  ((0x1CE3, 0x1CE8), ["deva"]),
  ((0x1CE9, 0x1CE9), ["deva", "nand", "newa"]),
  ((0x1CEA, 0x1CEA), ["beng", "deva", "shrd"]),
  ((0x1CEB, 0x1CEB), ["deva", "newa"]),
  ((0x1CEC, 0x1CEC), ["deva"]),
  ((0x1CED, 0x1CED), ["beng", "deva", "newa", "shrd"]),
  ((0x1CEE, 0x1CF1), ["deva"]),
  ((0x1CF2, 0x1CF2), ["beng", "deva", "gran", "knda", "mlym", "nand", "orya", "sinh", "telu",
    "tirh", "tutg"]),
  ((0x1CF3, 0x1CF3), ["deva", "gran"]),
  ((0x1CF4, 0x1CF4), ["deva", "gran", "knda", "tutg"]),
  ((0x1CF5, 0x1CF6), ["beng", "deva"]),
  ((0x1CF7, 0x1CF7), ["beng"]),
  ((0x1CF8, 0x1CF9), ["deva", "gran"]),
  ((0x1CFA, 0x1CFA), ["nand"]),
  ((0x1DC0, 0x1DC1), ["grek"]),
  ((0x1DF8, 0x1DF8), ["cyrl", "latn", "syrc"]),
  ((0x1DFA, 0x1DFA), ["syrc"]),
  ((0x202F, 0x202F), ["latn", "mong", "phag"]),
  ((0x204F, 0x204F), ["adlm", "arab"]),
  ((0x205A, 0x205A), ["cari", "geor", "glag", "hung", "lyci", "orkh"]),
  ((0x205D, 0x205D), ["cari", "grek", "hung", "mero"]),
  ((0x20F0, 0x20F0), ["deva", "gran", "latn"]),
  ((0x2E17, 0x2E17), ["copt", "latn"]),
  ((0x2E30, 0x2E30), ["avst", "orkh"]),
  ((0x2E31, 0x2E31), ["avst", "cari", "geor", "hung", "kthi", "lydi", "samr"]),
  ((0x2E3C, 0x2E3C), ["dupl"]),
  ((0x2E41, 0x2E41), ["adlm", "arab", "hung"]),
  ((0x2E43, 0x2E43), ["cyrl", "glag"]),
  ((0x2FF0, 0x2FFF), ["hani", "tang"]),
  ((0x3001, 0x3001), ["bopo", "hang", "hani", "hira", "kana", "mong", "yiii"]),
  ((0x3002, 0x3002), ["bopo", "hang", "hani", "hira", "kana", "mong", "phag", "yiii"]),
  ((0x3003, 0x3003), ["bopo", "hang", "hani", "hira", "kana"]),
  ((0x3006, 0x3006), ["hani"]),
  ((0x3008, 0x3009), ["bopo", "hang", "hani", "hira", "kana", "mong", "tibt", "yiii"]),
  ((0x300A, 0x300B), ["bopo", "hang", "hani", "hira", "kana", "lisu", "mong", "tibt", "yiii"]),
  ((0x300C, 0x3011), ["bopo", "hang", "hani", "hira", "kana", "yiii"]),
  ((0x3013, 0x3013), ["bopo", "hang", "hani", "hira", "kana"]),
  ((0x3014, 0x301B), ["bopo", "hang", "hani", "hira", "kana", "yiii"]),
  ((0x301C, 0x301F), ["bopo", "hang", "hani", "hira", "kana"]),
  ((0x302A, 0x302D), ["bopo", "hani"]),
  ((0x3030, 0x3030), ["bopo", "hang", "hani", "hira", "kana"]),
  ((0x3031, 0x3035), ["hira", "kana"]),
  ((0x3037, 0x3037), ["bopo", "hang", "hani", "hira", "kana"]),
  ((0x303C, 0x303D), ["hani", "hira", "kana"]),
  ((0x303E, 0x303F), ["hani"]),
  ((0x3099, 0x309C), ["hira", "kana"]),
  ((0x30A0, 0x30A0), ["hira", "kana"]),
  ((0x30FB, 0x30FB), ["bopo", "hang", "hani", "hira", "kana", "yiii"]),
  ((0x30FC, 0x30FC), ["hira", "kana"]),
  ((0x3190, 0x319F), ["hani"]),
  ((0x31C0, 0x31E5), ["hani"]),
  ((0x31EF, 0x31EF), ["hani", "tang"]),
  ((0x3220, 0x3247), ["hani"]),
  ((0x3280, 0x32B0), ["hani"]),
  ((0x32C0, 0x32CB), ["hani"]),
  ((0x32FF, 0x32FF), ["hani"]),
  ((0x3358, 0x3370), ["hani"]),
  ((0x337B, 0x337F), ["hani"]),
  ((0x33E0, 0x33FE), ["hani"]),
  ((0xA66F, 0xA66F), ["cyrl", "glag"]),
  ((0xA700, 0xA707), ["hani", "latn"]),
  ((0xA830, 0xA832), ["deva", "dogr", "gujr", "guru", "khoj", "knda", "kthi", "mahj", "mlym",
    "modi", "nand", "shrd", "sind", "takr", "tirh", "tutg"]),
  ((0xA833, 0xA835), ["deva", "dogr", "gujr", "guru", "khoj", "knda", "kthi", "mahj", "modi",
    "nand", "shrd", "sind", "takr", "tirh", "tutg"]),
  ((0xA836, 0xA837), ["deva", "dogr", "gujr", "guru", "khoj", "kthi", "mahj", "modi", "sind",
    "takr", "tirh"]),
  ((0xA838, 0xA838), ["deva", "dogr", "gujr", "guru", "khoj", "kthi", "mahj", "modi", "shrd",
    "sind", "takr", "tirh"]),
  ((0xA839, 0xA839), ["deva", "dogr", "gujr", "guru", "khoj", "kthi", "mahj", "modi", "sind",
    "takr", "tirh"]),
  ((0xA8F1, 0xA8F1), ["beng", "deva", "tutg"]),
  ((0xA8F3, 0xA8F3), ["deva", "taml"]),
  ((0xA92E, 0xA92E), ["kali", "latn", "mymr"]),
  ((0xA9CF, 0xA9CF), ["bugi", "java"]),
  ((0xFD3E, 0xFD3F), ["arab", "nkoo"]),
  ((0xFDF2, 0xFDF2), ["arab", "thaa"]),
  ((0xFDFD, 0xFDFD), ["arab", "thaa"]),
  ((0xFE45, 0xFE46), ["bopo", "hang", "hani", "hira", "kana"]),
  ((0xFF61, 0xFF65), ["bopo", "hang", "hani", "hira", "kana", "yiii"]),
  ((0xFF70, 0xFF70), ["hira", "kana"]),
  ((0xFF9E, 0xFF9F), ["hira", "kana"]),
  ((0x10100, 0x10101), ["cpmn", "cprt", "linb"]),
  ((0x10102, 0x10102), ["cprt", "linb"]),
  ((0x10107, 0x10133), ["cprt", "lina", "linb"]),
  ((0x10137, 0x1013F), ["cprt", "linb"]),
  ((0x102E0, 0x102FB), ["arab", "copt"]),
  ((0x10AF2, 0x10AF2), ["mani", "ougr"]),
  ((0x11301, 0x11301), ["gran", "taml"]),
  ((0x11303, 0x11303), ["gran", "taml"]),
  ((0x1133B, 0x1133C), ["gran", "taml"]),
  ((0x11FD0, 0x11FD1), ["gran", "taml"]),
  ((0x11FD3, 0x11FD3), ["gran", "taml"]),
  ((0x1BCA0, 0x1BCA3), ["dupl"]),
  ((0x1D360, 0x1D371), ["hani"]),
  ((0x1F250, 0x1F251), ["hani"])]

/-- The ranges of all such characters. -/
def extendedRanges : List (Nat × Nat) :=
  scriptExtensions.map (·.1)

/-- The ranges of those that are used with a script. -/
def extendedRangesOf (code : String) : List (Nat × Nat) :=
  (scriptExtensions.filter (·.2.contains code)).map (·.1)

end Stencil.Unicode
