/-!
# Scripts

The ranges of code points of each script of Unicode 16, in packed form, and those of the script extensions that
differ from the script.
-/

namespace LogPipeline.Unicode

/-- The long name of each script with the loose forms of its names. -/
def scriptNames : List (String × List String) := [
  ("Adlam", ["adlm", "adlam"]),
  ("Caucasian_Albanian", ["aghb", "caucasianalbanian"]),
  ("Ahom", ["ahom"]),
  ("Arabic", ["arab", "arabic"]),
  ("Imperial_Aramaic", ["armi", "imperialaramaic"]),
  ("Armenian", ["armn", "armenian"]),
  ("Avestan", ["avst", "avestan"]),
  ("Balinese", ["bali", "balinese"]),
  ("Bamum", ["bamu", "bamum"]),
  ("Bassa_Vah", ["bass", "bassavah"]),
  ("Batak", ["batk", "batak"]),
  ("Bengali", ["beng", "bengali"]),
  ("Bhaiksuki", ["bhks", "bhaiksuki"]),
  ("Bopomofo", ["bopo", "bopomofo"]),
  ("Brahmi", ["brah", "brahmi"]),
  ("Braille", ["brai", "braille"]),
  ("Buginese", ["bugi", "buginese"]),
  ("Buhid", ["buhd", "buhid"]),
  ("Chakma", ["cakm", "chakma"]),
  ("Canadian_Aboriginal", ["cans", "canadianaboriginal"]),
  ("Carian", ["cari", "carian"]),
  ("Cham", ["cham"]),
  ("Cherokee", ["cher", "cherokee"]),
  ("Chorasmian", ["chrs", "chorasmian"]),
  ("Coptic", ["copt", "coptic", "qaac"]),
  ("Cypro_Minoan", ["cpmn", "cyprominoan"]),
  ("Cypriot", ["cprt", "cypriot"]),
  ("Cyrillic", ["cyrl", "cyrillic"]),
  ("Devanagari", ["deva", "devanagari"]),
  ("Dives_Akuru", ["diak", "divesakuru"]),
  ("Dogra", ["dogr", "dogra"]),
  ("Deseret", ["dsrt", "deseret"]),
  ("Duployan", ["dupl", "duployan"]),
  ("Egyptian_Hieroglyphs", ["egyp", "egyptianhieroglyphs"]),
  ("Elbasan", ["elba", "elbasan"]),
  ("Elymaic", ["elym", "elymaic"]),
  ("Ethiopic", ["ethi", "ethiopic"]),
  ("Georgian", ["geor", "georgian"]),
  ("Glagolitic", ["glag", "glagolitic"]),
  ("Gunjala_Gondi", ["gong", "gunjalagondi"]),
  ("Masaram_Gondi", ["gonm", "masaramgondi"]),
  ("Gothic", ["goth", "gothic"]),
  ("Grantha", ["gran", "grantha"]),
  ("Greek", ["grek", "greek"]),
  ("Gujarati", ["gujr", "gujarati"]),
  ("Gurmukhi", ["guru", "gurmukhi"]),
  ("Hangul", ["hang", "hangul"]),
  ("Han", ["hani", "han"]),
  ("Hanunoo", ["hano", "hanunoo"]),
  ("Hatran", ["hatr", "hatran"]),
  ("Hebrew", ["hebr", "hebrew"]),
  ("Hiragana", ["hira", "hiragana"]),
  ("Anatolian_Hieroglyphs", ["hluw", "anatolianhieroglyphs"]),
  ("Pahawh_Hmong", ["hmng", "pahawhhmong"]),
  ("Nyiakeng_Puachue_Hmong", ["hmnp", "nyiakengpuachuehmong"]),
  ("Old_Hungarian", ["hung", "oldhungarian"]),
  ("Old_Italic", ["ital", "olditalic"]),
  ("Javanese", ["java", "javanese"]),
  ("Kayah_Li", ["kali", "kayahli"]),
  ("Katakana", ["kana", "katakana"]),
  ("Kawi", ["kawi"]),
  ("Kharoshthi", ["khar", "kharoshthi"]),
  ("Khmer", ["khmr", "khmer"]),
  ("Khojki", ["khoj", "khojki"]),
  ("Khitan_Small_Script", ["kits", "khitansmallscript"]),
  ("Kannada", ["knda", "kannada"]),
  ("Kaithi", ["kthi", "kaithi"]),
  ("Tai_Tham", ["lana", "taitham"]),
  ("Lao", ["laoo", "lao"]),
  ("Latin", ["latn", "latin"]),
  ("Lepcha", ["lepc", "lepcha"]),
  ("Limbu", ["limb", "limbu"]),
  ("Linear_A", ["lina", "lineara"]),
  ("Linear_B", ["linb", "linearb"]),
  ("Lisu", ["lisu"]),
  ("Lycian", ["lyci", "lycian"]),
  ("Lydian", ["lydi", "lydian"]),
  ("Mahajani", ["mahj", "mahajani"]),
  ("Makasar", ["maka", "makasar"]),
  ("Mandaic", ["mand", "mandaic"]),
  ("Manichaean", ["mani", "manichaean"]),
  ("Marchen", ["marc", "marchen"]),
  ("Medefaidrin", ["medf", "medefaidrin"]),
  ("Mende_Kikakui", ["mend", "mendekikakui"]),
  ("Meroitic_Cursive", ["merc", "meroiticcursive"]),
  ("Meroitic_Hieroglyphs", ["mero", "meroitichieroglyphs"]),
  ("Malayalam", ["mlym", "malayalam"]),
  ("Modi", ["modi"]),
  ("Mongolian", ["mong", "mongolian"]),
  ("Mro", ["mroo", "mro"]),
  ("Meetei_Mayek", ["mtei", "meeteimayek"]),
  ("Multani", ["mult", "multani"]),
  ("Myanmar", ["mymr", "myanmar"]),
  ("Nag_Mundari", ["nagm", "nagmundari"]),
  ("Nandinagari", ["nand", "nandinagari"]),
  ("Old_North_Arabian", ["narb", "oldnortharabian"]),
  ("Nabataean", ["nbat", "nabataean"]),
  ("Newa", ["newa"]),
  ("Nko", ["nkoo", "nko"]),
  ("Nushu", ["nshu", "nushu"]),
  ("Ogham", ["ogam", "ogham"]),
  ("Ol_Chiki", ["olck", "olchiki"]),
  ("Old_Turkic", ["orkh", "oldturkic"]),
  ("Oriya", ["orya", "oriya"]),
  ("Osage", ["osge", "osage"]),
  ("Osmanya", ["osma", "osmanya"]),
  ("Old_Uyghur", ["ougr", "olduyghur"]),
  ("Palmyrene", ["palm", "palmyrene"]),
  ("Pau_Cin_Hau", ["pauc", "paucinhau"]),
  ("Old_Permic", ["perm", "oldpermic"]),
  ("Phags_Pa", ["phag", "phagspa"]),
  ("Inscriptional_Pahlavi", ["phli", "inscriptionalpahlavi"]),
  ("Psalter_Pahlavi", ["phlp", "psalterpahlavi"]),
  ("Phoenician", ["phnx", "phoenician"]),
  ("Miao", ["plrd", "miao"]),
  ("Inscriptional_Parthian", ["prti", "inscriptionalparthian"]),
  ("Rejang", ["rjng", "rejang"]),
  ("Hanifi_Rohingya", ["rohg", "hanifirohingya"]),
  ("Runic", ["runr", "runic"]),
  ("Samaritan", ["samr", "samaritan"]),
  ("Old_South_Arabian", ["sarb", "oldsoutharabian"]),
  ("Saurashtra", ["saur", "saurashtra"]),
  ("SignWriting", ["sgnw", "signwriting"]),
  ("Shavian", ["shaw", "shavian"]),
  ("Sharada", ["shrd", "sharada"]),
  ("Siddham", ["sidd", "siddham"]),
  ("Khudawadi", ["sind", "khudawadi"]),
  ("Sinhala", ["sinh", "sinhala"]),
  ("Sogdian", ["sogd", "sogdian"]),
  ("Old_Sogdian", ["sogo", "oldsogdian"]),
  ("Sora_Sompeng", ["sora", "sorasompeng"]),
  ("Soyombo", ["soyo", "soyombo"]),
  ("Sundanese", ["sund", "sundanese"]),
  ("Syloti_Nagri", ["sylo", "sylotinagri"]),
  ("Syriac", ["syrc", "syriac"]),
  ("Tagbanwa", ["tagb", "tagbanwa"]),
  ("Takri", ["takr", "takri"]),
  ("Tai_Le", ["tale", "taile"]),
  ("New_Tai_Lue", ["talu", "newtailue"]),
  ("Tamil", ["taml", "tamil"]),
  ("Tangut", ["tang", "tangut"]),
  ("Tai_Viet", ["tavt", "taiviet"]),
  ("Telugu", ["telu", "telugu"]),
  ("Tifinagh", ["tfng", "tifinagh"]),
  ("Tagalog", ["tglg", "tagalog"]),
  ("Thaana", ["thaa", "thaana"]),
  ("Thai", ["thai"]),
  ("Tibetan", ["tibt", "tibetan"]),
  ("Tirhuta", ["tirh", "tirhuta"]),
  ("Tangsa", ["tnsa", "tangsa"]),
  ("Toto", ["toto"]),
  ("Ugaritic", ["ugar", "ugaritic"]),
  ("Vai", ["vaii", "vai"]),
  ("Vithkuqi", ["vith", "vithkuqi"]),
  ("Warang_Citi", ["wara", "warangciti"]),
  ("Wancho", ["wcho", "wancho"]),
  ("Old_Persian", ["xpeo", "oldpersian"]),
  ("Cuneiform", ["xsux", "cuneiform"]),
  ("Yezidi", ["yezi", "yezidi"]),
  ("Yi", ["yiii", "yi"]),
  ("Zanabazar_Square", ["zanb", "zanabazarsquare"]),
  ("Inherited", ["zinh", "inherited", "qaai"]),
  ("Common", ["zyyy", "common"]),
  ("Garay", ["gara", "garay"]),
  ("Gurung_Khema", ["gukh", "gurungkhema"]),
  ("Kirat_Rai", ["krai", "kiratrai"]),
  ("Ol_Onal", ["onao", "olonal"]),
  ("Sunuwar", ["sunu", "sunuwar"]),
  ("Todhri", ["todr", "todhri"]),
  ("Tulu_Tigalari", ["tutg", "tulutigalari"])]

/-- Each script with its packed ranges. -/
def scriptData : List (String × String) := [
  ("Adlam",
    "j6oAiLEJEB"),
  ("Caucasian_Albanian",
    "ihpQhTLA"),
  ("Ahom",
    "il4AaCOEW"),
  ("Arabic",
    String.join ["hwAEBFBNBCBfBJLZBjLBhBiQhPnQeBBFiKBch8yQjSQrKCiPChVHAhAPjQEBkGj7DeiDChXDh34ADBaBBBACABJB",
    "DBABAGAEABABABCBBBACABABABABABBBACDBGBDBDBABJBQFCBEBQhUB"]),
  ("Imperial_Aramaic",
    "iiiAVBI"),
  ("Armenian",
    "hpRhFChRCCh9sDE"),
  ("Avestan",
    "ii4AhVDG"),
  ("Balinese",
    "m4AiMBhR"),
  ("Bamum",
    "hp1AiXhwoIxY"),
  ("Bassa_Vah",
    "i62QdCF"),
  ("Batak",
    "m+AhTID"),
  ("Bengali",
    "isADBHCBCVBGBADDCICBCDIAEBBECY"),
  ("Bhaiksuki",
    "ingAIBhMBNKc"),
  ("Bopomofo",
    "3KBrwZhKjQf"),
  ("Brahmi",
    "ikgAiNEhDJA"),
  ("Braille",
    "qgAnf"),
  ("Buginese",
    "mwAbCB"),
  ("Buhid",
    "l6AT"),
  ("Chakma",
    "ikoAhUBR"),
  ("Canadian_Aboriginal",
    "lgAzfxQiFigtaP"),
  ("Carian",
    "ig1AhQ"),
  ("Cham",
    "hqwAhWJNCJCD"),
  ("Cherokee",
    "k9AiVCFhl7SiP"),
  ("Chorasmian",
    "ij9Qb"),
  ("Coptic",
    "-CNqkQjTFG"),
  ("Cypro_Minoan",
    "ir8QjC"),
  ("Cypriot",
    "iigAFCABhLBBDACA"),
  ("Cyrillic",
    "hgAkEClIl6QKlAAiMAkjHf+iAif18OBh4wAhdhBA"),
  ("Devanagari",
    "ioAiQEOCZhn7Af8wAJ"),
  ("Dives_Akuru",
    "imoAGCACHBBBdBBCLJJ"),
  ("Dogra",
    "imgAhb"),
  ("Deseret",
    "ihgAiP"),
  ("Duployan",
    "jvgAjKFMDIHJCD"),
  ("Egyptian_Hieroglyphs",
    "isgAhiVKj8a"),
  ("Elbasan",
    "ihoAhH"),
  ("Elymaic",
    "ij-AW"),
  ("Ethiopic",
    "kwAiIBDCGBABDChIBDChABDCGBABDCOBhYBDCiCCfDZmvGWJGBGBGBGBGBGBGBG-pCFCFCFJGBGivlRGBDBBBO"),
  ("Georgian",
    "klAhFBAFAChKBDi8QhKCCkiAhFBAFA"),
  ("Glagolitic",
    "rgAifjs9AGBQCGBBBE"),
  ("Gunjala_Gondi",
    "inrAFBBBhEBBBFHJ"),
  ("Masaram_Gondi",
    "inoAGBBBhLDABBBIIJ"),
  ("Gothic",
    "ig5Qa"),
  ("Grantha",
    "ik4ADBHCBCVBGBBBECICBCCCAGAFGCGDE"),
  ("Greek",
    String.join ["7QDBCCDBAEABABCBABTBheOPmpGEhSEEEiUAqAVCFChFCFCHBABABABeChUBOBNCFBSCCBIpHAhixeA1uaiORAh0",
    "ifiF"]),
  ("Gujarati",
    "i0BCBIBCBVBGBBBECJBCBCCAPDCLHG"),
  ("Gurmukhi",
    "iwBCBFEBCVBGBBBBBBCABEEBCCDAHDBAHQ"),
  ("Hangul",
    "koAnfnxOBoBidjReiBe93Bc0Dq9DMWEhQp9EeDFCFCFCC"),
  ("Han",
    "r0AZBiYMmVhPABAZIOD+EmtfiA0vf2oArNCjJ9oIBMBhkgOhp2fhAkhZGmdCl0BOnpQPzNitCwdhvCk6KFkif"),
  ("Hanunoo",
    "l5AU"),
  ("Hatran",
    "iinASBBFE"),
  ("Hebrew",
    "hsRhWIaEFh9pIZBEBABBBBBJ"),
  ("Hiragana",
    "siBiVGCi-7BoeSAdCwlNA"),
  ("Anatolian_Hieroglyphs",
    "ixgAyG"),
  ("Pahawh_Hmong",
    "i64AiFKJBGBUFS"),
  ("Nyiakeng_Puachue_Hmong",
    "j4oAhMDNCJEB"),
  ("Old_Hungarian",
    "ijkAhSNhSHF"),
  ("Old_Italic",
    "ig4AhDJC"),
  ("Javanese",
    "hqsAiNCJEB"),
  ("Kayah_Li",
    "hqoAhNBA"),
  ("Katakana",
    "slBiZCCnQPmQhOBiXhzgOJBhMhsiSDBGBBBAofChSAOD"),
  ("Kawi",
    "in4AQBhIDc"),
  ("Kharoshthi",
    "iiwADBBFHBCBcCCEJHI"),
  ("Khmer",
    "l8AidCJGJvGf"),
  ("Khojki",
    "ikwARBhO"),
  ("Khitan_Small_Script",
    "i7-EAm4buVhJA"),
  ("Kannada",
    "jkAMBCBWBJBECIBCBDHBGBBDCJBC"),
  ("Kaithi",
    "ikkAiCKA"),
  ("Tai_Tham",
    "mxAheBcCKGJGN"),
  ("Lao",
    "j0BBBABEBXBABWCEBABGBJCD"),
  ("Latin",
    String.join ["iBZGZhPAPAFWBeBuAhHEmwbhFGhQFDFMBiFiBnfrRANAQMkNBGAbARhIi2Xf+1CjFDiCCBBABHVN5QhKBIBDz8WG",
    "hgaZGZihFFBhJBIh16FeGF"]),
  ("Lepcha",
    "ngAhXDODC"),
  ("Limbu",
    "moAeBLELEADL"),
  ("Linear_A",
    "ihwApWJVKH"),
  ("Linear_B",
    "iggALBZBSBBBOCNhCja"),
  ("Lisu",
    "hpmQhP+1QA"),
  ("Lycian",
    "ig0Ac"),
  ("Lydian",
    "iipAZFA"),
  ("Mahajani",
    "ikqQhG"),
  ("Makasar",
    "in3AY"),
  ("Mandaic",
    "iiAbCA"),
  ("Manichaean",
    "ii2AhGEL"),
  ("Marchen",
    "injQfCVBN"),
  ("Medefaidrin",
    "i7yAia"),
  ("Mende_Kikakui",
    "j6gAmECP"),
  ("Meroitic_Cursive",
    "iitAXETChN"),
  ("Meroitic_Hieroglyphs",
    "iisAf"),
  ("Malayalam",
    "joAMBCBhSBCBFEPCZ"),
  ("Modi",
    "ilwAiELJ"),
  ("Mongolian",
    "mgABCABTGiYHhKh-tVM"),
  ("Mro",
    "i6yAeBJEB"),
  ("Meetei_Mayek",
    "hq3AWmJhNCJ"),
  ("Multani",
    "ik0AGBABDBOBK"),
  ("Myanmar",
    "kgAkfhmqAejBf7iQT"),
  ("Nag_Mundari",
    "j5mQhJ"),
  ("Nandinagari",
    "imtAHChNCK"),
  ("Old_North_Arabian",
    "ii0Af"),
  ("Nabataean",
    "iikAeII"),
  ("Newa",
    "ilgAibBE"),
  ("Nko",
    "h+AhaCC"),
  ("Nushu",
    "i7-BAwsOsL"),
  ("Ogham",
    "l0Ac"),
  ("Ol_Chiki",
    "niQhP"),
  ("Old_Turkic",
    "ijgAiI"),
  ("Oriya",
    "i4BCBHCBCVBGBBBECICBCCHCEBBECR"),
  ("Osage",
    "ihlQhDEhD"),
  ("Osmanya",
    "ihkAdCJ"),
  ("Old_Uyghur",
    "ij7QZ"),
  ("Palmyrene",
    "iijAf"),
  ("Pau_Cin_Hau",
    "im2AhY"),
  ("Old_Permic",
    "ig6QhK"),
  ("Phags_Pa",
    "hqiAhX"),
  ("Inscriptional_Pahlavi",
    "ii7ASFH"),
  ("Psalter_Pahlavi",
    "ii8ARHDMG"),
  ("Phoenician",
    "iioAbDA"),
  ("Miao",
    "i74AiKEhYHQ"),
  ("Inscriptional_Parthian",
    "ii6AVCH"),
  ("Rejang",
    "hqpQhDLA"),
  ("Hanifi_Rohingya",
    "ijoAhHIJ"),
  ("Runic",
    "l1AiKDK"),
  ("Samaritan",
    "igAhNCO"),
  ("Old_South_Arabian",
    "iizAf"),
  ("Saurashtra",
    "hqkAiFIL"),
  ("SignWriting",
    "j2gA0LPEBO"),
  ("Shavian",
    "ihiQhP"),
  ("Sharada",
    "iksAif"),
  ("Siddham",
    "ilsAhVChF"),
  ("Khudawadi",
    "ik1QhaFJ"),
  ("Sinhala",
    "jsBCBRDXBIBACGDAEFBABHGJCCig-MT"),
  ("Sogdian",
    "ij5QhJ"),
  ("Old_Sogdian",
    "ij4AhH"),
  ("Sora_Sompeng",
    "ikmQYHJ"),
  ("Soyombo",
    "imyQiS"),
  ("Sundanese",
    "m8AhfoAH"),
  ("Syloti_Nagri",
    "hqgAhM"),
  ("Syriac",
    "h4ANBhbCCoQK"),
  ("Tagbanwa",
    "l7AMBCBB"),
  ("Takri",
    "il0AhZGJ"),
  ("Tai_Le",
    "mqQdCE"),
  ("New_Tai_Lue",
    "msAhLEZGKDB"),
  ("Tamil",
    "i8CBBFDCBDDBBABBDBDCDLEEDCBDCAGAOUik+FhRNA"),
  ("Tangut",
    "i7-AAfl-XI3fwAI"),
  ("Tai_Viet",
    "hq0AiCYE"),
  ("Telugu",
    "jgAMBCBWBPCIBCBDHBBCCACDCJHI"),
  ("Tifinagh",
    "rpQhXHBOA"),
  ("Tagalog",
    "l4AVJA"),
  ("Thaana",
    "h8AhR"),
  ("Thai",
    "jwBhZFb"),
  ("Tibetan",
    "j4AiHBhDEhGBhDBOBGEB"),
  ("Tirhuta",
    "ilkAiHIJ"),
  ("Tangsa",
    "i6zQiOBJ"),
  ("Toto",
    "j40Qe"),
  ("Ugaritic",
    "ig8AdBA"),
  ("Vai",
    "hpoApL"),
  ("Vithkuqi",
    "ihrQKBOBGBBBKBOBGBB"),
  ("Warang_Citi",
    "imlAiSMA"),
  ("Wancho",
    "j42AhZFA"),
  ("Old_Persian",
    "ig9AhDEN"),
  ("Cuneiform",
    "iogA8ZjGjOBELmD"),
  ("Yezidi",
    "ij0AhJBCCB"),
  ("Yi",
    "hogAhkMDhW"),
  ("Zanabazar_Square",
    "imwAiH"),
  ("Inherited",
    String.join ["4AjPoVBuEKaA3ADkqbewBCBMBGEAGADBmGhfwMBmChAj5ZDjLBhzrFPQN+PAnCAkiaAhu+EhNCWxACRHCGeD4r6S",
    "nP"]),
  ("Common",
    String.join ["AiAaFahOBOBEXAfAuBhGFECTjUAJAGABAzdAGAOADAhAAkcAwEAkBBhmZAsVDpCAhvPCiHBmLBBAhmNANAHDBFBC",
    "CA4FLCiWBKDKBORhAhfhFBCCFBaBQhJCE0ZWKV8foAzTCfBjIwAidsSUBABYPHEDibBDAiaBkTPhAhFJAhQhffiQ",
    "hPAiYlHmuAhf2oAhBjGClFJnUAlAAsLAOB0uSBmQJWhCBSBDkTABfaFaKKAhNBiAGBGKEoCCEhMDIiQMhThMnEah",
    "utEDj6cnZGtTkcjThcnVKhGChdDQIBHdEhcmVTMTMiWJYkHiUBiGBBCACBCDBLBABGBiABDCHBGBbBDBEBADGBqT",
    "CpDChRljRiDiMhc2ChLEjDMOCOBOBhEKlNhYZBBNhLEIHBOFka+XEQDMDjWEieGLEAPLEhXIJGhHIdCLEBheqTMN",
    "CMDJFhXHOCKGIHkSBjF4hgHAeif"]),
  ("Garay",
    "ijqAhFDcIB"),
  ("Gurung_Khema",
    "i4oAhZ"),
  ("Kirat_Rai",
    "i7qAhZ"),
  ("Ol_Onal",
    "j5uQhKEA"),
  ("Sunuwar",
    "im+AhBOJ"),
  ("Todhri",
    "ihuAhT"),
  ("Tulu_Tigalari",
    "ik8AJBACABhFBJBACABDBJBBIB")]

/-- The scripts whose extensions differ from the script itself, with the packed ranges of the extensions. -/
def scriptExtensionData : List (String × String) := [
  ("Adlam",
    "hwfAhAAmwOAjvRAju1eiLEJEB"),
  ("Caucasian_Albanian",
    "4EAhMAhMAiguRhTLA"),
  ("Arabic",
    String.join ["hwAEBmWBhBiQhPnQeBBFiKBcl6PAjvRAhzoOjSQtcChVHAhAPjQEBkG-Dbi7EeiDChXDh34ADBaBBBACABJBDBAB",
    "AGAEABABABCBBBACABABABABABBBACDBGBDBDBABJBQFCBEBQhUB"]),
  ("Armenian",
    "4IAxIhFChRCCh9sDE"),
  ("Avestan",
    "lXArrYBh3mOhVDG"),
  ("Bengali",
    "1cAh0UBRBaDBHCBCVBGBADDCICBCDIAEBBECYk2RABACBBAIAIACAEACChi-ZA"),
  ("Bopomofo",
    "2HABCNAQBroVCEJBMKDCAGAmDAJhKjQfhzkFBoaE"),
  ("Buginese",
    "mwAbCBhj9PA"),
  ("Buhid",
    "l5VBJT"),
  ("Chakma",
    "ivGJhyQJiglWhUBR"),
  ("Carian",
    "lXAn9CACAjuTAh1jOhQ"),
  ("Cherokee",
    "4ACBAGBWBLBkjOiVCFhl7SiP"),
  ("Coptic",
    "lXAyIADBBAjMBjMNqkQjTFGoXAh1mIb"),
  ("Cypro_Minoan",
    "igoABr0OjC"),
  ("Cypriot",
    "igoACEhMDIh2AFCABhLBBDACA"),
  ("Cyrillic",
    "1cAiDCBABABACAFAnOpPl6QKlAAiMAjfAj-HfiDA9-cif18OBh4wAhdhBA"),
  ("Devanagari",
    "1cAhyDiSChKk6QhGBB-WAhh5fJlGf8wAJ"),
  ("Dogra",
    "irELhn2AJ7+Ghb"),
  ("Duployan",
    "lXAyPBBAYBq4XAjjuDjKFMDIHJCH"),
  ("Elbasan",
    "lXAyNAigvahH"),
  ("Ethiopic",
    String.join ["4OAj3RiIBDCGBABDChIBDChABDCGBABDCOBhYBDCiCCfDZmvGWJGBGBGBGBGBGBGBG-pCFCFCFJGBGivlRGBDBBB",
    "O"]),
  ("Georgian",
    "lXAhmRAi4WhFBAFAChPi8QhKCC8aAjlFhFBAFAoDA"),
  ("Glagolitic",
    "lXAyLABAreACAoBAi7RAj6eAi9FifvDA+hLAiusQGBQCGBBBE"),
  ("Gunjala_Gondi",
    "lXAilMBik-aFBBBhEBBBFHJ"),
  ("Masaram_Gondi",
    "irEBik8aGBBBhLDABBBIIJ"),
  ("Gothic",
    "lXAyMBCAhIAh--ea"),
  ("Grantha",
    "iqRBRB0ANkmcABBeCDB-WAh8wPDBHCBCVBGBBBEBJCBCCCAGAFGCGDEjibBBA"),
  ("Greek",
    String.join ["lXAyIBCABABAKAhOACAhKHCDBAEABABCBABTBheOPmpGEhSEEEiUCpeVCFChFCFCHBABABABeChUBOBNCFBSCCBI",
    "ieAmIAhixeA1uaiORAh0ifiF"]),
  ("Gujarati",
    "iqRBRBobCBIBCBVBGBBBECJBCBCCAPDCLHGhnpQJ"),
  ("Gurmukhi",
    "iqRBRBkbCBFEBCVBGBBBBBBCABEEBCCDAHDBAHQhntZJ"),
  ("Hangul",
    "koAnfnwBCEJBMOCGAmDAhVidjReiBe93Bc0Dq9DMWEhQpyJBoaEhaeDFCFCFCC"),
  ("Han",
    String.join ["lXAruIZBiYMmVaPBCBMBMBMCAGIlbAkUPhAhFJAhQhHhYhQPLhTAiYYKEjAeBmtfiA0vfh4AH0vYrNCjJ7LBoaE8",
    "jcBMB47ORn2eBjtOhp2fhAkhZGmdCl0BOnpQPzNitCwdhvCk6KFkif"]),
  ("Hanunoo",
    "l5AW"),
  ("Hebrew",
    "4HB0IhWIaEFh9pIZBEBABBBBBJ"),
  ("Hiragana",
    "sgBCEJBMQFBAEBDiVCHiaBhzqIBoaEKAhNBhsjBoeSAdCwlNA"),
  ("Old_Hungarian",
    "oiaACAjuTAPAh3xehSNhSHF"),
  ("Javanese",
    "hqsAiNBKEB"),
  ("Kayah_Li",
    "hqoAhP"),
  ("Katakana",
    "4FAdArmdCEJBMQFBAEBibDDifnQPmQhOBiXhy3NBoahehsiQDBGBBBAofChSAOD"),
  ("Khojki",
    "i3GJhnqAJ6uGRBhO"),
  ("Kannada",
    "iqRBRB4aMBCBWBJBECIBCBDHBGBBDCJBCj+cABBGAXABAhi5bF"),
  ("Kaithi",
    "irGJpmBA+veJ6iGiCKA"),
  ("Latin",
    String.join ["iBZGZhPAMACAFWBeBuADAKABCBAJABAGEbOBBBAMACCHBBBhGAFAEMoVBhmKBh9IAjgEhFGhQFDFMBiFhZAHnfpP",
    "AiBANAQMiTAhZBGAbARhIi2XfsXA+nIHajFDiCCBBABHVNpOAwBhKBIBDz8WGhgaZGZihFFBhJBIh16FeGF"]),
  ("Limbu",
    "irFAj8aeBLELEADL"),
  ("Linear_A",
    "igoHhMhmMpWJVKH"),
  ("Linear_B",
    "iggALBZBSBBBOCNhCjaFCEhMDI"),
  ("Lisu",
    "1cAQArpcB9mEhP+1QA"),
  ("Lycian",
    "oiaAh4xFc"),
  ("Lydian",
    "lXArrZAh23OZFA"),
  ("Mahajani",
    "lXAilMLhn2AJ6oWhG"),
  ("Mandaic",
    "hyAAvfbCA"),
  ("Manichaean",
    "hyAAihjfhGEL"),
  ("Meroitic_Hieroglyphs",
    "oidAh6pCf"),
  ("Malayalam",
    "iqRBRB8aMBCBhSBCBFEPCZj6aAXAhi5dC"),
  ("Modi",
    "hqhQJ7uGiELJ"),
  ("Mongolian",
    "mgAZGiYHhKh8EAj+RBFDh5yUM"),
  ("Multani",
    "izGJiigQGBABDBOBK"),
  ("Myanmar",
    "kgAkfhmkOAlRejBf7iQT"),
  ("Nandinagari",
    "irEB8AJj-ZAIAHAhi5VF8rKHChNCK"),
  ("Nko",
    "hwMAOADAtAhaCCh9peB"),
  ("Old_Turkic",
    "oiaAjuVAh3uPiI"),
  ("Oriya",
    "iqRBRBsbCBHCBCVBGBBBECICBCCHCEBBECRkrCAXA"),
  ("Osage",
    "4BACAGAiMAigqXhDEhD"),
  ("Old_Uyghur",
    "hyAAihlRAhjdZ"),
  ("Old_Permic",
    "lXAyIAFCKArPAh-2MhK"),
  ("Phags_Pa",
    "mgCBBAihJAj+SA+hdhX"),
  ("Psalter_Pahlavi",
    "hyAAihpfRHDMG"),
  ("Hanifi_Rohingya",
    "hwMAOADAhAAkTAihxLhHIJ"),
  ("Runic",
    "l1AiY"),
  ("Samaritan",
    "igAhNCOpvSA"),
  ("Shavian",
    "lXAig8YhP"),
  ("Sharada",
    "iqRAk8FABACBCAhi6PFCA6qHif"),
  ("Khudawadi",
    "irEBhn2KJ6zWhaFJ"),
  ("Sinhala",
    "irEBhgbCBRDXBIBACGDAEFBABHGJCCj3dAh9nOT"),
  ("Sogdian",
    "hyAAiinPhJ"),
  ("Syloti_Nagri",
    "irEBkAJhnwQhM"),
  ("Syriac",
    "4DBCBBAVACCHBBA2bAOBCAhAAKKaAkPNBhbCCoQKlsNABA"),
  ("Tagbanwa",
    "l5VBhJMBCBB"),
  ("Takri",
    "irEBhn2KJ7yGhZGJ"),
  ("Tai_Le",
    "4ABFBDAjpTJioGdCE"),
  ("Tamil",
    "iqRBRBwcBBFDCBDDBBABBDBDCDLEEDCBDCAGAOUkmfAhjgYA6wNABAhXBjkDhRNA"),
  ("Tangut",
    "r-QPvPAivvQAfl-XI3fwAI"),
  ("Telugu",
    "iqRBRB0aMBCBWBPCIBCBDHBBCCACDCJHIkiaAXA"),
  ("Tifinagh",
    "4CABACABAqxGhXHBOA"),
  ("Tagalog",
    "l4AVJAVB"),
  ("Thaana",
    "hwMAOBCAiAJoWhRh9yAAKA"),
  ("Thai",
    "1cAaAhLAhNAi2PhZFb"),
  ("Tibetan",
    "j4AiHBhDEhGBhDBOBGEBohND"),
  ("Tirhuta",
    "iqRBRBk8MAhi5dJ7iGiHIJ"),
  ("Toto",
    "1cAj3+Te"),
  ("Yezidi",
    "hwMAOADAiAJiigWhJBCCB"),
  ("Yi",
    "sgBBFJCHmfA74EhkMDhW20aE"),
  ("Inherited",
    "4PACABLBBDGCACPBBBRBEBDhvQBkqbe3ThVBABEwMBmCfh3oQPQN+PAhzoChNCWxACRHCGeD4r6SnP"),
  ("Common",
    String.join ["AiAaFahOBLBBBEXAfAuBCBJBADABIBABFFECTjeAGABAzdAmXAwEAhqcAsVDkhHLChABeBJBBBGBKDKBORhAhfhF",
    "BCCFBaBQhJCE0ZWKV8foAzTCfBjIwAWBXCJBDBABZtCADANANAVAwRXfAhROMDlBJFiffAmuAhf2oIZjGC+QAOB0",
    "1EJWUCLBSBDkTABfaFaFjfGBGKEsSMhThMhywDnZGtTkcjThcnVKhGChdDQIBHdEhcmVTMTMiWbGkHiUBiGBBCAC",
    "BCDBLBABGBiABDCHBGBbBDBEBADGBqTCpDChRljRiDiMhc2ChLEjDMOCOBOBhEKlNhYZBBNhLEIXFka+XEQDMDjW",
    "EieGLEAPLEhXIJGhHIdCLEBheqTMNCMDJFhXHOCKGIHkSBjF4hgHAeif"]),
  ("Garay",
    "hwMAOADAih5AhFDcIB"),
  ("Gurung_Khema",
    "irFAi18ahZ"),
  ("Ol_Onal",
    "irEBj3jKhKEA"),
  ("Sunuwar",
    "4ABBAJACAcADAimkOhBOJ"),
  ("Todhri",
    "4BACACAJABAiKAigzBhT"),
  ("Tulu_Tigalari",
    "jnGJkgCABAhi5bFlbA60OJBACABhFBJBACABDBJBBIB")]

end LogPipeline.Unicode
