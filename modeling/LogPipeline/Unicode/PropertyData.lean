/-!
# Binary properties

The ranges of code points that have each binary property of Unicode 16, in packed form, and the
packed ranges of the characters that count as parts of a word.
-/

namespace LogPipeline.Unicode

/-- The name of each binary property with the loose forms of its names. -/
def propertyNames : List (String × List String) := [
  ("ASCII_Hex_Digit", ["asciihexdigit", "ahex"]),
  ("Alphabetic", ["alphabetic", "alpha"]),
  ("Bidi_Control", ["bidicontrol", "bidic"]),
  ("Bidi_Mirrored", ["bidimirrored", "bidim"]),
  ("Case_Ignorable", ["caseignorable", "ci"]),
  ("Cased", ["cased"]),
  ("Changes_When_Casefolded", ["changeswhencasefolded", "cwcf"]),
  ("Changes_When_Casemapped", ["changeswhencasemapped", "cwcm"]),
  ("Changes_When_Lowercased", ["changeswhenlowercased", "cwl"]),
  ("Changes_When_Titlecased", ["changeswhentitlecased", "cwt"]),
  ("Changes_When_Uppercased", ["changeswhenuppercased", "cwu"]),
  ("Dash", ["dash"]),
  ("Default_Ignorable_Code_Point", ["defaultignorablecodepoint", "di"]),
  ("Deprecated", ["deprecated", "dep"]),
  ("Diacritic", ["diacritic", "dia"]),
  ("Emoji", ["emoji"]),
  ("Emoji_Component", ["emojicomponent", "ecomp"]),
  ("Emoji_Modifier", ["emojimodifier", "emod"]),
  ("Emoji_Modifier_Base", ["emojimodifierbase", "ebase"]),
  ("Emoji_Presentation", ["emojipresentation", "epres"]),
  ("Extended_Pictographic", ["extendedpictographic", "extpict"]),
  ("Extender", ["extender", "ext"]),
  ("Grapheme_Base", ["graphemebase", "grbase"]),
  ("Grapheme_Extend", ["graphemeextend", "grext"]),
  ("Grapheme_Link", ["graphemelink", "grlink"]),
  ("Hex_Digit", ["hexdigit", "hex"]),
  ("Hyphen", ["hyphen"]),
  ("IDS_Binary_Operator", ["idsbinaryoperator", "idsb"]),
  ("IDS_Trinary_Operator", ["idstrinaryoperator", "idst"]),
  ("IDS_Unary_Operator", ["idsunaryoperator", "idsu"]),
  ("ID_Compat_Math_Continue", ["idcompatmathcontinue"]),
  ("ID_Compat_Math_Start", ["idcompatmathstart"]),
  ("ID_Continue", ["idcontinue", "idc"]),
  ("ID_Start", ["idstart", "ids"]),
  ("Ideographic", ["ideographic", "ideo"]),
  ("Join_Control", ["joincontrol", "joinc"]),
  ("Logical_Order_Exception", ["logicalorderexception", "loe"]),
  ("Lowercase", ["lowercase", "lower"]),
  ("Math", ["math"]),
  ("Modifier_Combining_Mark", ["modifiercombiningmark", "mcm"]),
  ("Noncharacter_Code_Point", ["noncharactercodepoint", "nchar"]),
  ("Other_Alphabetic", ["otheralphabetic", "oalpha"]),
  ("Other_Default_Ignorable_Code_Point", ["otherdefaultignorablecodepoint", "odi"]),
  ("Other_Grapheme_Extend", ["othergraphemeextend", "ogrext"]),
  ("Other_ID_Continue", ["otheridcontinue", "oidc"]),
  ("Other_ID_Start", ["otheridstart", "oids"]),
  ("Other_Lowercase", ["otherlowercase", "olower"]),
  ("Other_Math", ["othermath", "omath"]),
  ("Other_Uppercase", ["otheruppercase", "oupper"]),
  ("Pattern_Syntax", ["patternsyntax", "patsyn"]),
  ("Pattern_White_Space", ["patternwhitespace", "patws"]),
  ("Prepended_Concatenation_Mark", ["prependedconcatenationmark", "pcm"]),
  ("Quotation_Mark", ["quotationmark", "qmark"]),
  ("Radical", ["radical"]),
  ("Regional_Indicator", ["regionalindicator", "ri"]),
  ("Sentence_Terminal", ["sentenceterminal", "sterm"]),
  ("Soft_Dotted", ["softdotted", "sd"]),
  ("Terminal_Punctuation", ["terminalpunctuation", "term"]),
  ("Unified_Ideograph", ["unifiedideograph", "uideo"]),
  ("Uppercase", ["uppercase", "upper"]),
  ("Variation_Selector", ["variationselector", "vs"]),
  ("White_Space", ["whitespace", "wspace", "space"]),
  ("XID_Continue", ["xidcontinue", "xidc"]),
  ("XID_Start", ["xidstart", "xids"])]

/-- Each binary property with its packed ranges. -/
def propertyData : List (String × String) := [
  ("ASCII_Hex_Digit",
    "hQJHFaF"),
  ("Alphabetic",
    String.join ["iBZGZhPAKAEAFWBeBuJELOEHABAiWAdRBBCDBAGABCBABTBiSBkKIlFBhFCAGhIhHNBABBBBBAIaEDdKFhXBGOjF",
    "BHEHECKCCAQhPNjEYhAJBEAFXCSTYHKFXBFIAIhJKLDGGiLBPBCEONSBHCBCVBGBADDDHCBCBBAIAEBBEMBKAECB",
    "FEBCVBGBBBBBBEEEBCBEAHDBARFLCBIBCBVBGBBBEDIBCBBDAPDVDECBHCBCVBGBBBEDHCBCBJBEBBENAQBBFDCB",
    "DDBBABBDBDCDLEEDCBCDAGAhIMBCBWBPDHBCBCIBBCCACDcDBHBCBWBJBEDHBCBCIBGBBDNCMMBCBhICHBCBCBAF",
    "DHEWFBCBRDXBIBACGIFBABHSBNhZFGGAhTBBABEBXBABSBCCEBAGAODhAAhfHBhDESEPBhDiDhWBACEQhfKDChFB",
    "AFAChKBqMBDCGBABDChIBDChABDCGBABDCOBhYBDCiChFPQiVCFDzLCQBZFiKDKHTLUMTMMBCBBMhTCSOAEAiDiY",
    "HhKFiFKeBLEIXdCELhLEZhWbEheCThSAXBLChRhTBOBHhThJCDKhLBKOhWWCKhDCKFhKCChJDBFBBDAFlfThBLoV",
    "CFChFCFCHBABABABeChUBGBADCBGDDCFEMFCBGjUANAQMjFAEACJBADEGABABABDBKCDFEEARhI5NhTh4WnEGDDB",
    "MhFBAFAChXHAQWJGBGBGBGBGBGBGBGBfhPAuVCZIHECEEiVGCBiZBDFhKBidRfhQPwAmtfiA10MiDhNCoMDPKBUh",
    "OFHDjQhHICjGCiCCBBABHVTBhAYhTMiDBAhMFDABCKhAFhCNcDhSBLPAQPKEBhWJNSWDiEBABAYCCPCDLFCFCFJG",
    "BGBhKBNGjaVq9DMWEhQooErNCjJhGGMEFLBMBEBABBBBBjLhBrKShfChVhILjUEBkGhEZGZLiYDFCFCFCChDLBZB",
    "SBBBOCNhCjaiFhUoLcDhQhPfNdFhKFdChDEHBEhKkdShDEhDEhHIhTMKBOBGBBBKBOBGBBDhTMpWJVKHYFBhJBIi",
    "FFCABhLBBDACWKWJeiBSBBKVKZiGhXGBiADBBFHBCBchKcDchDHBbbhVKVKSNRjOiIhXhSNhSNhHhCbDAFWnahJB",
    "BDBQChXADcKAIVhKRhOUbWJiFhLEKhYJANYXhSRDIhCDAJhfBDJBKABAhDRBhBCAGDheGBABDBOBJHhYXDBHCBCV",
    "BGBBBEDHCBCBDAGAFGcJBACABhFBJBACABDBBDABAhMiBBCBDUCeiBCBBAlYhVCGZFhCheBADAhbhVCAiHaCNVGl",
    "ZhYjHhffHCACHBBBdBBCBCDidHChNCFBABBbhSCJRiHFASiImHhAfIBhMBGBAhRdCVBNiJGBBBhLDABBBCBACBYF",
    "BBBhEBBBDBAqHWJQBhIDCjPAiP8ZjGjORmDiyMjAPhhPRFZj8aFyGm1ZhOh2RxYHeRiORdShPQDfUFStQhMmThfk",
    "AiKEhYHQiABBAMBOl-XIhmVhJJo3HDBGBBBpCPAdCCAODIsLioEjKFMDIHJEAl7BiUBiGBBCACBCDBLBABGBiABD",
    "CHBGBbBDBEBADGBqTCYBYBeBYBeBYBeBYBeBYBHh5UeGFmVGBQCGBBBEFhdhBAjQhMKGQAqBdShLvEbnEdCAvPGB",
    "DBBBOBmEhbiDDADAhlUDBaBBBACABJBDBABAGAEABABABCBBBACABABABABABBBACDBGBDBDBABJBQFCBEBQzUZG",
    "ZGZjzWhp2fhAkhZGmdCl0BOnpQPzNitCwdhvCk6KFkif"]),
  ("Bidi_Control",
    "hwcAmvRBaEhXD"),
  ("Bidi_Mirrored",
    String.join ["hIBSABAcABAdABAhNAPAjzeDh6dBiscBKBhWBOBlRAmADDFDADBDDBDBABAEIFABRFDJBBABHBfCDFAJBCSFBJEC",
    "BEXCPIDUBHBhhdNiKACDBBBCFDFCDNsTVCFBNIAHFDAEEBBCEEABCCBKFCBMSBDCABACABDFBGCYBLBEDBBCBEhK",
    "CHBhHFABADEFCEADEBAoAAwDDDBBBOBCJhLHtLJCHhzxdFFBlCBSABAcABAdABABBBBh17XAhZAhZAhZAhZA"]),
  ("Case_Ignorable",
    String.join ["hHAGALAhDABAiHAEABAEACBvXlfEBEAJBBAnbGmPAFAhRhMBABBBBBAhMALFKKBAhDAKUQAjFHBJBDhBABAeaibK",
    "haKEACAYXhLChMAHBFIhJhZhXABAEHEADGKBNAPAhaAEDIAUBaACBhZAEBEBCCDAeBDALBhZAEEBBEAUBWFBAhaA",
    "CABDIAHBLBeAhdAMAhSADAhXABCFCBDHBLBdAhaACAGAFBUBcBhZBEDIAUBdAiIAHCBAiaACGLIjCACIJABGiJBb",
    "ABABAhXNBEBBFKBhDJAjGDBFBBCBZBECQDNACBGAPAieAzAC9SCdBeBeBiABBGIACKDAFAhNEhTAiBBhCAjWCEBJ",
    "AGCmbBCAhaABGBABACHGJCAhHAIehRDhQABEBAFAhIIMBhADCBBChYABBDABChaHCBiAFiSCBMBGEAGADBhSheNA",
    "hCjEtdABCLCNCNCNBMEIBKACACEhREBJBANAQMhThAi8LBjRCjdAPAjAfhPAuVAhEDDEFAidFidC74WAhnCFoOAj",
    "CDBJBAcDiQBOhBiOAXCjHCDBIADAEAZBFAkXBaRNAhGHZKhOChQACDCBRAVBiCFCBCBMAIAhDALAhTABCCBFBBAb",
    "AOBFBBAjEEJCjZACAEAz5QAkTQxdPDAMPhCACAlJAHAGALAhDABAhPAhNBiDAVCwBAnCAkVEhgFFBhJBIyGCBBFD",
    "hICEAlFBxdDhGAaEBApbBiPDiGKhRDjbAhWOhJACBKChRDCBCAEAKAhSChEEBHheAMBhUIKDCAifCCABBGACAkdA",
    "DHVBhZBDAhFGDEiGFNABABAOBiVHCCBAXAiUFBAEBBBnODGBBBbBiVHCABBjKABACFBAjFABACDBEoDIBBoABBAE",
    "AkQDCBEAhAJhIFCDIAJFCChOMBBsWGBFBAiSVCGBBBBjaFDABBBGBAiIBDABAqbBLBhUEFABAXAlmVQGOrmILDCi",
    "uAEhbGJDvcChIBvCAhfQiABBBwgLDBGBBjkeBBDkychNCWxACJPCGeDkUCh9bhWEhRIAOAWEBOhqQGBQCGBBBEFh",
    "dhBAlANrQAhdDvbEneB3AGjNHi1PE4jgBAeifkAnP"]),
  ("Cased",
    String.join ["iBZGZhPAKAEAFWBeBmCBDEmPBhDHBeEjAAhKDCBCDBAGABCBABTBiSBkKIlFBhFJhIi4XhFBAFAChKBD1AiVCFik",
    "CKFhKCCiAlfiAoVCFChFCFCHBABABABeChUBGBADCBGDDCFEMFCBGjUANAQMjFAEACJBADEGABABABDBFEACDFEE",
    "ARfDB5RhTh4WnEGDDBMhFBAFA+oShNSdkEjFDDBhdCBBABHVEBC5VhKBNGiPz6AGMEhgJZGZhlFiPjAhDEhDjUKB",
    "OBGBBBKBOBGBBuDACCBhJBIhmFhSNhSidVKVi4ahf1rAhf5sAiUBiGBBCACBCDBLBABGBiABDCHBGBbBDBEBADGB",
    "qTCYBYBeBYBeBYBeBYBeBYBHh5UJBTGFoFhdikSiDh-MZGZGZ"]),
  ("Changes_When_Casefolded",
    String.join ["iBZiaAKWBHhAABABABABABABABABABABABABABABABABABABABABABABABABABABABACABABABABABABABABBBAB",
    "ABABABABABABABABABABABABABABABABABABABABABBBABABABBBABBBCCDBBBCDBBBBABABBBACABBBCBABBDAH",
    "BBBBBBABABABABABABABACABABABABABABABABACBBABCBABABABABABABABABABABABABABABABABABABABABAB",
    "ABABABABABABABAHBBBCABDBABABABAnWAhKABADAIAGABCBABBBQBIWAMCDBBABABABABABABABABABABABABBC",
    "BBABBChShQABABABABABABABABABABABABABABABABAJABABABABABABABABABABABABABABABABABABABABABAB",
    "ABABABABABBBABABABABABACABABABABABABABABABABABABABABABABABABABABABABABABABABABABABABABAB",
    "ABABABABABABABABABABABABABABABAChFhQAi4YhFBAFA5KFikCJGhKCCqAABABABABABABABABABABABABABAB",
    "ABABABABABABABABABABABABABABABABABABABABABABABABABABABABABABABABABABABABABABABABABABABAB",
    "ABABABABABABABABABABABABABABABABAFBCABABABABABABABABABABABABABABABABABABABABABABABABABAB",
    "ABABABABABABABABABABABABABABABABABABABABABABAJHIFKHIHIFLABABABAIHQhPCCCFFCCFLDMEFCCFpJAD",
    "BGAhNPTA5SZh5QhPhQABCCABABABDBACAICBABABABABABABABABABABABABABABABABABABABABABABABABABAB",
    "ABABABABABABABABABABABABABABABABABABABABABABAIABAEA+qNABABABABABABABABABABABABABABABABAB",
    "ABABABABABATABABABABABABABABABABABABABAkHABABABABABABADABABABABABABABABABABABABABABABABA",
    "BABABABABABABABABABABABABABAKABABBBABABABAEABACABADABABABABABABABABABABEBEBABABABABABABA",
    "BDBABBDAFABABABAYA7aiPz6AGMEhgJZhmFhHkIhDkcKBOBGBBh3KhSkdVi5af1sAf+1AhB"]),
  ("Changes_When_Casemapped",
    String.join ["iBZGZhaAKWBeBhfBiTBbCNCBBAEicBRGaBBBABBDBBDBECABBCAHACABBDFFAKBlGAhKDCBDCBAGABCBABTBhODh",
    "ABEBkEIlFBhFKhGi4YhFBAFAChKCC1AiVCFikCKFhKCClZADAQAjRkbCABjVCFChFCFCHBABABABeChUBGBADCBG",
    "DDCFEMFCBGpJADBGAbARfDB5RhTh4WjQBBBBHjFHDDBMhFBAFA+oShNSbkGNChdJODCCEBYBdCBEGYB6cAciPz6A",
    "GMEhgJZGZhlFiPjAhDEhDjUKBOBGBBBKBOBGBBh2DhSNhSidVKVi4ahf1rAhf+0AiD"]),
  ("Changes_When_Lowercased",
    String.join ["iBZjFWBGhBABABABABABABABABABABABABABABABABABABABABABABABABABABABACABABABABABABABACABABAB",
    "ABABABABABABABABABABABABABABABABABABABABBBABADBBABBBCCDBBBCDBBBBABABBBACABBBCBABBDAHBBBB",
    "BBABABABABABABABACABABABABABABABABACBBABCBABABABABABABABABABABABABABABABABABABABABABABAB",
    "ABABABABABAHBBBCABDBABABABApBABADAIAGABCBABBBQBIhDAIABABABABABABABABABABABAFACABBChShQAB",
    "ABABABABABABABABABABABABABABABAJABABABABABABABABABABABABABABABABABABABABABABABABABABABBB",
    "ABABABABABACABABABABABABABABABABABABABABABABABABABABABABABABABABABABABABABABABABABABABAB",
    "ABABABABABABABABABAChFi6JhFBAFA2SiVikTAGhKCCqAABABABABABABABABABABABABABABABABABABABABAB",
    "ABABABABABABABABABABABABABABABABABABABABABABABABABABABABABABABABABABABABABABABABABABABAB",
    "ABABABABABABABABABAJABABABABABABABABABABABABABABABABABABABABABABABABABABABABABABABABABAB",
    "ABABABABABABABABABABABABABABAJHIFKHIHIFLABABABAIHYHIHIHIELELDMELEpJADBGAhNPTA5SZh5QhPhQA",
    "BCCABABABDBACAICBABABABABABABABABABABABABABABABABABABABABABABABABABABABABABABABABABABABA",
    "BABABABABABABABABABABABABAIABAEA+qNABABABABABABABABABABABABABABABABABABABABABABATABABABA",
    "BABABABABABABABABABAkHABABABABABABADABABABABABABABABABABABABABABABABABABABABABABABABABAB",
    "ABABABABAKABABBBABABABAEABACABADABABABABABABABABABABEBEBABABABABABABABDBABBDAFABABABAYA1",
    "5LZhmFhHkIhDkcKBOBGBBh3KhSkdVi5af1sAf+1AhB"]),
  ("Changes_When_Titlecased",
    String.join ["jBZhaAhJXBHBABABABABABABABABABABABABABABABABABABABABABABABABABABABACABABABABABABABBBABAB",
    "ABABABABABABABABABABABABABABABABABABABABACABABCCABACADAFACADCCACABABACAEACADABACADABAEAB",
    "BBBBABABABABABABABABBBABABABABABABABABCBABADABABABABABABABABABABABABABABABABABABABADABAB",
    "ABABABABABABAIACBBAEABABABABFBBBABBDBBDBECABBCAHACABBDFFAKBlGAhLABADADCSAbhCBBDCBABABABA",
    "BABABABABABABABEBACACAhUhPBABABABABABABABABABABABABABABABABAJABABABABABABABABABABABABABA",
    "BABABABABABABABABABABABABACABABABABABABBBABABABABABABABABABABABABABABABABABABABABABABABA",
    "BABABABABABABABABABABABABABABABABABABABABABABABAhRhGjzQFikCIBAnOADAQAjSABABABABABABABABA",
    "BABABABABABABABABABABABABABABABABABABABABABABABABABABABABABABABABABABABABABABABABABABABA",
    "BABABABABABABABABABABABABABABABABABABABABABGFABABABABABABABABABABABABABABABABABABABABABA",
    "BABABABABABABABABABABABABABABABABABABABABABABABABABIIFKHIHIFKHIHINCHIHIHIEBBGADCBBIDCBIH",
    "KCBBqWAhBPEA6LZh6GhPBADBBABABAGACAKABABABABABABABABABABABABABABABABABABABABABABABABABABA",
    "BABABABABABABABABABABABABABABABABABABABABABABAIABAEAMhFBAFA+oTABABABABABABABABABABABABAB",
    "ABABABABABABABABABATABABABABABABABABABABABABABAkHABABABABABABADABABABABABABABABABABABABA",
    "BABABABABABABABABABABABABABABABABABAKABACABABABABAEAEABBCABABABABABABABABABALABABABABABA",
    "BABAEABACADAFABABAaA6cAciPz6AGMEhhJZhmNhHkIhDkbKBOBGBBh4DhSjdVi5af1sAf+1ChB"]),
  ("Changes_When_Uppercased",
    String.join ["jBZhaAhJXBHBABABABABABABABABABABABABABABABABABABABABABABABABABABABACABABABABABABABBBABAB",
    "ABABABABABABABABABABABABABABABABABABABABACABABCCABACADAFACADCCACABABACAEACADABACADABAFBB",
    "BBBBABABABABABABABBBABABABABABABABABBBBBADABABABABABABABABABABABABABABABABABABABADABABAB",
    "ABABABABABAIACBBAEABABABABFBBBABBDBBDBECABBCAHACABBDFFAKBlGAhLABADADCSAbhCBBDCBABABABABA",
    "BABABABABABABEBACACAhUhPBABABABABABABABABABABABABABABABABAJABABABABABABABABABABABABABABA",
    "BABABABABABABABABABABABACABABABABABABBBABABABABABABABABABABABABABABABABABABABABABABABABA",
    "BABABABABABABABABABABABABABABABABABABABABABABAhRhGi6IhKCC3YFikCIBAnOADAQAjSABABABABABABA",
    "BABABABABABABABABABABABABABABABABABABABABABABABABABABABABABABABABABABABABABABABABABABABA",
    "BABABABABABABABABABABABABABABABABABABABABABABABGFABABABABABABABABABABABABABABABABABABABA",
    "BABABABABABABABABABABABABABABABABABABABABABABABABABABABIIFKHIHIFKHIHINChUBBEABADCBBEADDC",
    "BIHKCBBEAqRAhBPEA6LZh6GhPBADBBABABAGACAKABABABABABABABABABABABABABABABABABABABABABABABAB",
    "ABABABABABABABABABABABABABABABABABABABABABABABABABAIABAEAMhFBAFA+oTABABABABABABABABABABA",
    "BABABABABABABABABABABABATABABABABABABABABABABABABABAkHABABABABABABADABABABABABABABABABAB",
    "ABABABABABABABABABABABABABABABABABABABABAKABACABABABABAEAEABBCABABABABABABABABABALABABAB",
    "ABABABABAEABACADAFABABAaA6cAciPz6AGMEhhJZhmNhHkIhDkbKBOBGBBh4DhSjdVi5af1sAf+1ChB"]),
  ("Dash",
    "hNAhqcAhTAjyBAhgFAigJFhdAhHAPAsGAjgEACAfBEAcAteATAjPAhzsQBhFAKAlJAjzAApeA"),
  ("Default_Ignorable_Code_Point",
    "lNA1BA2MAi6CBhyTBiVEh-bEaEhRPknUAhzkbPnPAlAAiPIhvlHDlmPH4r0Fj-f"),
  ("Deprecated",
    "qJAhpJAioDABAihJBimFF1ZB73mWA"),
  ("Diacritic",
    String.join ["ieABAiHAGAEACBvXkeBHFFRBEAJBndEmRAhXQBaBABBBAkGHEBkGBEBDCiDaibKhaKhCBjeHhJJQbhdAQADDcAiK",
    "AQAjOAQAjOAQAhPChcAQAHAjXAjOAQAjOAQAjNBQAjcAjPAMFBAjLANEiLBbABABAEBiCCBBheAjQABBhIBEEZGB",
    "AKB2BC9UBeAkUKJAqbCpEAUHCAhQOCKjIAPAhGIhWBhaALBiCBiAFiSYEAGACChSheiZLhFKtdABCLCNCNCNBjnQ",
    "CpdAvaFjJDifA9rSAMBBAcBiSBOhBjGCjNBMAhFAkXAbRhZDhEAifAMAhEAkVCiBDhTAjEEJCkABz5QA4BPoOABA",
    "hPAhNBiDA3cAhkfFBhJBIzdCEAlFBxbFhGAaEsPCiGKhRDmAAhJAiIBjYBheAiMAJCjIBlSBiQBQAYGDEiZCBBNB",
    "ifADAjbBnbBjeAjWBjTAoNBoCBEAkcAiTASAiRAtFAoCABBiRAtJBXAlnMOrmZAiuAEhbGxUBxCQiQBv-eDBGBBn",
    "4BhNCWxACDFIHCGeDj0ChdmCGrXAhdD3eB3AGjNCBC"]),
  ("Emoji",
    String.join ["hDAGAFJjPAEAn8NAMAmYAWAiaFPBrPBMAlGAZKECmHAnHBKAJAhaDBEJACACBCAEACABBCADADBICFABAFLLBCAB",
    "BBASACBSFBABBDBFACBEBLBFBCAFBBABBUBFFBDCAEACACFBACABABAGADAGAKBPACAEABAECBALBhQCJAOAOArU",
    "BuPCTBhTAEAhmaAMAyZABAjvrKAmKAlABMBOACJiLZBBXAUACIVBlOhBCjPCBBCCiSCCBoGBheLFBXHBCHMACDCA",
    "EBNBCAIBJAFCMCICCABAEAGADAGiVhQiFFHCCEJDABBDACJnDLEAobhOBJBlYjQMDJFhXHOCKGI"]),
  ("Emoji_Component",
    "hDAGAFJn+TAmVAh3pLAh8+WZvbEhtQD4hzMif"),
  ("Emoji_Modifier",
    "j8-bE"),
  ("Emoji_Modifier_Base",
    String.join ["pwdAmbAQDjzjXAhcCCACCjVBCKVSDAECBCHABAYAmJBEAVAEBlOCDEiTAQCJALAxfACAIHGAJJCChYAhdBBBBARC",
    "BMnFChKI"]),
  ("Emoji_Presentation",
    String.join ["o4aBmNDDACAwJBVBhSLhLATANAIBRBFBIAFAVAHBBAEACAHAEBcAhDABAECBAhdCYAOA6bBhTAEAjxlOAmKAleAC",
    "JiLZBAYAUACEBCVBlOhAMIBiFBVMhKEEMQDADiGBABlaCheNDBXSAaBNAiWiUhQiFGADCCCEDLBHInDLEAobhOBJ",
    "BlYjQMDJFhXHOCKGI"]),
  ("Extended_Pictographic",
    String.join ["lJAEAn8NAMAmYAWAiaFPBrPBMAifAiGAZKECmHAnHBKAJAhaDBFBLBjRKjVCKBABAGADAGAKBPACAEABAECBALEh",
    "NCJAOAOArUBuPCTBhTAEAhmaAMAyZABAjvrGnfNCfAhcFMBOACJShYbOKAUACIBDJtRFpdIoJhQjfjULiVhKMDhY",
    "HKFhIHeiRMhOBJBtYoA-d"]),
  ("Extender",
    String.join ["lXAwYB7OAtZAzWAkJAiZA3QAjfAiqDAhYAzDAsOAiEAk8JAhLEjHBidC74WAhvWA+CAWAkJAjMAVB1jbAigQBhuL",
    "AbAEAhmHApFAjUBvSChmPA0lJBhkcBBA8qYBhlRA6UC"]),
  ("Grapheme_Base",
    String.join ["hAiehBMByRjQHCFEGBABTBmfHlFBhFChRCChOABACACAJaEFRJLABhNVPBjEIAGBCAEfCABddiYLAOhKJGDXEAJA",
    "DAHOBYFABKFeRhJhZhWBABDIDBCHJCcBBBHCBCVBGBADDDABBGBCBBANBBCEXFABFEBCVBGBBBBBBECYDBAHJCCB",
    "AMABIBCBVBGBBBEDDIABBDAPBELHAIBBHCBCVBGBBBEDACAGBCBPBBCERLABFDCBDDBBABBDBDCDLFABBDCBCDAV",
    "UGCBHBCBWBPDADDTCCACBEJHJBKBCBWBJBEDBCABBYBBBEJBCOKBCBhICABBFCBCBBECBJEZCBBRDXBIBACGJBGG",
    "HJCCMhPBBLHIMhFBBABEBXBABJBBJACEBAJJCDhAXCaBABABNBhDSAFACEhRHBFBMhFhMEAGACBCYCDDPEMBBCFB",
    "OBhHBAFACrYBDCGBABDChIBDChABDCGBABDCOBhYBDCiCFcDZGiVCFC0cDiYHRNSDBJROMBCPhTCAHHBBLIDJGJG",
    "KFJGiYHEChBBAFiFKeEDCCEBBFHADhJCELhLEZGKDhYCBDhXBAJABBIFNJGJGNiWhPKDDHBcJLCfEBGhXBACCBAN",
    "hPIBFODhdFhKCKLANAHDBFBCCAFlfiAoVCFChFCFCHBABABABeChUBOBNCFBSCCBIBKFXHhQQBCaBMDhAhfkLE0Z",
    "WKVh4TCfBqXDBFhMBAFAChXHBPWJGBGBGBGBGBGBGBGhBidhCZBiYMmVahZGPBiVEjEFhKBidBiVJhPB8zMDhWJq",
    "bUhOEAKfCiPCFImNCBBABHVPBCBDBYCEEJGhXIiDKLYMBhFIYLAMdGhPBBEBCBBMBKEGBYBhIGBCBLCBHBACJCfB",
    "hSBADBCECABAYQCHLFCFCFJGBGBhbEjUBBBDDJGq9DMWEhQooErNCjJhGGMEFABXBEBABBBBBjcQtcChVHAhAPQJ",
    "WhCBSBDEEBkGEkcCeDFCFCFCCDGBGNBCLBZBSBBBOCNhCjaFCEhMDiXBMDAhPhMkDcDhQQaEhDJdFhFKdBhEENhK",
    "kdCJGhDEhDEhHIhTLLBOBGBBBKBOBGBBDhTMpWJVKHYFBhJBIiFFCABhLBBDACWBiHIIhQSBBFhADaFAiAhXETCh",
    "OPDBCBcKIHIHhfhAhEGLJhVDcCaFZHDMGiQiIhXhSNhSHhJMJGhFIXIBmQeBhJDACBQChbhHIVLIWREDhGbUWJAB",
    "hVPGEdBBCAMhQEBCBBDOYHJJhDFAJRIhCBCLhTJABHEBBPBTLRBbDBEFBBhfGBABDBOBKGhOBCNJIBBHCBCVBGBB",
    "BEDABABDCBCBDAMGcJBACABhFBABBPABBDABCBBhHhXIBDABUBABCehPBBGABBBACACDIJlGhOBBGDCACahEhSIB",
    "BACDLJGMThKBABBIBGJGTcaDABBEAJWlZhOJACAjEiSMHCACHBBBXBEBBGDBCJJiGHChJIDBDbAKhHGBEHJAGBDh",
    "NNACINiIHJlWhBOJGIBhFOABFKcDfZAHACAiLGBBBhFVAJJGFBBBhEEBBABAHJpWSCDJOBhDIBDWiWAPhRN8ajGj",
    "OBELmDiyMjCNhhPRFZj8aFyGm1ZdMCDJh2GxYHeBJEiQBJGdHAKhPHOKJBGBUFStQhZmGiajFiKFhXLMiADcl-XI",
    "hmVhJJo3HDBGBBBpCPAdCCAODIsLioEjKFMDIHJCACAj7AnZGtTkcjThcnVKhGChbFCWBHdEhcViBDAjaTMTMiWJ",
    "YkHiUBiGBBCACBCDBLBABGBiABDCHBGBbBDBEBADGBqTCpDCxRhXDhSHBNBGhjUeGFoFhdkShMKGCJEBqAdShLEJ",
    "FAuQbEJmWdCKEAvAGBDBBBOBmECIhQiDHAEJEB4RiDiMhcmCDBaBBBACABJBDBABAGAEABABABCBBBACABABABAB",
    "ABBBACDBGBDBDBABJBQFCBEBQhUBoOhLEjDMOCOBOBhEKlNhYcNhLEIHBOFka+XEQDMDjWEieGLEAPLEhXIJGhHI",
    "dCLEBheqTMNCMDJFhXHOCKGIHkSBjFhgGhp2fhAkhZGmdCl0BOnpQPzNitCwdhvCk6KFkif"]),
  ("Grapheme_Extend",
    String.join ["4AjPoTGoHhMBABBBBBAiIKhQUQAjFGCFCBBDhDAeaibKhaIJAYDBIBCBEhLChbIhKXBfhXABAEHEADGKBdAhaABA",
    "CDIAJAKBaACBhZAEBEBCCDAeBDALBhZAEEBBEAUBWFBAhaABBBDIAHCKBeAhbABAMAJAhIADAhXABCFCBDHBLBdA",
    "haACBBADCBDHBLBcBhZBBACDIAJAKBdAiIAEACCBAIAiRACGMHjCACILGiJBbABABAhXNBEBBFKBhDJAjGDBFBBC",
    "BZBECQDNACBGAPA1fC9SDcCdBeBiABBGIACKJAhNCBAjVBhCAjWCEBJAGCmbBCAhaABGBABACHGJCAhQehRDhQJE",
    "ChGIMBhADCFhYABBDABEhYHCBkYCBMBGEAGADBmGhfwMAmDhAi-eCkNAjAfxKFjJB9uUDBJhABiQBoQADAEAZBFA",
    "kXBaRNAhGHZKBAhMChQACDCBCAhEAiDFCBCBMAIAhPAhTABCCBFBBAhKBIAnOACAEAz5QA3BPQPrOBydAnCAkVEh",
    "0GCBBFDhICEAlFBxdDiBEpdBiPDiGKhRDjbAhWOhJACBKChRDCBHAhdChEEBHheAMBhUIBAIDCAifCCDGACAkdAD",
    "HVBhZBBABAMAJAOGDEiDACFBACABCECBAOBiVHCCBAXAiRACFBACABBBBnLACDGBBBbBiVHCABBjKABACHjFABAC",
    "DBEoDIBBnVAKDEAkQDCBEAhAJhIFCDIAJFCChOMBBsWGBFBAiSVCGBBBBjaFDABBBGBAiIBDABAqbBLBhUEFCXAl",
    "nFAGOrmILDCiuAEhbGhgYAhfDiRALBzlLBkzBhNCWweEDFIHCGeDkUCh9bhWEhRIAOAWEBOhqQGBQCGBBBEjEAlA",
    "GrXAhdDvcDneB3AGjNG4l2VifkAnP"]),
  ("Grapheme_Link",
    String.join ["iqNAjfAjfAjfAjfAjfAjfAjfAjNBQAjcAjPAjfAmJAlUBh2ZBeAkdA0NAnDAjFBiGBksLA+0GAhFAkXAkOAjMApV",
    "AnWA3yRAhwGAhJAOAhZAjZBkLAjUAlUAjCAkACjRAjfAncAjfAjWAjUAoNAoDBlBAiTASAiRAtFAoEBiRAtJBwvM",
    "A"]),
  ("Hex_Digit",
    "hQJHFaFh-1JJHFaF"),
  ("Hyphen",
    "hNAjfAhmcAkzbAigJBjwFA3DAhzrHAlJAiXA"),
  ("IDS_Binary_Operator",
    "r-QBCJvRA"),
  ("IDS_Trinary_Operator",
    "r-SB"),
  ("IDS_Unary_Operator",
    "r-eB"),
  ("ID_Compat_Math_Continue",
    "lSBFAn9WADKBOrTAEAWAjtlCAZAfAZAfAZAfAZAfAZA"),
  ("ID_Compat_Math_Start",
    "owCAEAWAjtlCAZAfAZAfAZAfAZAfAZA"),
  ("ID_Continue",
    String.join ["hQJHZEABZhPAKABACAFWBeBuJELOEHABARjUBBCDBAGEBABTBiSBkKBEClFBhFCAGhIIhMBABBBBBAIaEDdKFiJE",
    "jFBHCJBSCAQhaCjEOhVEACAChNSbEKFXBFIiKBkACJBSBHCBCVBGBADDCICBCDIAEBBECLKABACCBFEBCVBGBBBB",
    "BBCABEEBCCDAHDBAHPLCBIBCBVBGBBBECJBCBCCAPDCJJGBCBHCBCVBGBBBECICBCCHCEBBECJBAQBBFDCBDDBBA",
    "BBDBDCDLEEDCBDCAGAOJQMBCBWBPCIBCBDHBBCCACDCJQDBHBCBWBJBECIBCBDHBGBBDCJBCMMBCBhSBCBEFDHEC",
    "JKFBCBRDXBIBACGDAEFBABHGJCBNhZFOBJhHBBABEBXBABWCEBABGBJCDhAAXBGJLABABAEJBhDETBRBhDJAhZiJ",
    "GiNChFBAFAChKBqMBDCGBABDChIBDChABDCGBABDCOBhYBDCiCCCJIOPQiVCFDzLCQBZFiKDKHVJVLTMMBCBBMiT",
    "DAEBCJhBCBKGiYHhKFiFKeBLELKhHCELhLEZGKhFbEheBcCKGJNAINBPhRiMDJRIMjTMhXIJDhQCKFhKCCQCBhGF",
    "wVCFChFCFCHBABABABeChUBGBADCBGDDCFEMFCBGPBhRBTAcANAQMhTMEADLRAEACJBACFGABABABPCDFEEARhIi",
    "zXnEGIMhFBAFAChXHAPXJGBGBGBGBGBGBGBGBfwFCZOBECEEiVCGBieFhKBidRfhQPwAmtfiA10MiDhNCoMDbUhP",
    "EJBjShFICjGCiCCBBABHVhVEAThTMiFKJGXDABhQChDMcDiAOKGeBhWJNCJGWDiIYCCPCEKFCFCFJGBGBhKBNGja",
    "BBCJGq9DMWEhQooErNCjJhGGMEFLBMBEBABBBBBjLhBrKShfChVhILEPQPDBYChAEBkGTJHZEABZKiZDFCFCFCCh",
    "DLBZBSBBBOCNhCjaiFhUkIAkCcDhQPAffNdFhKFdChDEHBEhKkdCJGhDEhDEhHIhTMKBOBGBBBKBOBGBBDhTMpWJ",
    "VKHYFBhJBIiFFCABhLBBDACWKWJeiBSBBKVKZiGhXGBiADBBFHBCBcCCEAhAcDchDHBdZhVKVKSNRjOiIhXhSNhS",
    "NhHIJGhFDEBWnahJBBDBQChXhAKAIhAfVhKUbWJiGfPJhbHANYHJGhUBJEDIhDCAJiEEDBMBAhDRBhEGDheGBABD",
    "BOBJHhaFJGDBHCBCVBGBBBEBJCBCCCAGAFGCGDELJBACABhFBJBACABDBHNBdiKFJEDeiFBAIJlGhVCIXFhCiADA",
    "LJhGhYHJGTcaCOEJGGlZhajFiJVHCACHBBBdBBCIMJiGHChNCHBBbheIAIiJDASiImHhAPJGIBhMBIPJYdCVBNiJ",
    "GBBBhLDABBBIIJGFBBBhEBBBFHJpWWJQBhIDENKiVAiP8ZjGjORmDiyMjAPhhPQVKj8aFyGm1ZhZh2GxYHeBJGiO",
    "BJGdCELhWJDMJJUFStQhMDJmGhfkAiKEhYHQiABBBLBOl-XIhmVhJJo3HDBGBBBpCPAdCCAODIsLioEjKFMDIHJD",
    "BkiRJwGhNCWweEDFIHCGeDkUCtbiUBiGBBCACBCDBLBABGBiABDCHBGBbBDBEBADGBqTCYBYBeBYBeBYBeBYBeBY",
    "BHChRwAhWEhRIAOAWEBOhiQeGFmVGBQCGBBBEFhdhBAjQhMDNCJEAqBeRhZuWhJmWhKvFGBDBBBOBmELGhJiLEJh",
    "lGDBaBBBACABJBDBABAGAEABABABCBBBACABABABABABBBACDBGBDBDBABJBQFCBEBQjpUJhgGhp2fhAkhZGmdCl",
    "0BOnpQPzNitCwdhvCk6KFkif13qQnP"]),
  ("ID_Start",
    String.join ["iBZGZhPAKAEAFWBeBuJELOEHABAkBEBBCDBAGABCBABTBiSBkKIlFBhFCAGhIiHaEDhNhKhDBBjCBAPBHBKCCAQA",
    "BddiYLAYhAJBEAFVEAJADAXYHKFXBFRhJhahVDASAHJPPEHCBCVBGBADDDAQANBBCOBKAIFEBCVBGBBBBBBfDBAT",
    "CQIBCBVBGBBBEDASAPBXALHCBCVBGBBBEDAeBBCPARABFDCBDDBBABBDBDCDLWAhUHBCBWBPDAaCCACBeAEHBCBW",
    "BJBEDAfBBBPBRIBCBhICAQAFCICYFFRDXBIBACGhahPBBMGhaBBABEBXBABJBBJACEBAVDhAAhfHBhDbEjThKUAQ",
    "FEDDADBHCEMMARhFBAFAChKBqMBDCGBABDChIBDChABDCGBABDCOBhYBDCiChFPQiVCFDzLCQBZFiKDKHRNSOROM",
    "BCPhThDAEAiDiYHhIBAFiFKehRdCELhLEZhWWJhUiSAidhORHhWdNBKhLahDhJCKhDCKFhKCChJDBFBBDAFlfiAo",
    "VCFChFCFCHBABABABeChUBGBADCBGDDCFEMFCBGjUANAQMjFAEACJBACFGABABABPCDFEEARhIizXnEGDDBMhFBA",
    "FAChXHAQWJGBGBGBGBGBGBGBGxGCZIHECEEiVEEBiZBDFhKBidRfhQPwAmtfiA10MiDhNCoMDPKBUhOQeCiPhHIC",
    "jGCiCCBBABHVPBCBDBWdhTOhRheFDABBLbKWZcHhOcAQEBJKEBhIXCBHUWDADhRBADBCECABAYCCKHCMFCFCFJGB",
    "GBhKBNGjSdq9DMWEhQooErNCjJhGGMEFABJBMBEBABBBBBjLhBrKShfChVhILjUEBkGhEZGZLiYDFCFCFCChDLBZ",
    "BSBBBOCNhCjaiFhUoLcDhQhPfNdFhFKdChDEHBEhKkdShDEhDEhHIhTMKBOBGBBBKBOBGBBDhTMpWJVKHYFBhJBI",
    "iFFCABhLBBDACWKWJeiBSBBKVKZiGhXGBiAAPDBCBchKcDchDHBbbhVKVKSNRjOiIhXhSNhSNhDhGbJWnahJGBQC",
    "hbcKAIVhKRhOUbWMhUhZBCANhMhAYahDdACAIhCDAMhPODVABAhDRBYTBhfGBABDBOBJHhOhGHCBCVBGBBBEDASA",
    "MEeJBACABhFBAZABAhMhUSDUCehPUBBAlYhOhJDhEhPUAhbhKNAiHahFGlZhLjUhffHCACHBBBXPABAieHChGQAB",
    "AcAKhHHAVALhNTASiImHhAfIBhERAhRdjQGBBBhFVAZFBBBfOAqHSPABMBhBjcAiP8ZjGjORmDiyMjAPhhPRFZj8",
    "aFyGm1Zdh3CxYHeRiORdShPQDfUFStQhMmThfkAiKFAiCMiABBAcl-XIhmVhJJo3HDBGBBBpCPAdCCAODIsLioEj",
    "KFMDIHJl7GiUBiGBBCACBCDBLBABGBiABDCHBGBbBDBEBADGBqTCYBYBeBYBeBYBeBYBeBYBHh5UeGFoFhdkShMK",
    "GQAqBdShLvEbnEdCAvPGBDBBBOBmEhbiDHAhlUDBaBBBACABJBDBABAGAEABABABCBBBACABABABABABBBACDBGB",
    "DBDBABJBQFCBEBQkqEhp2fhAkhZGmdCl0BOnpQPzNitCwdhvCk6KFkif"]),
  ("Ideographic",
    "sgGBZIOC+FmtfiA0vf2oArNCjJ9oKAbl-XIhmVhJJpjHsLzoEhp2fhAkhZGmdCl0BOnpQPzNitCwdhvCk6KFkif"),
  ("Join_Control",
    "ogMB"),
  ("Logical_Order_Exception",
    "jyAEjbEi3QCCAhknaBCABB"),
  ("Lowercase",
    String.join ["jBZhPAKAEAhEXBHBABABABABABABABABABABABABABABABABABABABABABABABABABABABBBABABABABABABABBB",
    "ABABABABABABABABABABABABABABABABABABABABABABACABABCCABACADBEACADCCACABABACABBBACADABACBC",
    "CGACACABABABABABABABABBBABABABABABABABABBCABADABABABABABABABABABABABABABABABABABABABABAB",
    "ABABABABABABABABGCACBBAEABABABABiEBhDHBeEjAAhLABADACDSAbhCBBDCBABABABABABABABABABABABEBA",
    "CACBhThPBABABABABABABABABABABABABABABABABAJABABABABABABABABABABABABABABABABABABABABABABA",
    "BABABABACABABABABABABBBABABABABABABABABABABABABABABABABABABABABABABABABABABABABABABABABA",
    "BABABABABABABABABABABABABABABAhQhIi6HhKBD3YFikCIBAjVlfiBABABABABABABABABABABABABABABABAB",
    "ABABABABABABABABABABABABABABABABABABABABABABABABABABABABABABABABABABABABABABABABABABABAB",
    "ABABABABABABABABABABABABABABIBABABABABABABABABABABABABABABABABABABABABABABABABABABABABAB",
    "ABABABABABABABABABABABABABABABABABABABIIFKHIHIFKHIHINCHIHIHIEBBGADCBBIDCBIHKCBBjZANAQMjN",
    "ADBDAbAEAEACBIDEAhBPEA6LZh6GhPBADBBABABAEABBBHDABABABABABABABABABABABABABABABABABABABABA",
    "BABABABABABABABABABABABABABABABABABABABABABABABABABABABABBHABAEAMhFBAFA+oTABABABABABABAB",
    "ABABABABABABABABABABABABABABABATABABABABABABABABABABABABABCkFABABABABABABCBABABABABABABA",
    "BABABABABABABABABABABABABABABABABABABABABABABABJBABACABABABABAEABACABCBABABABABABABABABA",
    "BAFAFABABABABABABABAEABACADABABABABABAWCBABC5VhKBNGiPz6AGMEhhJZhmNhHkIhDkbKBOBGBBuDACCBh",
    "JBIhoFhSjdVi5af1sAf5saZaGBRaZaDBABGBKaZaZaZaZaZaZaZaZabcYBFaYBFaYBFaYBFaYBFBAh5UJBTGFoFh",
    "dilUhB"]),
  ("Math",
    String.join ["hLAQCfAdABAhNAEAhFAfA2YCCAaBCCwPCmwNAbCLADANAODVELEiBMEADBEESAEACJBACFGADBCBBCBFDNBAiEXB",
    "FBBEBEfBAGBOoLIDUBiaAeaBAYALGtdBMJEFEBCBDEOABACFLHFBhZABAdDJCqQhfoAvfhQUCFhz+cA5XFBAlCAQ",
    "CdABAdABAkDAGDjtBBhxzQiUBiGBBCACBCDBLBABGBiABDCHBGBbBDBEBADGBqTCpDChRlwADBaBBBACABJBDBAB",
    "AGAEABABABCBBBACABABABABABBBACDBGBDBDBABJBQFCBEBQhUB"]),
  ("Modifier_Combining_Mark",
    "hyUBCAkDAGADBvBBBCDAfA"),
  ("Noncharacter_Code_Point",
    "h-uQfwOBh--eBh--eBh--eBh--eBh--eBh--eBh--eBh--eBh--eBh--eBh--eBh--eBh--eBh--eBh--eBh--eB"),
  ("Other_Alphabetic",
    String.join ["6FAdMyANBABBBBBAiIKhQMBGQAjFGEDCBEAhDAePjGKjFBDIBCBDjKAhcLDGGThWBCOBBFCKBdChaGCBCBKAKBdC",
    "haEEBCBEAeBDALChaHBCBBVBWCEChaGCBCBJBKBeAhbEDCBCKAhIEhZGBCBCIBLBdChaGBCBCIBLBPAMDhaGBCBC",
    "KAKBdCiLFBABHSBhdACGSAjDACFBBQAlDSJKBhDjOLBACDXDECBCCGDDNLBAKDhzUBeBeBeBiCSlcBhCAjWLEIme",
    "EhZJCTiKBLChREhQOhcCeICBhZKhSSschBh2BhTinWf+jUHhCBrCAIAXEiYBhSPBAhZAhGEcLhNDhQLhFAiDNMAI",
    "BhNChSABCCBFAhMEFAnNHz5TAiiXEh0GCBBFD4UDiBAqBBiPAoDChVNhNBLChNIJAhdChELSBhZChQMOBicICAGA",
    "CAkdJXDhaGCBCBKAKBiUIBACABDBBjHMBCjKRnNGCGdBiSOBAjKKjHNoBMnXFBBCBDABAkOGCFEAcJhKEBDSKhON",
    "sXHBGiTVBNjaFDABBBCBADAiCEBBBDqcDJBBAhQGDCwudQjxAABhWHDidBzlMAo7BGBQCGBBBEjEAilXAh-IZGZG",
    "Z"]),
  ("Other_Default_Ignorable_Code_Point",
    "6PAjwPBhyTBilPAkneAhzxbAiPI6ggHABdjAjfnQjwP"),
  ("Other_Grapheme_Extend",
    String.join ["iteAYArGAYAjGAYAnIABAEBBBJBjHAYAjXAPAipVAeAhgAAFABAFBjFAiHBhgYAkhBB+pDAjMA1udBkxAAjUAoIA",
    "OAJAjAAJACABCFAnAAMAnRAoGAzZAMAhwDA0lOB4rTBGF4r1Nif"]),
  ("Other_ID_Continue",
    "lXA2PAj-BIhzIAhxRBknNAhzzJA"),
  ("Other_ID_Start",
    "mkFBikRAVAj7MB"),
  ("Other_Lowercase",
    "lKAPAvVIHBeEjAAhUAjsBAjhPheNAhChE1RANAQMmTP6QZh8SB+weBmSAkBCDB7CDJA3gWACCBhJBIh2jVhd"),
  ("Other_Math",
    String.join ["ieA7RCCAaBCBnhAAbCLAhADYBOBiBMEADBEESAEACJBADEGADBCBBCBFDDFEiLECDBBBBBABECBEBERCBBABGBAG",
    "BpCDlIBBAYARAtdBMIFEFBCBDEOABACFYBhZABAdDJBqWBfJsTVhfDhABh1jDABAEAmTABAh1mBiUBiGBBCACBCD",
    "BLBABGBiABDCHBGBbBDBEBADGBqTCYBYBeBYBeBYBeBYBeBYBHChRlwADBaBBBACABJBDBABAGAEABABABCBBBAC",
    "ABABABABABBBACDBGBDBDBABJBQFCBEBQ"]),
  ("Other_Uppercase",
    "orAP6GZjzjAZGZGZ"),
  ("Pattern_Syntax",
    "hBOKGaDBAaDhCGBABBBABBEAEADAXAfAn4YXIOCSBJpR2PlAzVehjLwAjfsBCEYPAhzoNBoFB"),
  ("Pattern_White_Space",
    "JESAjEAn8IBYB"),
  ("Prepended_Concatenation_Mark",
    "hwAFmXAhRAsABiQAih+aAPA"),
  ("Quotation_Mark",
    "hCAEAkDAPAn6cHZBjwHAuJDNChzxBDldAEAiaB"),
  ("Radical",
    "r0AZBiYMmV"),
  ("Regional_Indicator",
    "j8vGZ"),
  ("Sentence_Terminal",
    String.join ["hBAMAQAhqJAkTClUAhLCnWAhdABADBpFBh3EB4WAEB4FAmGBkdBhNAFApaBrCDlCBKBCBdClbBiBB9EAXBJCjlPC",
    "pSANAWBtNA9ncAoOBnDADAreBiWBifAkYBkTCkQBnZA0xGACBhbADBlJAMAQAiBAi3UBhndEhMDldBjVDjfCkBBG",
    "AQBiYBBBjMApKBjVBrVBFOjJBnZCwFABAnbBiXBtEB1UBiKBy5JBkFAiBBLAxJBpIAzwGAnvIA"]),
  ("Soft_Dotted",
    String.join ["jJBmEAoZAeAhUAUAqAAjCABAmoJAhTANADAkEAkdAtFAmWBi5SAjp9FBhSBhSBhSBhSBhSBhSBhSBhSBhSBhSBhS",
    "BhSBikGApRBaA"]),
  ("Terminal_Punctuation",
    String.join ["hBAKABALBDA5eAIAwBAhZAiIAOABClUAhLKBAnLBhWFBHfAoFBhnUBlMAEFpXB4VH4FAjcCiHBkdCDAhHDCBpaBr",
    "CDlCBKBBCdClbEheB9EAXBJCjlPCpSANAEAKABBDBtMB9nbBoNCnDEreBiWBifAkXCkTCjfAQBnZA0xGACBhZCBD",
    "lJAKABALBDAiBACAhhaAhQAhkGAmHApWBkYFiEFiZD9YEhMDldGjQDjfCkBBGAQBiYEjMApKBjVCMBrGDDOjJBnZ",
    "CwFABAnbBiXBEBseChNA0FBiKBhpLExvZBkFAiBCKAxJBpHBzwGAnvHD"]),
  ("Unified_Ideograph",
    "tgAmtfiA0vf2wOBBABBKABABBCCihuWhp2fhAkhZGmdCl0BOnpQPzNktCk6KFkif"),
  ("Uppercase",
    String.join ["iBZjFWBGhBABABABABABABABABABABABABABABABABABABABABABABABABABABABACABABABABABABABACABABAB",
    "ABABABABABABABABABABABABABABABABABABABABBBABADBBABBBCCDBBBCDBBBBABABBBACABBBCBABBDAHACAC",
    "ACABABABABABABABACABABABABABABABABACACABCBABABABABABABABABABABABABABABABABABABABABABABAB",
    "ABABABABABAHBBBCABDBABABABApBABADAIAGABCBABBBQBIhDACCDABABABABABABABABABABABAFACABBChShQ",
    "ABABABABABABABABABABABABABABABABAJABABABABABABABABABABABABABABABABABABABABABABABABABABAB",
    "BBABABABABABACABABABABABABABABABABABABABABABABABABABABABABABABABABABABABABABABABABABABAB",
    "ABABABABABABABABABABAChFi6JhFBAFA2SiVikTAGhKCCqAABABABABABABABABABABABABABABABABABABABAB",
    "ABABABABABABABABABABABABABABABABABABABABABABABABABABABABABABABABABABABABABABABABABABABAB",
    "ABABABABABABABABABABAJABABABABABABABABABABABABABABABABABABABABABABABABABABABABABABABABAB",
    "ABABABABABABABABABABABABABABABAJHIFKHIHIFLABABABAIHiIDMDMDMELDoGAEADCCCCADEGABABABDCDKBF",
    "AaPTA5SZh5QhPhQABCCABABABDBACAICBABABABABABABABABABABABABABABABABABABABABABABABABABABABA",
    "BABABABABABABABABABABABABABABABABABABABABAIABAEA+qNABABABABABABABABABABABABABABABABABABA",
    "BABABABATABABABABABABABABABABABABABAkHABABABABABABADABABABABABABABABABABABABABABABABABAB",
    "ABABABABABABABABABABABABAKABABBBABABABAEABACABADABABABABABABABABABABEBEBABABABABABABABDB",
    "ABBDAFABABABAYA15LZhmFhHkIhDkcKBOBGBBh3KhSkdVi5af1sAf5tAZaZaZaABBCACBCDBHaZaBBDCHBGbBBDB",
    "EBADGbZaZaZaZaZaZeYhBYhBYhBYhBYhBAkpVhBigOZGZGZ"]),
  ("Variation_Selector",
    "mgLCBAh5vQP6g3QnP"),
  ("White_Space",
    "JESAjEAaAlufAirfKdBFAhPAj9AA"),
  ("XID_Continue",
    String.join ["hQJHZEABZhPAKABACAFWBeBuJELOEHABARjUBBDCBAGEBABTBiSBkKBEClFBhFCAGhIIhMBABBBBBAIaEDdKFiJE",
    "jFBHCJBSCAQhaCjEOhVEACAChNSbEKFXBFIiKBkACJBSBHCBCVBGBADDCICBCDIAEBBECLKABACCBFEBCVBGBBBB",
    "BBCABEEBCCDAHDBAHPLCBIBCBVBGBBBECJBCBCCAPDCJJGBCBHCBCVBGBBBECICBCCHCEBBECJBAQBBFDCBDDBBA",
    "BBDBDCDLEEDCBDCAGAOJQMBCBWBPCIBCBDHBBCCACDCJQDBHBCBWBJBECIBCBDHBGBBDCJBCMMBCBhSBCBEFDHEC",
    "JKFBCBRDXBIBACGDAEFBABHGJCBNhZFOBJhHBBABEBXBABWCEBABGBJCDhAAXBGJLABABAEJBhDETBRBhDJAhZiJ",
    "GiNChFBAFAChKBqMBDCGBABDChIBDChABDCGBABDCOBhYBDCiCCCJIOPQiVCFDzLCQBZFiKDKHVJVLTMMBCBBMiT",
    "DAEBCJhBCBKGiYHhKFiFKeBLELKhHCELhLEZGKhFbEheBcCKGJNAINBPhRiMDJRIMjTMhXIJDhQCKFhKCCQCBhGF",
    "wVCFChFCFCHBABABABeChUBGBADCBGDDCFEMFCBGPBhRBTAcANAQMhTMEADLRAEACJBACFGABABABPCDFEEARhIi",
    "zXnEGIMhFBAFAChXHAPXJGBGBGBGBGBGBGBGBfwFCZOBECEEiVCBCCBieFhKBidRfhQPwAmtfiA10MiDhNCoMDbU",
    "hPEJBjShFICjGCiCCBBABHVhVEAThTMiFKJGXDABhQChDMcDiAOKGeBhWJNCJGWDiIYCCPCEKFCFCFJGBGBhKBNG",
    "jaBBCJGq9DMWEhQooErNCjJhGGMEFLBMBEBABBBBBjLhBkKGmZShfChVhIJGPQPDBYChBABADABABABABjdTJHZE",
    "ABZKiZDFCFCFCChDLBZBSBBBOCNhCjaiFhUkIAkCcDhQPAffNdFhKFdChDEHBEhKkdCJGhDEhDEhHIhTMKBOBGBB",
    "BKBOBGBBDhTMpWJVKHYFBhJBIiFFCABhLBBDACWKWJeiBSBBKVKZiGhXGBiADBBFHBCBcCCEAhAcDchDHBdZhVKV",
    "KSNRjOiIhXhSNhSNhHIJGhFDEBWnahJBBDBQChXhAKAIhAfVhKUbWJiGfPJhbHANYHJGhUBJEDIhDCAJiEEDBMBA",
    "hDRBhEGDheGBABDBOBJHhaFJGDBHCBCVBGBBBEBJCBCCCAGAFGCGDELJBACABhFBJBACABDBHNBdiKFJEDeiFBAI",
    "JlGhVCIXFhCiADALJhGhYHJGTcaCOEJGGlZhajFiJVHCACHBBBdBBCIMJiGHChNCHBBbheIAIiJDASiImHhAPJGI",
    "BhMBIPJYdCVBNiJGBBBhLDABBBIIJGFBBBhEBBBFHJpWWJQBhIDENKiVAiP8ZjGjORmDiyMjAPhhPQVKj8aFyGm1",
    "ZhZh2GxYHeBJGiOBJGdCELhWJDMJJUFStQhMDJmGhfkAiKEhYHQiABBBLBOl-XIhmVhJJo3HDBGBBBpCPAdCCAOD",
    "IsLioEjKFMDIHJDBkiRJwGhNCWweEDFIHCGeDkUCtbiUBiGBBCACBCDBLBABGBiABDCHBGBbBDBEBADGBqTCYBYB",
    "eBYBeBYBeBYBeBYBHChRwAhWEhRIAOAWEBOhiQeGFmVGBQCGBBBEFhdhBAjQhMDNCJEAqBeRhZuWhJmWhKvFGBDB",
    "BBOBmELGhJiLEJhlGDBaBBBACABJBDBABAGAEABABABCBBBACABABABABABBBACDBGBDBDBABJBQFCBEBQjpUJhg",
    "Ghp2fhAkhZGmdCl0BOnpQPzNitCwdhvCk6KFkif13qQnP"]),
  ("XID_Start",
    String.join ["iBZGZhPAKAEAFWBeBuJELOEHABAkBEBBDCBAGABCBABTBiSBkKIlFBhFCAGhIiHaEDhNhKhDBBjCBAPBHBKCCAQA",
    "BddiYLAYhAJBEAFVEAJADAXYHKFXBFRhJhahVDASAHJPPEHCBCVBGBADDDAQANBBCOBKAIFEBCVBGBBBBBBfDBAT",
    "CQIBCBVBGBBBEDASAPBXALHCBCVBGBBBEDAeBBCPARABFDCBDDBBABBDBDCDLWAhUHBCBWBPDAaCCACBeAEHBCBW",
    "BJBEDAfBBBPBRIBCBhICAQAFCICYFFRDXBIBACGhahPBANGhaBBABEBXBABJBAKACEBAVDhAAhfHBhDbEjThKUAQ",
    "FEDDADBHCEMMARhFBAFAChKBqMBDCGBABDChIBDChABDCGBABDCOBhYBDCiChFPQiVCFDzLCQBZFiKDKHRNSOROM",
    "BCPhThDAEAiDiYHhIBAFiFKehRdCELhLEZhWWJhUiSAidhORHhWdNBKhLahDhJCKhDCKFhKCChJDBFBBDAFlfiAo",
    "VCFChFCFCHBABABABeChUBGBADCBGDDCFEMFCBGjUANAQMjFAEACJBACFGABABABPCDFEEARhIizXnEGDDBMhFBA",
    "FAChXHAQWJGBGBGBGBGBGBGBGxGCZIHECEEiVGCBiZBDFhKBidRfhQPwAmtfiA10MiDhNCoMDPKBUhOQeCiPhHIC",
    "jGCiCCBBABHVPBCBDBWdhTOhRheFDABBLbKWZcHhOcAQEBJKEBhIXCBHUWDADhRBADBCECABAYCCKHCMFCFCFJGB",
    "GBhKBNGjSdq9DMWEhQooErNCjJhGGMEFABJBMBEBABBBBBjLhBkKGmZShfChVhIJjXABADABABABABjdhEZGZLhX",
    "CeDFCFCFCChDLBZBSBBBOCNhCjaiFhUoLcDhQhPfNdFhFKdChDEHBEhKkdShDEhDEhHIhTMKBOBGBBBKBOBGBBDh",
    "TMpWJVKHYFBhJBIiFFCABhLBBDACWKWJeiBSBBKVKZiGhXGBiAAPDBCBchKcDchDHBbbhVKVKSNRjOiIhXhSNhSN",
    "hDhGbJWnahJGBQChbcKAIVhKRhOUbWMhUhZBCANhMhAYahDdACAIhCDAMhPODVABAhDRBYTBhfGBABDBOBJHhOhG",
    "HCBCVBGBBBEDASAMEeJBACABhFBAZABAhMhUSDUCehPUBBAlYhOhJDhEhPUAhbhKNAiHahFGlZhLjUhffHCACHBB",
    "BXPABAieHChGQABAcAKhHHAVALhNTASiImHhAfIBhERAhRdjQGBBBhFVAZFBBBfOAqHSPABMBhBjcAiP8ZjGjORm",
    "DiyMjAPhhPRFZj8aFyGm1Zdh3CxYHeRiORdShPQDfUFStQhMmThfkAiKFAiCMiABBAcl-XIhmVhJJo3HDBGBBBpC",
    "PAdCCAODIsLioEjKFMDIHJl7GiUBiGBBCACBCDBLBABGBiABDCHBGBbBDBEBADGBqTCYBYBeBYBeBYBeBYBeBYBH",
    "h5UeGFoFhdkShMKGQAqBdShLvEbnEdCAvPGBDBBBOBmEhbiDHAhlUDBaBBBACABJBDBABAGAEABABABCBBBACABA",
    "BABABABBBACDBGBDBDBABJBQFCBEBQkqEhp2fhAkhZGmdCl0BOnpQPzNitCwdhvCk6KFkif"])]

/-- Letters, marks, decimal digits, connectors and joiners: the characters a word is made of. -/
def wordData : String :=
  String.join ["hQJHZEABZhPAKAEAFWBeBuJELOEHABARjUBBCDBAGABCBABTBiSBkKBlMBhFCAGhIIhMBABBBBBAIaEDdKFiJEjF",
    "BHCJBSCAQhaCjEOhVEACAChNSbEKFXBFIiKBkACJBSBHCBCVBGBADDCICBCDIAEBBECLKABACCBFEBCVBGBBBBBB",
    "CABEEBCCDAHDBAHPLCBIBCBVBGBBBECJBCBCCAPDCJJGBCBHCBCVBGBBBECICBCCHCEBBECJBAQBBFDCBDDBBABB",
    "DBDCDLEEDCBDCAGAOJQMBCBWBPCIBCBDHBBCCACDCJQDBHBCBWBJBECIBCBDHBGBBDCJBCMMBCBhSBCBEFDHECJK",
    "FBCBRDXBIBACGDAEFBABHGJCBNhZFOBJhHBBABEBXBABWCEBABGBJCDhAAXBGJLABABAEJBhDETBRBhDJAhZiJGi",
    "NChFBAFAChKBqMBDCGBABDChIBDChABDCGBABDCOBhYBDCiCCChAPQiVCFDzLCQBZFiKDKHVJVLTMMBCBBMiTDAE",
    "BCJhBCBKGiYHhKFiFKeBLELKhHCELhLEZGJhGbEheBcCKGJNAIehRiMDJRIMjTMhXIJDhQCKFhKCCQCBhGFwVCFC",
    "hFCFCHBABABABeChUBGBADCBGDDCFEMFCBGPBhRBTAcANAQMhThARAEACJBADEGABABABDBKCDFEEARhI5NhTh4W",
    "nEGIMhFBAFAChXHAPXJGBGBGBGBGBGBGBGBfhPAuVCZOBECEEiVCBCCBiZBDFhKBidRfhQPwAmtfiA10MiDhNCoM",
    "DbUhSBJBjShFICjGCiCCBBABHVhVEAThTMiFKJGXDABhQChDMcDiAOKGeBhWJNCJGWDiIYCCPCEKFCFCFJGBGBhK",
    "BNGjaBBCJGq9DMWEhQooErNCjJhGGMEFLBMBEBABBBBBjLhBrKShfChVhILEPQPDBYChAEBkGTJHZEABZLiYDFCF",
    "CFCChDLBZBSBBBOCNhCjaiFhUkIAkCcDhQPAffNdFhKFdChDEHBEhKkdCJGhDEhDEhHIhTMKBOBGBBBKBOBGBBDh",
    "TMpWJVKHYFBhJBIiFFCABhLBBDACWKWJeiBSBBKVKZiGhXGBiADBBFHBCBcCCEAhAcDchDHBdZhVKVKSNRjOiIhX",
    "hSNhSNhHIJGhFDEBWnahJBBDBQChXhAKAIhAfVhKUbWJiGfPJhbHANYHJGhUBJEDIhDCAJiEEDBMBAhDRBhEGDhe",
    "GBABDBOBJHhaFJGDBHCBCVBGBBBEBJCBCCCAGAFGCGDELJBACABhFBJBACABDBHNBdiKFJEDeiFBAIJlGhVCIXFh",
    "CiADALJhGhYHJGTcaCOEJGGlZhajFiJVHCACHBBBdBBCIMJiGHChNCHBBbheIAIiJDASiImHhAPJGIBhMBIPJYdC",
    "VBNiJGBBBhLDABBBIIJGFBBBhEBBBFHJpWWJQBhIDENKiVAiP8ZjGjORmDiyMjAPhhPQVKj8aFyGm1ZhZh2GxYHe",
    "BJGiOBJGdCELhWJDMJJUFStQhMDJmGhfkAiKEhYHQiABBBLBOl-XIhmVhJJo3HDBGBBBpCPAdCCAODIsLioEjKFM",
    "DIHJDBkiRJwGhNCWweEDFIHCGeDkUCtbiUBiGBBCACBCDBLBABGBiABDCHBGBbBDBEBADGBqTCYBYBeBYBeBYBeB",
    "YBeBYBHChRwAhWEhRIAOAWEBOhiQeGFmVGBQCGBBBEFhdhBAjQhMDNCJEAqBeRhZuWhJmWhKvFGBDBBBOBmELGhJ",
    "iLEJhlGDBaBBBACABJBDBABAGAEABABABCBBBACABABABABABBBACDBGBDBDBABJBQFCBEBQzUZGZGZizGJhgGhp",
    "2fhAkhZGmdCl0BOnpQPzNitCwdhvCk6KFkif13qQnP"]

end LogPipeline.Unicode
