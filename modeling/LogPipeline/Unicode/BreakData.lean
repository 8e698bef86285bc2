/-!
# Boundaries

How characters behave at the boundaries of what is seen as one character, of words and of sentences in
Unicode 16: the ranges of code points of each behaviour, in packed form.
-/

namespace LogPipeline.Unicode

/-- Each behaviour at the boundary of what is seen as one character. -/
def graphemeBreakData : List (List String × String) := [
  (["cr"],
    "NA"),
  (["lf"],
    "KA"),
  (["control", "cn"],
    "AJBBBRifhANAhrOAkvRAh-cACBYGhRPh30PAnQLthUPhijADlmPH4r0FfjAjfnQjwP"),
  (["extend", "ex"],
    String.join ["4AjPoTGoHhMBABBBBBAiIKhQUQAjFGCFCBBDhDAeaibKhaIJAYDBIBCBEhLChbIhKXBfhXABAEHEADGKBdAhaABA",
    "CDIAJAKBaACBhZAEBEBCCDAeBDALBhZAEEBBEAUBWFBAhaABBBDIAHCKBeAhbABAMAJAhIADAhXABCFCBDHBLBdA",
    "haACBBADCBDHBLBcBhZBBACDIAJAKBdAiIAEACCBAIAiRACGMHjCACILGiJBbABABAhXNBEBBFKBhDJAjGDBFBBC",
    "BZBECQDNACBGAPA1fC9SDcCdBeBiABBGIACKJAhNCBAjVBhCAjWCEBJAGCmbBCAhaABGBABACHGJCAhQehRDhQJE",
    "ChGIMBhADCFhYABBDABEhYHCBkYCBMBGEAGADBmGhfwMAmDhAi-eCkNAjAfxKFjJB9uUDBJhABiQBoQADAEAZBFA",
    "kXBaRNAhGHZKBAhMChQACDCBCAhEAiDFCBCBMAIAhPAhTABCCBFBBAhKBIAnOACAEAz5QA3BPQPrOBydAnCAkVEh",
    "0GCBBFDhICEAlFBxdDiBEpdBiPDiGKhRDjbAhWOhJACBKChRDCBHAhdChEEBHheAMBhUIBAIDCAifCCDGACAkdAD",
    "HVBhZBBABAMAJAOGDEiDACFBACABCECBAOBiVHCCBAXAiRACFBACABBBBnLACDGBBBbBiVHCABBjKABACHjFABAC",
    "DBEoDIBBnVAKDEAkQDCBEAhAJhIFCDIAJFCChOMBBsWGBFBAiSVCGBBBBjaFDABBBGBAiIBDABAqbBLBhUEFCXAl",
    "nFAGOrmILDCiuAEhbGhgYAhfDiRALBzlLBkzBhNCWweEDFIHCGeDkUCh9bhWEhRIAOAWEBOhqQGBQCGBBBEjEAlA",
    "GrXAhdDvcDneB3AGjNGi1QE4jhAifkAnP"]),
  (["zwj"],
    "ogNA"),
  (["regionalindicator", "ri"],
    "j8vGZ"),
  (["prepend", "pp"],
    "hwAFmXAhRAsABiQAhjLAig7OAPAnUBwNAhrNABAnYAiJF1cAtbA"),
  (["spacingmark", "sm"],
    String.join ["ioDAhXACCIDBBhSBhbBGBCBhWAhaCiCAhaCIABBhVBhcAGBCBjSABBDCBChUChdDhdBhaACABBhOAOBhbBFCBChV",
    "BiMBGGTBhfAjfAkKBhfAlRAJBZBhMAh5RAHHBBqaDCCEBBFnABhaABAVFkRAhZDiAAeAEBhfACCBAhVHIBlLAVAh",
    "i5LBCAiYBhSPkOAhQAhQBEBCBjPBCBYAkdACBFAnNBBBBBBA5gTABAjfAhNCEBjTAYBhbAhQCJAOAidCDBlMCfBh",
    "bABDCBCBVBiVBPABBjHCIBDAjLBGABBBACAnOBGDCAjRCIBBAjNABBjOAHAoFCJAnYEBBHABAkOCIDEAiUAdBheA",
    "sXAOAjKAHACAmVEEBBAqeBMAhQBIBwvKCjxEhW"]),
  (["l"],
    "koAifhmgAc"),
  (["v"],
    "krAiHhxwIWhlscADD"),
  (["t"],
    "ktIiXhxuLhQ"),
  (["lv"],
    String.join ["hrgAAbAbAbAbAbAbAbAbAbAbAbAbAbAbAbAbAbAbAbAbAbAbAbAbAbAbAbAbAbAbAbAbAbAbAbAbAbAbAbAbAbAb",
    "AbAbAbAbAbAbAbAbAbAbAbAbAbAbAbAbAbAbAbAbAbAbAbAbAbAbAbAbAbAbAbAbAbAbAbAbAbAbAbAbAbAbAbAb",
    "AbAbAbAbAbAbAbAbAbAbAbAbAbAbAbAbAbAbAbAbAbAbAbAbAbAbAbAbAbAbAbAbAbAbAbAbAbAbAbAbAbAbAbAb",
    "AbAbAbAbAbAbAbAbAbAbAbAbAbAbAbAbAbAbAbAbAbAbAbAbAbAbAbAbAbAbAbAbAbAbAbAbAbAbAbAbAbAbAbAb",
    "AbAbAbAbAbAbAbAbAbAbAbAbAbAbAbAbAbAbAbAbAbAbAbAbAbAbAbAbAbAbAbAbAbAbAbAbAbAbAbAbAbAbAbAb",
    "AbAbAbAbAbAbAbAbAbAbAbAbAbAbAbAbAbAbAbAbAbAbAbAbAbAbAbAbAbAbAbAbAbAbAbAbAbAbAbAbAbAbAbAb",
    "AbAbAbAbAbAbAbAbAbAbAbAbAbAbAbAbAbAbAbAbAbAbAbAbAbAbAbAbAbAbAbAbAbAbAbAbAbAbAbAbAbAbAbAb",
    "AbAbAbAbAbAbAbAbAbAbAbAbAbAbAbAbAbAbAbAbAbAbAbAbAbAbAbAbAbAbAbAbAbAbAbAbAbAbAbAbAbAbAbAb",
    "AbAbAbAbAbAbAbAbAbAbAbAbAbAbAbAbAbAbAbAbAbAbAbAbAbAbAbAbAbAbAbAbAbAbAbAbAbAbAbAbAbAbAbAb",
    "AbAbAbAbA"]),
  (["lvt"],
    String.join ["hrgBaBaBaBaBaBaBaBaBaBaBaBaBaBaBaBaBaBaBaBaBaBaBaBaBaBaBaBaBaBaBaBaBaBaBaBaBaBaBaBaBaBaB",
    "aBaBaBaBaBaBaBaBaBaBaBaBaBaBaBaBaBaBaBaBaBaBaBaBaBaBaBaBaBaBaBaBaBaBaBaBaBaBaBaBaBaBaBaB",
    "aBaBaBaBaBaBaBaBaBaBaBaBaBaBaBaBaBaBaBaBaBaBaBaBaBaBaBaBaBaBaBaBaBaBaBaBaBaBaBaBaBaBaBaB",
    "aBaBaBaBaBaBaBaBaBaBaBaBaBaBaBaBaBaBaBaBaBaBaBaBaBaBaBaBaBaBaBaBaBaBaBaBaBaBaBaBaBaBaBaB",
    "aBaBaBaBaBaBaBaBaBaBaBaBaBaBaBaBaBaBaBaBaBaBaBaBaBaBaBaBaBaBaBaBaBaBaBaBaBaBaBaBaBaBaBaB",
    "aBaBaBaBaBaBaBaBaBaBaBaBaBaBaBaBaBaBaBaBaBaBaBaBaBaBaBaBaBaBaBaBaBaBaBaBaBaBaBaBaBaBaBaB",
    "aBaBaBaBaBaBaBaBaBaBaBaBaBaBaBaBaBaBaBaBaBaBaBaBaBaBaBaBaBaBaBaBaBaBaBaBaBaBaBaBaBaBaBaB",
    "aBaBaBaBaBaBaBaBaBaBaBaBaBaBaBaBaBaBaBaBaBaBaBaBaBaBaBaBaBaBaBaBaBaBaBaBaBaBaBaBaBaBaBaB",
    "aBaBaBaBaBaBaBaBaBaBaBaBaBaBaBaBaBaBaBaBaBaBaBaBaBaBaBaBaBaBaBaBaBaBaBaBaBaBaBaBaBaBaBaB",
    "aBaBaBaBa"])]

/-- Each behaviour at the boundary of a word. -/
def wordBreakData : List (List String × String) := [
  (["cr"],
    "NA"),
  (["lf"],
    "KA"),
  (["newline", "nl"],
    "LBjYAn9CB"),
  (["extend"],
    String.join ["4AjPoTGoHhMBABBBBBAiIKhQUQAjFGCFCBBDhDAeaibKhaIJAYDBIBCBEhLChbIhKXBhAhWCBRBGKBdChYABGCBC",
    "CJAKBaACChYABEEBCCDAeBDALChYABHBCBCUBWFBChYABGCBCCHCKBeAhbEDCBDJAhIEhXABGBCBDHBLBdChYABG",
    "BCBDHBLBPAMDhXBBGBCBDJAKBdCiGAEFBABHSBhdACGMHjCACILGiJBbABABAEBhRTBBFKBhDJAjETXDECBCCGDD",
    "NLBAKD1fC9SDcCdBeBiAfJAhNCBAjVBhCAjWLELmbEhZJBcCAhQehREhPQhGIMCeMhYNhQTkYCBUEAGACCmGhfwM",
    "AmDhAi-eCkNAjAfxKFjJB9uUDBJhABiQBoQADAEAXEEAiTBhSRaRNAhGHZMhMDhPNhEAiDNMAIBhNChSABCCBFBB",
    "AhJEFBnMHBBz5QA3BPQPrOBydAnCAkVEh0GCBBFDhICEAlFBxdDiBEpdBiPDiGKhRDjaChVOhJACBKDhNKHAhdCh",
    "ENQBhMAMChQNIDBBicLGACAkdLVDhXBBGCBCCJAKBCGDEiDIBACABDBEBAOBiSRXAiRTnLGCIbBiSQjKMjFOoAOn",
    "VFBBCDBABBkNGCGDAcJhIGBDIAJKhOPsVHBHiSVBNjaFDABBBGBAiCEBBBEqbDJBBAhQGDEXAlnFAGOrmIRiuAEh",
    "bGhgYABhWHDiRALBzlLBkzBhNCWweEDFIHCGeDkUCh9bhWEhRIAOAWEBOhqQGBQCGBBBEjEAlAGrXAhdDvcDneB3",
    "AGjNGi1QE4jhAifkAnP"]),
  (["zwj"],
    "ogNA"),
  (["regionalindicator", "ri"],
    "j8vGZ"),
  (["format", "fo"],
    "lNAhrOAkvRAh-fBaEhREBJh30PAnZCthUPhijADlmPH4r0GA"),
  (["katakana", "ka"],
    "shREjFBDiaBDnQPmQhOBiXhzgOhXhsiSDBGBBBAofChSAOD"),
  (["hebrewletter", "hl"],
    "huQaEDh9pKABJBMBEBABBBBBJ"),
  (["aletter", "le"],
    String.join ["iBZGZhPAKAEAFWBeBufGhBjQEBBCDBAGABCBABTBiSBkKIlFBhFCDBABhIBAjIAhMhKhDBBjCBAPBHBKCCAPBBdd",
    "iYLAYhAJBEAFVEAJADAXYHKFXBFRhJhahVDASAHJPPEHCBCVBGBADDDAQANBBCOBKAIFEBCVBGBBBBBBfDBATCQI",
    "BCBVBGBBBEDASAPBXALHCBCVBGBBBEDAeBBCPARABFDCBDDBBABBDBDCDLWAhUHBCBWBPDAaCCACBeAEHBCBWBJB",
    "EDAfBBBPBRIBCBhICAQAFCICYFFRDXBIBACGpZAhfHBhDbEoThFBAFAChKBqMBDCGBABDChIBDChABDCGBABDCOB",
    "hYBDCiChFPQiVCFDzLCQBZFiKDKHRNSOROMBClPiYHEChBBAFiFKenBWnOhORHhWdNBKhLahDhJCKhDCKFhKCChJ",
    "DBFBBDAFlfiAoVCFChFCFCHBABABABeChUBGBADCBGDDCFEMFCBGjUANAQMjFAEACJBADEGABABABDBKCDFEEARh",
    "I5NhTh4WnEGDDBMhFBAFAChXHAQWJGBGBGBGBGBGBGBGiQAuVAhVBmIhKBidRf7yAhkMiDhNCoMDPKBUhOQeCiPY",
    "mFCBBABHVPBCBDBWdhTOhRheFDABBLbKWZcHhOcAhQhIXCBHkUKHCMFCFCFJGBGBhZGjSdq9DMWEhQo4EGMEhYjB",
    "hBrKShfChVhILjUEBkGhEZGZiFeDFCFCFCChDLBZBSBBBOCNhCjaiFhUoLcDhQhPfNdFhFKdChDEHBEhKkdShDEh",
    "DEhHIhTMKBOBGBBBKBOBGBBDhTMpWJVKHYFBhJBIiFFCABhLBBDACWKWJeiBSBBKVKZiGhXGBiAAPDBCBchKcDch",
    "DHBbbhVKVKSNRjOiIhXhSNhSNhDhGbJWnahJGBQChbcKAIVhKRhOUbWMhUhZBCANhMhAYahDdACAIhCDAMhPODVA",
    "BAhDRBYTBhfGBABDBOBJHhOhGHCBCVBGBBBEDASAMEeJBACABhFBAZABAhMhUSDUCehPUBBAlYhOhJDhEhPUAhbh",
    "KNAqHhLjUhffHCACHBBBXPABAieHChGQABAcAKhHHAVALhNTASiImHhAfIBhERAhRdjQGBBBhFVAZFBBBfOAqHSP",
    "ABMBhBjcAiP8ZjGjORmDiyMjAPhhPRFZj8aFyGm1Zdh3CxYHeRiORdShPQDfUFStQhMmThfkAiKFAiCMiABBAzgc",
    "jKFMDIHJl7GiUBiGBBCACBCDBLBABGBiABDCHBGBbBDBEBADGBqTCYBYBeBYBeBYBeBYBeBYBHh5UeGFoFhdkShM",
    "KGQAqBdShLvEbnEdCAvPGBDBBBOBmEhbiDHAhlUDBaBBBACABJBDBABAGAEABABABCBBBACABABABABABBBACDBG",
    "BDBDBABJBQFCBEBQzUZGZGZ"]),
  (["singlequote", "sq"],
    "hHA"),
  (["doublequote", "dq"],
    "hCA"),
  (["midnumlet", "mb"],
    "hOAn-JBKAh3xNAlUAGA"),
  (["midletter", "ml"],
    "haAjcA2PAuXAkUAmxSAh3vLAiBAmEA"),
  (["midnum", "mn"],
    "hMAOA6CAwKAkCBieAsLAmiLAh3wLADAlXAOA"),
  (["numeric", "nu"],
    String.join ["hQJhuGFiaJBAjRASJmGJmGBiQAkDJjWJjWJjWJjWJjWJjWJjWJjWJjWJjAJjWJiGJoWJiGJh6GJhGJpMJkAKlFJG",
    "JlWJiWJkGJGJhiuGJ1GJhGJmGJWJiWJsWJ04WJhsGJikGJGJ4cJiNAPAhCJhcJkQJoWJqWJjWJrWJjGJGTiMJtGJ",
    "jGJ0WJiWJnWJiGJtGJwuWJipGJiWJkGJwWJ37WJi2UhRiqAJtGJvWJnXJ6VJk0WJ"]),
  (["extendnumlet", "ex"],
    "ifAn+PAPBTAh3ueBYCnPA"),
  (["wsegspace"],
    "hAAlyfAirfGBCiUAj9AA")]

/-- Each behaviour at the boundary of a sentence. -/
def sentenceBreakData : List (List String × String) := [
  (["cr"],
    "NA"),
  (["lf"],
    "KA"),
  (["extend", "ex"],
    String.join ["4AjPoTGoHhMBABBBBBAiIKhQUQAjFGCFCBBDhDAeaibKhaIJAYDBIBCBEhLChbIhKXBhAhWCBRBGKBdChYABGCBC",
    "CJAKBaACChYABEEBCCDAeBDALChYABHBCBCUBWFBChYABGCBCCHCKBeAhbEDCBDJAhIEhXABGBCBDHBLBdChYABG",
    "BCBDHBLBPAMDhXBBGBCBDJAKBdCiGAEFBABHSBhdACGMHjCACILGiJBbABABAEBhRTBBFKBhDJAjETXDECBCCGDD",
    "NLBAKD1fC9SDcCdBeBiAfJAhNCBAjVBhCAjWLELmbEhZJBcCAhQehREhPQhGIMCeMhYNhQTkYCBUEAGACCmGhfwM",
    "BmChAi-eCkNAjAfxKFjJB9uUDBJhABiQBoQADAEAXEEAiTBhSRaRNAhGHZMhMDhPNhEAiDNMAIBhNChSABCCBFBB",
    "AhJEFBnMHBBz5QA3BPQPrOBydAnCAkVEh0GCBBFDhICEAlFBxdDiBEpdBiPDiGKhRDjaChVOhJACBKDhNKHAhdCh",
    "ENQBhMAMChQNIDBBicLGACAkdLVDhXBBGCBCCJAKBCGDEiDIBACABDBEBAOBiSRXAiRTnLGCIbBiSQjKMjFOoAOn",
    "VFBBCDBABBkNGCGDAcJhIGBDIAJKhOPsVHBHiSVBNjaFDABBBGBAiCEBBBEqbDJBBAhQGDEXAlnFAGOrmIRiuAEh",
    "bGhgYABhWHDiRALBzlLBkzBhNCWweEDFIHCGeDkUCh9bhWEhRIAOAWEBOhqQGBQCGBBBEjEAlAGrXAhdDvcDneB3",
    "AGjNG4l2VifkAnP"]),
  (["sep", "se"],
    "kFAn9CB"),
  (["format", "fo"],
    "lNAhrOAnSAkneAh-cACBaEhREBJh30PAnZCthUPhijADlmPH4r0GA"),
  (["sp"],
    "JABBTAjfAlufAirfKhEAhPAj9AA"),
  (["lower", "lo"],
    String.join ["jBZhPAKAEAhEXBHBABABABABABABABABABABABABABABABABABABABABABABABABABABABBBABABABABABABABBB",
    "ABABABABABABABABABABABABABABABABABABABABABABACABABCCABACADBEACADCCACABABACABBBACADABACBC",
    "CGACACABABABABABABABABBBABABABABABABABABBCABADABABABABABABABABABABABABABABABABABABABABAB",
    "ABABABABABABABABGCACBBAEABABABABiEBhDHBeEkMABADACDSAbhCBBDCBABABABABABABABABABABABEBACAC",
    "BhThPBABABABABABABABABABABABABABABABABAJABABABABABABABABABABABABABABABABABABABABABABABAB",
    "ABABACABABABABABABBBABABABABABABABABABABABABABABABABABABABABABABABABABABABABABABABABABAB",
    "ABABABABABABABABABABABABABAhQhIi7TA3bFikCIBAjVlfiBABABABABABABABABABABABABABABABABABABAB",
    "ABABABABABABABABABABABABABABABABABABABABABABABABABABABABABABABABABABABABABABABABABABABAB",
    "ABABABABABABABABABABABIBABABABABABABABABABABABABABABABABABABABABABABABABABABABABABABABAB",
    "ABABABABABABABABABABABABABABABABIIFKHIHIFKHIHINCHIHIHIEBBGADCBBIDCBIHKCBBjZANAQMjNADBDAb",
    "AEAEACBIDEAhBPEA6LZh6GhPBADBBABABAEABBBHDABABABABABABABABABABABABABABABABABABABABABABABA",
    "BABABABABABABABABABABABABABABABABABABABABABABABABABBHABAEAMhFBAFA+oTABABABABABABABABABAB",
    "ABABABABABABABABABABABABATABABABABABABABABABABABABABCkFABABABABABABCBABABABABABABABABABA",
    "BABABABABABABABABABABABABABABABABABABABABJBABACABABABABAEABACABCBABABABABABABABABABAFAFA",
    "BABABABABABABAEABACADABABABABABAWCBABC5VhKBNGiPz6AGMEhhJZhmNhHkIhDkbKBOBGBBuDACCBhJBIhoF",
    "hSjdVi5af1sAf5saZaGBRaZaDBABGBKaZaZaZaZaZaZaZaZabcYBFaYBFaYBFaYBFaYBFBAh5UJBTGFoFhdilUhB"]),
  (["upper", "up"],
    String.join ["iBZjFWBGhBABABABABABABABABABABABABABABABABABABABABABABABABABABABACABABABABABABABACABABAB",
    "ABABABABABABABABABABABABABABABABABABABABBBABADBBABBBCCDBBBCDBBBBABABBBACABBBCBABBDAHBBBB",
    "BBABABABABABABABACABABABABABABABABACBBABCBABABABABABABABABABABABABABABABABABABABABABABAB",
    "ABABABABABAHBBBCABDBABABABApBABADAIAGABCBABBBQBIhDACCDABABABABABABABABABABABAFACABBChShQ",
    "ABABABABABABABABABABABABABABABABAJABABABABABABABABABABABABABABABABABABABABABABABABABABAB",
    "BBABABABABABACABABABABABABABABABABABABABABABABABABABABABABABABABABABABABABABABABABABABAB",
    "ABABABABABABABABABABAChFi6JhFBAFA2SiVikTArWABABABABABABABABABABABABABABABABABABABABABABA",
    "BABABABABABABABABABABABABABABABABABABABABABABABABABABABABABABABABABABABABABABABABABABABA",
    "BABABABABABABABAJABABABABABABABABABABABABABABABABABABABABABABABABABABABABABABABABABABABA",
    "BABABABABABABABABABABABABAJHIFKHIHIFLABABABAIHYHIHIHIELELDMELEoFAEADCCCCADEGABABABDCDKBF",
    "AaPTA5SZh5QhPhQABCCABABABDBACAICBABABABABABABABABABABABABABABABABABABABABABABABABABABABA",
    "BABABABABABABABABABABABABABABABABABABABABAIABAEA+qNABABABABABABABABABABABABABABABABABABA",
    "BABABABATABABABABABABABABABABABABABAkHABABABABABABADABABABABABABABABABABABABABABABABABAB",
    "ABABABABABABABABABABABABAKABABBBABABABAEABACABADABABABABABABABABABABEBEBABABABABABABABDB",
    "ABBDAFABABABAYA15LZhmFhHkIhDkcKBOBGBBh3KhSkdVi5af1sAf5tAZaZaZaABBCACBCDBHaZaBBDCHBGbBBDB",
    "EBADGbZaZaZaZaZaZeYhBYhBYhBYhBYhBAkpVhBigOZGZGZ"]),
  (["oletter", "le"],
    String.join ["tbAEDmQAhEGGLaABAkFAvEAjWaEEhMhKhDBBjCBAPBHBKCCAQABddiYLAYhAJBEAFVEAJADAXYHKFXBFRhJhahVD",
    "ASAHJPPEHCBCVBGBADDDAQANBBCOBKAIFEBCVBGBBBBBBfDBATCQIBCBVBGBBBEDASAPBXALHCBCVBGBBBEDAeBB",
    "CPARABFDCBDDBBABBDBDCDLWAhUHBCBWBPDAaCCACBeAEHBCBWBJBEDAfBBBPBRIBCBhICAQAFCICYFFRDXBIBAC",
    "GhahPBBMGhaBBABEBXBABJBBJACEBAVDhAAhfHBhDbEjThKUAQFEDDADBHCEMMAiBhKCqLBDCGBABDChIBDChABD",
    "CGBABDCOBhYBDCiChFPjRzLCQBZFiKDKHRNSOROMBCPhThDAEAiDiYHEChBBAFiFKehRdCELhLEZhWWJhUiSAidh",
    "ORHhWdNBKhLahDhJCKhDShKCChJDBFBBDAhhaDiHCCDi9HhXHAQWJGBGBGBGBGBGBGBGiQAuVCZIHECEEiVGCBiZ",
    "BDFhKBidRfhQPwAmtfiA10MiDhNCoMDPKBiCAQAhAiPhHIjIAGAjHADGBCBDBWdhTOhRheFDABBLbKWZcHhOcAQE",
    "BJKEBhIXCBHUWDADhRBADBCECABAYCCKHCMFCFCFJGBGkRhCdq9DMWEhQooErNCjJiDABJBMBEBABBBBBjLhBrKS",
    "hfChVhILjUEBkGjJhXCeDFCFCFCChDLBZBSBBBOCNhCjaiFhUoLcDhQhPfNdFhFKdChDEHBEjaiNjChHIhTichTM",
    "pWJVKHZBjdFCABhLBBDACWKWJeiBSBBKVKZiGhXGBiAAPDBCBchKcDchDHBbbhVKVKSNRjOiIlXhDhGFfAoQhJGB",
    "QChbcKAIVhKRhOUbWMhUhZBCANhMhAYahDdACAIhCDAMhPODVABAhDRBYTBhfGBABDBOBJHhOhGHCBCVBGBBBEDA",
    "SAMEeJBACABhFBAZABAhMhUSDUCehPUBBAlYhOhJDhEhPUAhbhKNAiHahFGlZhLmTHCACHBBBXPABAieHChGQABA",
    "cAKhHHAVALhNTASiImHhAfIBhERAhRdjQGBBBhFVAZFBBBfOAqHSPABMBhBjcAiP8ZjGjORmDiyMjAPhhPRFZj8a",
    "FyGm1Zdh3CxYHeRiORdShPQDfUFStQhMsTiKFAiCMiABBAcl-XIhmVhJJo3HDBGBBBpCPAdCCAODIsLioEjKFMDI",
    "HJozQAvVhMKGQAqBdShLvEbnEdCAvPGBDBBBOBmEkGAhlUDBaBBBACABJBDBABAGAEABABABCBBBACABABABABAB",
    "BBACDBGBDBDBABJBQFCBEBQkqEhp2fhAkhZGmdCl0BOnpQPzNitCwdhvCk6KFkif"]),
  (["numeric", "nu"],
    String.join ["hQJhuGFiaJBBjQASJmGJmGBiQAkDJjWJjWJjWJjWJjWJjWJjWJjWJjWJjAJjWJiGJoWJiGJh6GJhGJpMJkAKlFJG",
    "JlWJiWJkGJGJhiuGJ1GJhGJmGJWJiWJsWJ04WJhsGJikGJGJ4cJiNAPAhCJhcJkQJoWJqWJjWJrWJjGJGTiMJtGJ",
    "jGJ0WJiWJnWJiGJtGJwuWJipGJiWJkGJwWJ37WJi2UhRiqAJtGJvWJnXJ6VJk0WJ"]),
  (["aterm", "at"],
    "hOAn-VAh3xNAlbA"),
  (["scontinue", "sc"],
    "hMBMB6CAueAlOBvKAkgJAFAigKBj-MAhzwOBBBcBdBCBCAKAlIBMBiIA"),
  (["sterm", "st"],
    String.join ["hBAdAhqJAkTClUAhLCnWAhdABADBpFBh3EB4WAEB4FAmGBkdBhNAFApaBrCDlCBKBCBdClbBiBB9cBJCjlPCpSAN",
    "AWBtNA9ncAoOBnDADAreBiWBifAkYBkTCkQBnZA0xGACBhfBlJAdAiBAi3UBhndEhMDldBjVDjfCkBBGAQBiYBBB",
    "jMApKBjVBrVBFOjJBnZCwFABAnbBiXBtEB1UBiKBy5JBkFAiBBLAxJBpIAzwGAnvIA"]),
  (["close", "cl"],
    String.join ["hCAEChRABAdABAhNAPAjzeDh6dBirbHZBKBhWBOBzZDdBhhQFHNiPBfJsTVhfDhABhgCNOBCJYASHtLJCHBChzoe",
    "BmXBcPCBQFlJBhRABAdABABBBBh94SC"])]

end LogPipeline.Unicode
