/-!
# General categories

The ranges of code points of each general category of Unicode 16, in packed form. Surrogates are
left out, since no character has that category.
-/

namespace LogPipeline.Unicode

/-- Each two-letter category with its packed ranges. -/
def categoryData : List (String × String) := [
  ("Lu",
    String.join ["iBZjFWBGhBABABABABABABABABABABABABABABABABABABABABABABABABABABABACABABABABABABABACABABAB",
    "ABABABABABABABABABABABABABABABABABABABABBBABADBBABBBCCDBBBCDBBBBABABBBACABBBCBABBDAHACAC",
    "ACABABABABABABABACABABABABABABABABACACABCBABABABABABABABABABABABABABABABABABABABABABABAB",
    "ABABABABABAHBBBCABDBABABABApBABADAIAGABCBABBBQBIhDACCDABABABABABABABABABABABAFACABBChShQ",
    "ABABABABABABABABABABABABABABABABAJABABABABABABABABABABABABABABABABABABABABABABABABABABAB",
    "BBABABABABABACABABABABABABABABABABABABABABABABABABABABABABABABABABABABABABABABABABABABAB",
    "ABABABABABABABABABABAChFi6JhFBAFA2SiVikTAGhKCCqAABABABABABABABABABABABABABABABABABABABAB",
    "ABABABABABABABABABABABABABABABABABABABABABABABABABABABABABABABABABABABABABABABABABABABAB",
    "ABABABABABABABABABABAJABABABABABABABABABABABABABABABABABABABABABABABABABABABABABABABABAB",
    "ABABABABABABABABABABABABABABABAJHIFKHIHIFLABABABAIHiIDMDMDMELDoGAEADCCCCADEGABABABDCDKBF",
    "AhdAizchPhQABCCABABABDBACAICBABABABABABABABABABABABABABABABABABABABABABABABABABABABABABA",
    "BABABABABABABABABABABABABABABABABABABAIABAEA+qNABABABABABABABABABABABABABABABABABABABABA",
    "BABATABABABABABABABABABABABABABAkHABABABABABABADABABABABABABABABABABABABABABABABABABABAB",
    "ABABABABABABABABABABAKABABBBABABABAEABACABADABABABABABABABABABABEBEBABABABABABABABDBABBD",
    "AFABABABAYA15LZhmFhHkIhDkcKBOBGBBh3KhSkdVi5af1sAf5tAZaZaZaABBCACBCDBHaZaBBDCHBGbBBDBEBAD",
    "GbZaZaZaZaZaZeYhBYhBYhBYhBYhBAkpVhB"]),
  ("Ll",
    String.join ["jBZhaAhJXBHBABABABABABABABABABABABABABABABABABABABABABABABABABABABBBABABABABABABABBBABAB",
    "ABABABABABABABABABABABABABABABABABABABABACABABCCABACADBEACADCCACABABACABBBACADABACBCCGAC",
    "ACABABABABABABABABBBABABABABABABABABBCABADABABABABABABABABABABABABABABABABABABABABABABAB",
    "ABABABABABABGCACBBAEABABABABiEBamBABADADCSAbhCBBDCBABABABABABABABABABABABEBACACBhThPBABA",
    "BABABABABABABABABABABABABABABAJABABABABABABABABABABABABABABABABABABABABABABABABABABACABA",
    "BABABABABBBABABABABABABABABABABABABABABABABABABABABABABABABABABABABABABABABABABABABABABA",
    "BABABABABABABABABAhQhIi6HhKCC3YFikCIBAjVhLhfMBhBjGABABABABABABABABABABABABABABABABABABAB",
    "ABABABABABABABABABABABABABABABABABABABABABABABABABABABABABABABABABABABABABABABABABABABAB",
    "ABABABABABABABABABABABIBABABABABABABABABABABABABABABABABABABABABABABABABABABABABABABABAB",
    "ABABABABABABABABABABABABABABABABIIFKHIHIFKHIHINCHIHIHIEBBGADCBBIDCBIHKCBBoSADBDAbAEAEACB",
    "IDEAhVAi1LhPBADBBABABAEABBBFFABABABABABABABABABABABABABABABABABABABABABABABABABABABABABA",
    "BABABABABABABABABABABABABABABABABABABABBHABAEAMhFBAFA+oTABABABABABABABABABABABABABABABAB",
    "ABABABABABABATABABABABABABABABABABABABABAkHABABABABABABCBABABABABABABABABABABABABABABABA",
    "BABABABABABABABABABABABABABABABHBABACABABABABAEABACABCBABABABABABABABABABAFAFABABABABABA",
    "BABAEABACADABABABABABAaADA5VhKFIHiPz6AGMEhhJZhmNhHkIhDkbKBOBGBBh4DhSjdVi5af1sAf5saZaGBRa",
    "ZaDBABGBKaZaZaZaZaZaZaZaZabcYBFaYBFaYBFaYBFaYBFBAh5UJBTGFivXhB"]),
  ("Lt",
    "uFACACAhGAnsVHIHIHMAPAhPA"),
  ("Lm",
    String.join ["1QRELOEHABAkFAFAueAnGAlEBoNBEAfAJADAlAAlHAhmUAjfAxVAh2aAjLAzDAuQFlOheNAhChE1RANAQMi+fBnR",
    "AlfAuVAhLEFAjBBidC74WAhnCFoOAjSAcBjZIiQAXAjJCDBuVAWAkJAjMAVBjHDJA1gGAhNBh-AFBhJBIhsTAhAA",
    "3uQDvcChIBxGMiABBAwgMDBGBBshRhdmJG9NAhifA"]),
  ("Lo",
    String.join ["lKAPAoAAEDmQA5baEDhNfBJhDBBjCBAYBKCCAQABddiYLAYhAVVhKYHKFXBFRhIhbhVDASAHJQOEHCBCVBGBADDD",
    "AQANBBCOBKAIFEBCVBGBBBBBBfDBATCQIBCBVBGBBBEDASAPBXALHCBCVBGBBBEDAeBBCPARABFDCBDDBBABBDBD",
    "CDLWAhUHBCBWBPDAaCCACBeAEHBCBWBJBEDAfBBBPBRIBCBhICAQAFCICYFFRDXBIBACGhahPBBMFhbBBABEBXBA",
    "BJBBJACEXDhAAhfHBhDbEjThKUAQFEDDADBHCEMMAjRqIBDCGBABDChIBDChABDCGBABDCOBhYBDCiChFPjRzLCQ",
    "BZFiKGHHRNSOROMBCPhThIAiDhCBhUHEChBBAFiFKehRdCELhLEZhWWJhUlQhORHhWdNBKhLahDhJCKdjRDBFBBD",
    "AhhaDi-XhXYWJGBGBGBGBGBGBGBGxHAhVAEiVIABiZEAFhKBidRfhQPwAmtfiA0wUBhjWiDhHIoLEPKBiCAhRiFl",
    "JAjHADGBCBDBWdhTOhRheFDABBLbKWZcHhOhNECIKEBhIXCBHUPBFDADhRBADBCECABAYBDKHAOFCFCFJGBGkRhC",
    "dq9DMWEhQooErNCjJiDABJBMBEBABBBBBjLhBrKShfChVhILjUEBkGjJJBhMCeDFCFCFCChDLBZBSBBBOCNhCjas",
    "FcDhQhPfNTBHGhFKdChDEHkAiNjChHIhTichTMpWJVKHkYFCABhLBBDACWKWJeiBSBBKVKZiGhXGBiAAPDBCBchK",
    "cDchDHBbbhVKVKSNRjOiIlXhDhGDBApQhJGBQChbcKAIVhKRhOUbWMhUhZBCANhMhAYahDdACAIhCDAMhPODVABA",
    "hDRBYTBhfGBABDBOBJHhOhGHCBCVBGBBBEDASAMEeJBACABhFBAZABAhMhUSDUCehPUBBAlYhOhJDhEhPUAhbhKN",
    "AiHahFGlZhLmTHCACHBBBXPABAieHChGQABAcAKhHHAVALhNTASiImHhAfIBhERAhRdjQGBBBhFVAZFBBBfOAqHS",
    "PABMBhBjcAiP8ZnGmDiyMjAPhhPRFZj8aFyGm1Zdh3CxYHeRiORdShPhTUFStThHsViKFAlPl-XIhmVhJJo3XpCP",
    "AdCCAODIsLioEjKFMDIHJozQAvVhMhBAqBdShLvEanFdCAvPGBDBBBOBmEhpbDBaBBBACABJBDBABAGAEABABABC",
    "BBBACABABABABABBBACDBGBDBDBABJBQFCBEBQkqEhp2fhAkhZGmdCl0BOnpQPzNitCwdhvCk6KFkif"]),
  ("Mn",
    String.join ["4AjPoTEoJhMBABBBBBAiIKhQUQAjFGCFCBBDhDAeaibKhaIJAYDBIBCBEhLChbIhKXBfhXABAEHEADGKBdAhaAED",
    "IAUBaACBhZAEBEBCCDAeBDALBhZAEEBBEAUBWFBAhaACABDIAHBLBeAhdAMAhSADAhXABCFCBDHBLBdAhaACAGAF",
    "BUBcBhZBEDIAUBdAiIAHCBAiaACGMHjCACILGiJBbABABAhXNBEBBFKBhDJAjGDBFBBCBZBECQDNACBGAPA1fC9S",
    "CdBeBeBiABBGIACKJAhNCBAjVBhCAjWCEBJAGCmbBCAhaABGBABACHGJCAhQNBPhRDhQABEBAFAhIIMBhADCBBCh",
    "YABBDABChaHCBkYCBMBGEAGADBmGhf2QMEADLi-eCkNAjAfxKDjLB9uUAEJhABiQBoQADAEAZBFAkXBaRNAhGHZK",
    "hOChQACDCBhHAiDFCBCBMAIAhPAhTABCCBFBBAhKBIAnOACAEAz5QA3BPQP+NAnCAkVEh0GCBBFDhICEAlFBxdDi",
    "BEpdBiPDiGKhRDjbAhWOhJACBKChRDCBHAhdChEEBHheAMBhUIKDCAifCCABBGACAkdADHVBhZBDAhFGDEiGFNAB",
    "ABAOBiVHCCBAXAiUFBAEBBBnODGBBBbBiVHCABBjKABACFBAjFABACDBEoDIBBoABBAEAkQDCBEAhAJhIFCDIAJF",
    "CChOMBBsWGBFBAiSVCGBBBBjaFDABBBGBAiIBDABAqbBLBhUEFABAXAlnFAGOrmILDCiuAEhbGhgYAhfDiRAzlYB",
    "kzBhNCWxACRHCGeDkUCh9bhWEhRIAOAWEBOhqQGBQCGBBBEjEAlAGrXAhdDvcDneB3AGjNG4l9VnP"]),
  ("Mc",
    String.join ["ioDAhXACCIDBBhSBhaCGBCBKAhLAhaCiCAhaCIABBhVBhaABAGBCBKAjGBBBDCBCKAhJChdDhdBhaABECBBBJBcA",
    "OBhaCFCBCKAhKBiLCGHSBqKBhfAlLBEAGACBZBKCCGVBCFCAKChzYAeAkBAHHBBqaDCCEBBFnABhaABAJABBIFkR",
    "AhQAFABEBBhdAeAEBCAhcACCBADBhQHIBlLAVAk5WB9-TBCAiYBhSPkOBhPAhQBEBCCjOBCBYAhNABAjNACBFAnN",
    "BBBBBBA5gTABAjfAhNCEBjTAYBhbAhQCJBNAidCDBBAlKCfBhaBBDCBCCJAKBiUCHACABDBBBAjFCIBDAjKCGABD",
    "CAnNCGDCAjRCIBBAjNABBGAjHABBEAoFCJAnXFBBEACABAkOCIDEAiUAdBheAsXAOAjKAHACAmVEEBBAqeBMAhQB",
    "IBBAwvICjxEhWjIB4rTBGF"]),
  ("Me",
    "hkIBlxUAhweDBChhsLC"),
  ("Nd",
    String.join ["hQJhxGJkGJmGJscJjWJjWJjWJjWJjWJjWJjWJjWJjWJjAJjWJiGJoWJiGJh6GJhGJpMJkAJlGJGJlWJiWJkGJGJh",
    "iuGJ1GJhGJmGJWJiWJsWJ04WJhsGJikGJGJ4cJkAJhcJkQJoWJqWJjWJrWJjGJGTiMJtGJjGJ0WJiWJnWJiGJtGJ",
    "wuWJipGJiWJkGJwWJ37WJi2UhRiqAJtGJvWJnXJ6VJk0WJ"]),
  ("Nl",
    "l3OCizPhCCDjzeAZIOC91LJ2yQhUuMAIAkGEohKjO"),
  ("No",
    String.join ["lSBFACCipVFrYFjYCkFGmZGRItRJhhVThjTJvAAh0VADFGJmGPhJA2WhbiOVzWdhrJAhkUDkKJeHBOhAJhHO9rQF",
    "2mRhMiBDRBqVahEDhpUHZGhHIiLEWFlABCPChNiAIhUBeCiLEjIHYHhJGqKFrAekeJhKDjQGkGTrbThqFBtOI7HS",
    "6TUy8GG4eW5hJTMTjMYlqOI9BhaBCBDiMhMBO+CM"]),
  ("Pc",
    "ifAn+fBTAh3ueBYCnPA"),
  ("Pd",
    "hNAhqcAhTAjyBAhgFAigJFjwBACAfBEAcAteATAjPAhzsQBhFAKAlJAjzAApeA"),
  ("Ps",
    String.join ["hIAhSAfAj1eABAh6eAireADAhGAhXAPAzaABAeAhheABABABABABABAiQAhAABABABABAsUABABABABABABABABA",
    "BABAiAABAhBAhhFABABABAZASABABABAtMABABABABADABABABACAhzpBAmXAdABABABABABABABADARABABAlKA",
    "hSAfADACA"]),
  ("Pe",
    String.join ["hJAhTAfAj1dABAh6eAitJAhXAPAzaABAeAhheABABABABABABAiQAhAABABABABAsUABABABABABABABABABABAi",
    "AABAhBAhhFABABABAhMABABABAtMABABABABADABABABACBhzoeAmZAdABABABABABABABADARABABAlKAhTAfAC",
    "ACA"]),
  ("Pi",
    "lLAn7MACBCAZAjuIABAEACAPADA"),
  ("Pf",
    "lbAn6dADAcAjuIABAEACAPADA"),
  ("Po",
    String.join ["hBCBCCABABBKBDBbAiEAFAOBHA1eAIAuSFhJAhWACACAhMBUBBBNABCiKDjGAhLNnJChWOfAoFBKAkMAjYAjZAsG",
    "AMArPAiaAKBlIOBAjQAiKEEBjPFlLAzEI4FAjcCiHBkdCBChFFBDpZBmYBkAGBFlABKGcCjcDhbEheBiAHLA6CBI",
    "HIICDCCDKBABJjkaDBBjQAkPBECCACIBBBACBKEBJCDBABMCCtMChZAldA9gCBoNCjDAKAjTFrcDiWBhICBAhRBh",
    "PAjBMQBjcDjeBQBnZA0xEGCAWAUBCDDCBDHCGABBkVCBCCABABBKBDBbAhEACBsaC0cAhQAseA3HAmHAfAoQIhGA",
    "jQGiCGiZD9YEhMDldGjNBBDjeDhQBiPDEANABCiYFjLApKBBBjSEKBBAjIAnaWjJCcMiMAkCCncAoICkbAicHiTC",
    "BEidJmXAifEhKB0FBiKMlPAhjQEi7cBuzbBkFAiBEIAxICpHDqHAzlcAnvHEi7TA6eB"]),
  ("Sm",
    String.join ["hLAQChdABAhNAEAhFAfA3eAwPCmxbANAhHCNCkLAhHEGAiEEFBEACACAHAfBCABAfoLhABiaAeYhIFuVAJAhWHjP",
    "AqQECeKPoAkCWheEfCoBhQUCFhz+cA5YABClEAQChdABAkDAGDjtBBhypRAZAfAZAfAZAfAZAfAZAl5MB"]),
  ("Sc",
    "hEAjdDhnJAjbAvSBvSBHAnVAoHAyFAisbAimEhAhh7XA1uDAjMAkaAmbBDBn-WDhw4eAitQA"),
  ("Sk",
    "ieABAiHAGAEADAwJDMNFGBABQjVAOBhoCAl5UABCLCNCNCNBkkcB9zDWJBjHB+QAOB0iGQ7bABAlCAh9gXE"),
  ("So",
    String.join ["lGACAEABA+RAoKBjfBmOAKATBnXAwDArVAkCFBAkEAmPAhJAsHCPABCCFUABABAkFHBFBBFDmFB3QJ2TA2SAkdhB",
    "rBJJIhsDBBDBBKABBGFBABABAEALBOABBBAhaBJECDBBBBBGBeCBBABeoMHETCGCiQBdZhHGiHWKiRiNWlWBIBhV",
    "IjOBnXhMhLiAnfwAhPVBGhGCfBjInFFrFBhOZBiYMmVaPEANBMAVBGBqQBEJhAhFJAQeLdIAPfKhGPpfmuAhf10Q",
    "hW7BDKBBAxdC02GPjfAhNCvEADAEBNBpZIhZQCCBMDAhPhMhzaByPAjjWAikVHEQy6KDFA0qWAj7DnPQtTkcjThc",
    "nVKhGChbFCWBHdEhcViBDAlaiWhlJvfhXDhSHBNBBh2IAi6cAkBA2RhLEjDMOCOBOBhEXlAhYcNhLEIHBOFkanaF",
    "2XEQDMDjWEieGLEAPLEhXIJGhHIdCLEBheqTMNCMDJFhXHOCKGIHkSBib"]),
  ("Zs",
    "hAAjfAlufAirfKhEAhPAj9AA"),
  ("Zl",
    "ohIA"),
  ("Zp",
    "ohJA"),
  ("Cc",
    "AfifhA"),
  ("Cf",
    "lNAhqSFWAmAAhRAsABiQAj5LAh-cEaEhREBJh30PAnZCkmBAPAo7CPhijADlmPH4r0GAeif"),
  ("Co",
    "h4gAmnf8h4Ah--dCh--d")]

end LogPipeline.Unicode
