/-!
# Ages

The ranges of code points that each version of Unicode up to 16 has assigned for the first time, in packed
form.
-/

namespace LogPipeline.Unicode

/-- Each version, by its loose names, with its packed ranges. The oldest comes first. -/
def ageData : List (List String × String) := [
  (["1.1", "v11"],
    String.join ["AvVEdhYiYHhOBJWiFaBSBEADAFGBABTBhLBGDABABABABRNLBiBBLBhIJhUCBCBDbCHCBhXhFCGBhGBAhGJBIMaF",
    "EXAOADABZFSNNCiHCEBOBdCJwHCBhUCRCEDYQCBHCBCVBGBADDCABGCBCCJAEBBECUHACFEBCVBGBBBBBBCABEEB",
    "CCLDBAHOMCBGBABCBVBGBBBECJBCBCCAPAFJRCBHCBCVBGBBCDCHDBCCIBEBBCEKRBBFDCBDDBBABBDBDCDHBCEE",
    "DCBDJAPLOCBHBCBWBJBEEGBCBDHBJBEJSBBHBCBWBJBEEGBCBDHBHABBEJSBBHBCBWBPEFCCBDJAIBEJkRhZEchF",
    "BBACBBACAGDBGBCBABACBBMBCCEBABFCJCBuChFKhGEAEiZFiDFiRjgGkaFiZGVCFChFCFCHBABABABeChUBOBNC",
    "FBSCCBIBhOBWhDGDaRKhFRehYahPNiaVnROABjYkFhEbKVkKVkVKiPQTGiVkRDBDCbBhCBABDDABGCGOeDXBNiiB",
    "hXHABiTEFCidGhHEidBPjAcDhDcbDhRPLEhOBjWEjCCemwB0tFwiamxNmSGMEGYBEBABBBBBjLhBrMQhfChVhILh",
    "EDMUEJBSBDECBABkGCABidCidDFCFCFCCDGBGOC"]),
  (["2.0", "v20"],
    String.join ["hsRQBMUAipbiHBhAHaEFBABUDGBAj3BAwPAhi6Uq9DiqiaBh--eBh--eBh--eBh--eBh--eBh--eBh--eBh--eBh",
    "--eBh--eBh--eBh--eBh--ekggB"]),
  (["2.1", "v21"],
    "olMAh36PA"),
  (["3.0", "v30"],
    String.join ["vWDeHCRjVEhRAKEiXITAjUADABABABAeAMAiCAMAhKBCDicBkcAmICjCBFAPAhKEBNBdDahVhQhuRBBRDXBIBACG",
    "DAEFBABHSCrVAhLAXCHABCBOCAhQhBBEBBBGDDGZtGGBheBABDCGBABDChGBABDCeBABDCGBABDCGBGBWBeBABDC",
    "GBhGBSGbhDiUMzVJcDiQkPicDJWOBJGiXIhJh8FAYFifChSBiVBiIAjHIoNAjZABdkKBuJHhBAiWBsOnfhsAZBiY",
    "MmVaLhcCDArBXyImtV0yKhkMDRCPBLBCBA1yWAhmbC"]),
  (["3.1", "v31"],
    String.join ["-UBh+uafhoQeBDMalVhFChFhy9SnVKhGDlTxCiUBiGBBCACBCDBLBABDBBBiABDCHBGBbBDBEBADGBqREpBEhRqg",
    "Ahp2W0pJwd2hvDAeif"]),
  (["3.2", "v32"],
    String.join ["xAApOATMjIBcAkTBhZBCBCBhRPqeBqBAiqFBhwHMBGLWJTMMBCBBimTAGEEAHENAheBhSGiSOlILnSNjcAehTocT",
    "kXJiYHWBiaLCJmeNiabEPoAvfhpbCiXBIBieAnQPiROiRO8vCBQAMADA1rKha8RADPhVBhMAnLB"]),
  (["4.0", "v40"],
    String.join ["xBASCjXBhfQiQHFCkXEwEDJIiACkVBPAhNCdCtUAlYAiDABAkIAiUCNAiDAhbAkBHmBBi4fASJoGcDLELEADhJCE",
    "jLf4AjL3HBnGA0TBpOAoUBjUHOBhieNh4PBhRAhLBiODlHDjDBfAmuAhfhr-dAiJBtXLBZBSBBBOCNhCjaFCEhMD",
    "IyAdBAkGBhGiPCJ6WFCABhLBBDACAhy2AiWrKA4rhenP"]),
  (["4.1", "v41"],
    String.join ["xXKoWEkfDnWBlKAhCCiDASAhaFnRdwPAiQAvHAhPA-JBpHBBAoKAhfAhfAhHAfAfAfAPAhHAXBfZhvGhJGZGJEBh",
    "AbCB6MiX0RBBGhREdDhVAiQAPA0EKxcAjFBSKFPoOG6HFnMhOBhOhBjKOhMKhVJAQWJGBGBGBGBGBGBGBGhBXEB9",
    "CPlOA7pHVh6EWnJhL0yEjJ5WJ5GiKwVhDENhxKDBBFHBCBaECEIIIhx9HiFhieB"]),
  (["5.0", "v50"],
    String.join ["yCNpLCqRAhKFQDlGAwFhasABBB7CBNBjwNiLEhMyHGhTB3MDidBhVAyXL2KAoUD6JGFDpcMHD+0fDFBoehX4kIZF",
    "Al3A7OkRjCNDhr3MRhiYB"]),
  (["5.1", "v51"],
    String.join ["7QDCBiXAlXAkMPnCELEhAEpORvRBmeAhDAmOAdBjMAjMAaBIBUHldAGAdBMFDGvLBjBADCiNAFACAHCEFahfEBig",
    "KA2VhKDLiGhXDODhSqLblVDiaFrEAkLAieAhVDhoUAVJDDoIAfD5LEEhIDEoYCBCEFrCfYDCS3cAlCT7uYHhpcpL",
    "UfCRIbkDECjKjOEkAiEJLhGiTLAlAhWJNCJCD0+EC7JLhUhNkCcDhQhyPZFAhx-JAn2WhLEjD"]),
  (["5.2", "v52"],
    String.join ["hpEB2ahNCOmBAiNAGAhDBkAAhuZDmBDlcEiEEiSFwAAzWIxQiFlUBhOAiFheBcCKGJGNxChCoKA1YCkXChWAyeA1",
    "VBdCEJBSBAEXiXA-dEoWANBjLGpfAhgSL7rUHhoEhPtAiXpYJlGbjEcDiNBKEBkAbEiCYEnAhNCJq9WWEhQozPCj",
    "uSVBIlaBqEfkAhVDcCaFHkAiIwXewBiBn5ehhOhvmRKFeCALABACADADEIAHAZABBCAKDCAjPAPhBOIhtlXkhU"]),
  (["6.0", "v60"],
    String.join ["hpGBnYAheAvAbCAmbBTAGBbEvaFtRAQATAxdDiJB8CBijBhTIDvcA0YHcA5PK2aATABDdAEBcAhDABAECJBhUCYA",
    "OAOBhtAAOAhhYC9lFBpLBBBOJiQA4GFCFCFJGBG0kDPlheiNEd18QxYxuHBwkeOCNCOBOiQABKBABBBCBCFHBGBJ",
    "GIBACBBJEBBJiLZBBhPIVBlOhAPFBiFDTMhEBEVQPheBABlVBDDhdSXkTEBPBCBABABABCBFCDBACDBLEKhQiFha",
    "jThv+Mmd"]),
  (["6.1", "v61"],
    String.join ["hsPAjUA0bABKhXavRA-NBvHAFAhPCi1LCMFoAHhLDi2UABAhpEBhTAFAhYBmKJ8sQAh1HHhDAnSBWAiNB3GWz5XB",
    "j6QhXGBh4QYHJGhUBNhciIHJhlGhXIJ2hWiELhOQQ-zADBaBBBACABJBDBABAGAEABABABCBBBACABABABABABBB",
    "ACDBGBDBDBABJBQFCBEBQhUBzYB+UDlcAQADABABABADAGBEABBEA"]),
  (["6.2", "v62"],
    "olaA"),
  (["6.3", "v63"],
    "hwcAmyJD"),
  (["7.0", "v70"],
    String.join ["7fAtIHidBjWA0bALFiMAjYAHAzfAhTAiMAjfAnEJioBHxEBsROxZBnNO2FC5WG4FAhiMCKZCfChBDLBHzKG+iVFn",
    "WLLCCBiFAvIejdDlQhPEB02BG6dBTApfbhDAhQhKsFhHIhTLAkQpWJVKHnYheIIuQfhAhGELkJRHDMGhmPAmQhGi",
    "WAMAGTLRBhKjShaFJHCBHCBCVBGBBBECICBCCJAFGCGDEoLiHIJlGhVCRhWiELJyGiSMAuAhYijWhJmKLFAxuLeB",
    "JEBjAdCFKiFKJBGBUFS0jQjKFMDIHJCHq6cmECPh-IAhAVVBwULJAiGAWLhFAFDFLRGiHABAlWAEBhfBEGdRBhIB",
    "iViGBNhPiGJQMDDkMiUhLLEhXIJGhHId"]),
  (["8.0", "v80"],
    String.join ["ilTBhOAwVArAAoEAh0VACFjmAAmLBizAD8+dIh2IAnQAhCFqEBzCDMiP0zOBi1QSBBFElcBCPChN0AhSNhSHFhmJ",
    "DOElAGBABDBOBKiWAiPAzZTpCZDOEPjiZAnGmDn1cyGhi8XKhwX0LPEBOmjdCiOBiPEhEHnfAiLEnTBkLAxfIjHE",
    "hbAhvyfl0B"]),
  (["9.0", "v90"],
    String.join ["ilWHWO8dAmOAECBGXCj4HIrSAhvfDiyEB+rJAoWA2mHB5BhDEhDjqCAuBiZBABAwCMhsTIBhMBNKcDfCVBN05JAf",
    "l-MT3S1oNGBQCGBBBEimViKFJEBihbRkOA5eAhJApMBhBCxCFBHIACLBLEOhGM"]),
  (["10.0", "v100"],
    String.join ["ijAKsRBncFwAAhaBj9aAneD2FA5fAh+SAzSE3EA71HU46CCl2QiHIhTCWBEydGBBBhLDABBBIIJ00HAwhAociRsL",
    "v7EFhjNBhCBwHLTAIHBBZASMhGFhYWh1mJnpQ"]),
  (["11.0", "v110"],
    String.join ["hrAAhHAjGAwNCmTApKAjXAsNAjfAi-TAhgXhKCCj3aCWYEOyLE3AA71bEh9fAIBqEB4pUBSA1XhHIJuGhHIhJrTA",
    "jWCvUApCA1bAnFhbzBA2CFBBBhEBBBFHJpWYz6HiamqSEy3OTjeGmnYiDhjaAhuJAmbDrUCcECDDABDYKNJHBhEY",
    "jAN"]),
  (["12.0", "v120"],
    String.join ["jjXAwOACACABFEAHAHBCANAjxfAj2OAhVAyPA+rKFCE8fB5jYWhjIAyYA3HHChNCKkfBhpahRNAlhQIu4MFEAhPI",
    "iaBmgOFqqYCRDr8YhMDNCJEBrQhZFAhyLA9VhchhOAhrIAhEAnFLpBChPAhRAJAhJFDBKFDHCChQiTcDECFCNF"]),
  (["12.1", "v121"],
    "s3fA"),
  (["13.0", "v130"],
    String.join ["ileJ0NAtOAjcAjpdBkmWA1YC7IEm-WJ0xQMh+KDhKBhVA5bD1xQAjnDhJBCCBnebrbAkGB0KAFBhkeGCACHBBBdB",
    "BCLJJhyWA0hTALBm4BvChKI5gECidChdAhpIBhDBtTBiaAjFAEBhKBGCdAlIAODPSHGJCNGhJkSBhWhFJhq2dG2p",
    "Ck6K"]),
  (["14.0", "v140"],
    String.join ["hwdAySeBBGHVASK7JAhAAjfAixPAHAJAnPA1RNjdAhQBzbA2FAi7OAhPAvTK8sfCh+ABOBBABEYC0+NArdPjfAhO",
    "Bh7QKBOBGBBBKBOBGBBuDFBhJBIh9VZnGFiMAhvWAkGG7JPlmQjCuzdiOBJxpGDBGBBpADnudhNCWJjTxFBjoVe7",
    "RehpRGBDBBBOj2eCoQAsIAiSAlOBhMDKDICRCGHIGhq-HBkiVD"]),
  (["15.0", "v150"],
    String.join ["jnTAuaAighOC5fCileJ-WQBhIDblmVAJc-mcAhCAorKTjiRFoFhdhBAhiAhJkvCAkXCEEiZA0bCPBhECLCBAOBKB",
    "MAOBhviAA3gWkif"]),
  (["15.1", "v151"],
    "r-cDvPAluwAzN"),
  (["16.0", "v160"],
    String.join ["ikXAk1WBhPAoJBh8cCjtaB9vFCMC3vDhTh6MhFDcIBpSChXAhkDJBACABhFBJBACABDBJBBIB3NThmchBOJ7AAlo",
    "Fj8anoFhZjgGhZn8FAv4AnZGtTl4chKEAk1SJEBuHAFAhOAHAVACAJAnBhE"])]

end LogPipeline.Unicode
