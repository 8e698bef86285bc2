/-!
# Characters in texts

What Unicode 17 says about the characters of texts, in packed form: which of them are letters, numbers, cased or
passed over between cased ones, which are not seen, and the full upper- and lowercase forms of those that
have one of their own.
-/

namespace LogPipeline.Unicode

/-- Letters, in the widest sense. -/
def alphabeticData : String :=
  String.join ["iBZGZhPAKAEAFWBeBuJELOEHABAiWAdRBBCDBAGABCBABTBiSBkKIlFBhFCAGhIhHNBABBBBBAIaEDdKFhXBGOjF",
    "BHEHECKCCAQhPNjEYhAJBEAFXCSTYHKFXBGHAIhJKLDGGiLBPBCEONSBHCBCVBGBADDDHCBCBBAIAEBBEMBKAECB",
    "FEBCVBGBBBBBBEEEBCBEAHDBARFLCBIBCBVBGBBBEDIBCBBDAPDVDECBHCBCVBGBBBEDHCBCBJBEBBENAQBBFDCB",
    "DDBBABBDBDCDLEEDCBCDAGAhIMBCBWBPDHBCBCIBBCBBCDcDBHBCBWBJBEDHBCBCIBFCBDNCMMBCBhICHBCBCBAF",
    "DHEWFBCBRDXBIBACGIFBABHSBNhZFGGAhTBBABEBXBABSBCCEBAGAODhAAhfHBhDESEPBhDiDhWBACEQhfKDChFB",
    "AFAChKBqMBDCGBABDChIBDChABDCGBABDCOBhYBDCiChFPQiVCFDzLCQBZFiKDKHTLUMTMMBCBBMhTCSOAEAiDiY",
    "HhKFiFKeBLEIXdCELhLEZhWbEheCThSAXBLChRhTBOBHhThJCDKhLBKOhWWCKhDCKFhKCChJDBFBBDAFlfThBLoV",
    "CFChFCFCHBABABABeChUBGBADCBGDDCFEMFCBGjUANAQMjFAEACJBADEGABABABDBKCDFEEARhI5NhTh4WnEGDDB",
    "MhFBAFAChXHAQWJGBGBGBGBGBGBGBGBfhPAuVCZIHECEEiVGCBiZBDFhKBidRfhQPwAmtfiA10MiDhNCoMDPKBUh",
    "OFHDjQhHICjGCiRUUBhAYhTMiDBAhMFDABCKhAFhCNcDhSBLPAQPKEBhWJNSWDiEBABAYCCPCDLFCFCFJGBGBhKB",
    "NGjaVq9DMWEhQooErNCjJhGGMEFLBMBEBABBBBBjLhBrKShfChVhILjUEBkGhEZGZLiYDFCFCFCChDLBZBSBBBOC",
    "NhCjaiFhUoLcDhQhPfNdFhKFdChDEHBEhKkdShDEhDEhHIhTMKBOBGBBBKBOBGBBDhTMpWJVKHYFBhJBIiFFCABh",
    "LBBDACWKWJeiBSBBKVKZGZhGhXGBiADBBFHBCBchKcDchDHBbbhVKVKSNRjOiIhXhSNhSNhHhCbDAFWnahJBBDBQ",
    "FhSCDcKAIVhKRhOUbWJiFhLEKhYJANYXhSRDIhCDAJhfBDJBKABAhDRBhBCAGDheGBABDBOBJHhYXDBHCBCVBGBB",
    "BEDHCBCBDAGAFGcJBACABhFBJBACABDBBDABAhMiBBCBDUCeiBCBBAlYhVCGZFhCheBADAhbhVCAiHaCNVGlZhYj",
    "HhffHCACHBBBdBBCBCDidHChNCFBABBbhSCJRiHFASiIjHHiYhAfIBhMBGBAhRdCVBNiJGBBBhLDABBBCBACBYFB",
    "BBhEBBBDBAXhLoEWJQBhIDCjPAiP8ZjGjORmDiyMjAPhhPRFZj8aFyGm1ZhOh2RxYHeRiORdShPQDfUFStQhMmTh",
    "fhAYCYhMiKEhYHQiABBAMGJnmVhJfjBjSovdDBGBBBpCPAdCCAODIsLioEjKFMDIHJEAl7BiUBiGBBCACBCDBLBA",
    "BGBiABDCHBGBbBDBEBADGBqTCYBYBeBYBeBYBeBYBeBYBHh5UeGFmVGBQCGBBBEFhdhBAjQhMKGQAqBdShLvEbnE",
    "dCAmPeBVIBnAGBDBBBOBmEhbiDDADAhlUDBaBBBACABJBDBABAGAEABABABCBBBACABABABABABBBACDBGBDBDBA",
    "BJBQFCBEBQzUZGZGZjzWhp2fhAkodCl0NCnpQPzNitCwdhvCk6KFopJ"]

/-- Digits and other characters for numbers. -/
def numericData : String :=
  String.join ["hQJjYBFACChtBJkGJmGJscJjWJEFjMJjWJjWJCFjOMjTJIGjHJjIGHSjNJjAJjWJiGToMJiGJ2PT7RCnPJGJWJpM",
    "JkAKlFJGJlWJiWJkGJGJhgWADFGJmGhSCE2WhbiOVzWdhrJA4JAZIOCqXDkKJeHBOhAJhHO87AJlcJqAFkaJhGJm",
    "GJWJiWJsWJ04WJvNhMMhYRBqVahEDdAIAkGEmKJ9OHZGhHIiLEWFlABCPChNiAIhUBeCiLEjIHYHhJGqKFhQJGJo",
    "WekeJhKDjQGkGdkAJhcJkQJHTnbJqWJjWJrWJjGJGTiMLtESidJ0WJiWcnDJiGJhWJrGJjGUhhLjOvmBJipGJiWJ",
    "kGJBGwOJoGWqdC3nZJhuGTMTjMYhiVhRiqAJtGJvWJnXJ2MIkAJ4XhaBCBDiMhMBO+CMi3DJ"]

/-- Characters that are upper- or lowercase. -/
def casedData : String :=
  String.join ["iBZGZhPAKAEAFWBeBmCBDEmPChCHBeEjAAhKDCBCDBAGABCBABTBiSBkKIlFBhFJhIi4XhFBAFAChKBD1AiVCFik",
    "CKFhKCCiAlfiAoVCFChFCFCHBABABABeChUBGBADCBGDDCFEMFCBGjUANAQMjFAEACJBADEGABABABDBFEACDFEE",
    "ARfDB5RhTh4WnEGDDBMhFBAFA+oShNSdkEjFDDBiMUFBC5VhKBNGiPz6AGMEhgJZGZhlFiPjAhDEhDjUKBOBGBBB",
    "KBOBGBBuDACCBhJBIhmFhSNhSidVKVi4ahf1rAhfhAYCY5pMiUBiGBBCACBCDBLBABGBiABDCHBGBbBDBEBADGBq",
    "TCYBYBeBYBeBYBeBYBeBYBHh5UJBTGFoFhdikSiDh-MZGZGZ"]

/-- Characters that do not interrupt a word when its case is looked at. -/
def caseIgnorableData : String :=
  String.join ["hHAGALAhDABAiHAEABAEACBvXlfEBEAJBBAnbGmPAFAhRhMBABBBBBAhMALFKKBAhDAKUQAjFHBJBDhBABAeaibK",
    "haKEACAYXhLChMAHBFIhJhZhXABAEHEADGKBNAPAhaAEDIAUBaACBhZAEBEBCCDAeBDALBhZAEEBBEAUBWFBAhaA",
    "CABDIAHBLBeAhdAMAhSADAhXABCFCBDHBLBdAhaACAGAFBUBcBhZBEDIAUBdAiIAHCBAiaACGLIjCACIJABGiJBb",
    "ABABAhXNBEBBFKBhDJAjGDBFBBCBZBECQDNACBGAPAieAzAC9SCdBeBeBiABBGIACKDAFAhNEhTAiBBhCAjWCEBJ",
    "AGCmbBCAhaABGBABACHGJCAhHAIhNCLUDhQABEBAFAhIIMBhADCBBChYABBDABChaHCBiAFiSCBMBGEAGADBhShe",
    "NAhCjEtdABCLCNCNCNBMEIBKACACEhREBJBANAQMhThAi8LBjRCjdAPAjAfhPAuVAhEDDEFAidFidC74WAhnCFoO",
    "AjCDBJBAcDiQBOhBiOAXCjGDDBIADAEAZBFAkXBaRNAhGHZKhOChQACDCBRAVBiCFCBCBMAIAhDALAhTABCCBFBB",
    "AbAOBFBBAjEEJCjZACAEAz5QAkTQxdPDAMPhCACAlJAHAGALAhDABAhPAhNBiDAVCwBAnCAkVEhgFFBhJBIyGCBB",
    "FDhICEAlFBxdDhGAaEBApbBYAhUFiGKhRDjbAhWOhJACBKChRDCBCAEAKAhSChEEBHheAMBhUIKDCAifCCABBGAC",
    "AkdADHVBhZBDAhFGDEiGFNABABAOBiVHCCBAXAiUFBAEBBBnODGBBBbBiVHCABBjKABACFBAjFABACDBEoDIBBoA",
    "BBAEAkQDCBEAhAJhIFCDIAJFCChOMBBmGABCBAmJGBFBAiSVCGBBBBjaFDABBBGBAiIBDABAiBAoZBLBhUEFABAX",
    "AlmVQGOrmILDCiuAEhbGJDvcChIBvCAhfQiABBBNBv-cDBGBBjkeBBDkychNCWxACJPCGeDkUCh9bhWEhRIAOAWE",
    "BOhqQGBQCGBBBEFhdhBAlANrQAhdDvbEneBnTACAHBFAJAuQGjNHi1PE4jgBAeifkAnP"]

/-- Characters that are not seen by themselves: controls, formats, unassigned and private ones, separators other than
the blank, fillers, and those that extend the one before them, apart from the halfwidth voicing marks. -/
def hiddenData : String :=
  String.join ["AfifhBMAySjPIBGDHABAUAnAGlGAhGBhSBDhNBABBBBBIbDGQKKBAhOUQAjFHBFCBBDhABBAeciZKBNhLIHCYDBI",
    "BCBGPAZEBALEhAPhKhYhXABAEHEADGKBdACAIBCBWAHABCECBACFCBCABMCADDYEBAGDCBWAHACACACDDXEABGKB",
    "DABLBAJADAWAHACAFCEHBACCBOCDMGBHCAIBCBWAHACAFCBBBFCBCOCADDSKBAGCDAECCABACCCCDCMEBACCDADC",
    "BUVFDAIADAXAQCBCESDACBCDKGKALADAXAKAFCCBBACWDACDKADNLADAhJBBACEDADACDDAKDaBCASCYAJABBHIC",
    "FHGKBDLhQACKIHNhECABAFAYABAKACIBBFABIKBEfYBbABABAOAhERBEBBFhQIAGANhEhNDBFBBCBZBECQDNACBG",
    "APAhIABEBBkPBnIAEBHABAEBhJAEBhBAEBHABAEBPAhZAEBiDEdCaFiWBGB0AAcCiZGSMTCCISNNADOhUBBGIACK",
    "JCKFKFLEKFiZGFBhCABEiGJfDEBDDCAGGBChKBFKhMDaFLChZBCChYABIBACHGMKFKFOiVhQJECIAdIMBhADCFhY",
    "ABBDABMhQHCEPCheEhLBLKBMBGEAGADBBEmAhfoWBGBhGBGBIABABABAfBhVAPAOBGATBDAJQYHhPQCBbANChChd",
    "kMD0aVLUh4UBrZCCEhNABEBBhYGCOXIHAHAHAHAHAHAHAHhAiehBaAiZLmWZQAhJFQAiWDjFEhLAhTAhKAiWIhQA",
    "8zNChXIqcThPDBJhABiQBGHmdTRADAEAZBFDKFhYHiEJMXNAhGHZKBLeFhQACDCBCANALDHAZAhJFCBCKDAIABBK",
    "BhAAhTABCCBFBBABXRBIKGBGBGIHAHAhcDjVACAECKFq9ELXDhRDigAmnfrOBjKhFHLFEBAYAFABACACA0KfQPKV",
    "hDATAEDFAkHDkfAeCGBGBGBDCHAHMCBMAaATACAPBOhBjbEDDhNCiYANCBhOhNkCdChRPbDhEIeEhGJeAhFDOhJk",
    "eBKFhEDhEDhIHhUKMAPAHACALAPAHACChULpXIWJIXGAhKAJiEGBBAhMACCBBXAiIHJhPTACEhBCbEbhFhYDUBhP",
    "OEADAdJJGJGiAfhFFMIhWCdBbEaGELHiPiJhWhTMhTGhKLKFhGHYHCmPfAhKCBBCPGHJhGhIHWKJVSDEhFcTXIBA",
    "hWOHDeACBBLhRDCBCAENZGKIhEEBISHhDADKhUIBAIDCAQAUKSAcCCDGACheHABAEAPALFhPADMKHCAIBCBWAHAC",
    "AFCBABAEBCBCCBLHbKABBBAhGABACOBACCBADAChGhYHCCBAVABADdhQACFBACABBBBEHKlFhPACFEBBBbhDhTHC",
    "ABBEKKFNShLABACHCFKFUbbCBACDBIXlYhPIBBBjDiTLIBBBIACAYAFACFEADIKiFIBhKHEAEaBJhIFCDIIBFCCh",
    "OMBBJMiJGKiWBCBABiXhCNKFJAhGNBAGJdChAYBGBBBiKHACAhGUBIKFGACAhFDCABABGKFhMDKnVTBEIPAhEHCC",
    "XiVBOhSM8bjFjPAFKmEiyLjDMhhQQGYj8bEyHm1YeLDCKh2FxZGfAKDiRAKFeGBJhQGPJKAHAVETtPhamFibEZBZ",
    "hLiLEhYKNhfENFInmWhIhAjAjTovcEAHACApDOBcDBBNEHsMioDjLENCJGKBBBBj6fndCtUFXORiejUhbnWJhHBh",
    "cEDVCGeDhdUiCCBjZULULiXIZkGiVAiHACBBBCBEAMABAHAiBAEBIAHAcAEAFABCHAqUBpEBxShWEhRIAOAHhjTf",
    "FGoEhekRhNJHBKDCpfeRhMDKEBuPcDKmVeBLDBlffADACAHBFICmfHAEACAPAmFBJhPiEGBDKDC4QiEiLhdmBEAb",
    "ACABBBAKAEABABFBDBABABADACABBBABABABABACABBEAHAEAEABAKAREDAFARhTCoNhMDjELPBPAPAhFJlOhXdM",
    "hMDJGCNGkZ+ZCRCNCmaFMDBOMDhYHKFhIHeBMDCNJhGqYHOBNCLChZABDQBMDKGkTAjHhgEhp3AfkoeBl0OBnpRO",
    "zOitBwehvBk6LEopK7y8F"]

/-- For each character with an uppercase form of its own: its distance from the one before, the
length of the form, and the distance of each character of the form from it (twice the distance, less
one when it is negative). -/
def uppercaseData : String :=
  String.join ["jBBhfBBhfBBhfBBhfBBhfBBhfBBhfBBhfBBhfBBhfBBhfBBhfBBhfBBhfBBhfBBhfBBhfBBhfBBhfBBhfBBhfBBh",
    "fBBhfBBhfBBhfBBhfhbBhuOhKCoXoXBBhfBBhfBBhfBBhfBBhfBBhfBBhfBBhfBBhfBBhfBBhfBBhfBBhfBBhfBB",
    "hfBBhfBBhfBBhfBBhfBBhfBBhfBBhfBBhfCBhfBBhfBBhfBBhfBBhfBBhfBBhfBBnSCBBCBBCBBCBBCBBCBBCBBC",
    "BBCBBCBBCBBCBBCBBCBBCBBCBBCBBCBBCBBCBBCBBCBBCBBCBBCBuPCBBCBBCBBDBBCBBCBBCBBCBBCBBCBBCBBB",
    "C3GvVCBBCBBCBBCBBCBBCBBCBBCBBCBBCBBCBBCBBCBBCBBCBBCBBCBBCBBCBBCBBCBBCBBCBBDBBCBBCBBBByXB",
    "BsGDBBCBBDBBEBBGBBDBmCEBBBBqGBBizkCDBoEDBBCBBCBBDBBFBBDBBEBBCBBDBBEBBCBjQGBBBBDCBBBBDCBB",
    "BBDCBBCBBCBBCBBCBBCBBCBBCBBBBkdCBBCBBCBBCBBCBBCBBCBBCBBCBBBC6LxYCBBBBDCBBEBBCBBCBBCBBCBB",
    "CBBCBBCBBCBBCBBCBBCBBCBBCBBCBBCBBCBBCBBCBBCBBEBBCBBCBBCBBCBBCBBCBBCBBCBBJBBDB1jeBB1jeCBB",
    "FBBCBBCBBCBBCBBBB1heBB1hYBB1hcBBtDBBsbCBsZBBsZCBsTCBsVBBiy0eEBsZBBiy0WCBsdBBiy2OBBiyyQBB",
    "iy0ICBtBBBtFBBiy0IBB0-OBBiy0CDBtFCB0-aBBtJDBtLIB0+ODBtTCBiy0GBBtTEBiyyUBBtTBBkJBBtRBBtRB",
    "BkNGBtVLBiyxKBBiyxElHBlIhMBBCBBEBBEBoEBBoEBBoETDSoPodcBiLBBiJBBiJBBiJBDVqPqdBBhfBBhfBBhf",
    "BBhfBBhfBBhfBBhfBBhfBBhfBBhfBBhfBBhfBBhfBBhfBBhfBBhfBBhfBBhdBBhfBBhfBBhfBBhfBBhfBBhfBBhf",
    "BBhfBBhfBBjfBBjdBBjdCBjbBBjREBidBBjLBBPCBBCBBCBBCBBCBBCBBCBBCBBCBBCBBCBBCBBBBlLBBkfBBOBB",
    "nHCBlfDBBDBBhVBhfBBhfBBhfBBhfBBhfBBhfBBhfBBhfBBhfBBhfBBhfBBhfBBhfBBhfBBhfBBhfBBhfBBhfBBh",
    "fBBhfBBhfBBhfBBhfBBhfBBhfBBhfBBhfBBhfBBhfBBhfBBhfBBhfBBkfBBkfBBkfBBkfBBkfBBkfBBkfBBkfBBk",
    "fBBkfBBkfBBkfBBkfBBkfBBkfBBkfCBBCBBCBBCBBCBBCBBCBBCBBCBBCBBCBBCBBCBBCBBCBBCBBCBBKBBCBBCB",
    "BCBBCBBCBBCBBCBBCBBCBBCBBCBBCBBCBBCBBCBBCBBCBBCBBCBBCBBCBBCBBCBBCBBCBBCBBDBBCBBCBBCBBCBB",
    "CBBCBBBBdCBBCBBCBBCBBCBBCBBCBBCBBCBBCBBCBBCBBCBBCBBCBBCBBCBBCBBCBBCBBCBBCBBCBBCBBCBBCBBC",
    "BBCBBCBBCBBCBBCBBCBBCBBCBBCBBCBBCBBCBBCBBCBBCBBCBBCBBCBBCBBCBBCBBhSBifBBifBBifBBifBBifBB",
    "ifBBifBBifBBifBBifBBifBBifBBifBBifBBifBBifBBifBBifBBifBBifBBifBBifBBifBBifBBifBBifBBifBB",
    "ifBBifBBifBBifBBifBBifBBifBBifBBifBBifBBifBClDjJi6JBl8ABBl8ABBl8ABBl8ABBl8ABBl8ABBl8ABBl",
    "8ABBl8ABBl8ABBl8ABBl8ABBl8ABBl8ABBl8ABBl8ABBl8ABBl8ABBl8ABBl8ABBl8ABBl8ABBl8ABBl8ABBl8AB",
    "Bl8ABBl8ABBl8ABBl8ABBl8ABBl8ABBl8ABBl8ABBl8ABBl8ABBl8ABBl8ABBl8ABBl8ABBl8ABBl8ABBl8ABBl8",
    "ADBl8ABBl8ABBl8A3ZBPBBPBBPBBPBBPBBPikDBsmbBBsmZBBsmHBBsmDBBsmDBBsmFBBslXBBsiJBBik8ECBBnP",
    "BilgIEBnuMRBiljQjTBBCBBCBBCBBCBBCBBCBBCBBCBBCBBCBBCBBCBBCBBCBBCBBCBBCBBCBBCBBCBBCBBCBBCB",
    "BCBBCBBCBBCBBCBBCBBCBBCBBCBBCBBCBBCBBCBBCBBCBBCBBCBBCBBCBBCBBCBBCBBCBBCBBCBBCBBCBBCBBCBB",
    "CBBCBBCBBCBBCBBCBBCBBCBBCBBCBBCBBCBBCBBCBBCBBCBBCBBCBBCBBCBBCBBCBBBCvkbt2JBCvkFt4dBCvkBt",
    "4bBCvjft4dBCvlRt9XBBjVGBBCBBCBBCBBCBBCBBCBBCBBCBBCBBCBBCBBCBBCBBCBBCBBCBBCBBCBBCBBCBBCBB",
    "CBBCBBCBBCBBCBBCBBCBBCBBCBBCBBCBBCBBCBBCBBCBBCBBCBBCBBCBBCBBCBBCBBCBBCBBCBBCBBBBQBBQBBQB",
    "BQBBQBBQBBQBBQJBQBBQBBQBBQBBQBBQLBQBBQBBQBBQBBQBBQBBQBBQJBQBBQBBQBBQBBQBBQBBQBBQJBQBBQBB",
    "QBBQBBQBBQLCt6VujZBBQBDt6ZujdulDBBQBDt6dukBulFBBQBDt7BukFuhHBBQJBQBBQBBQBBQBBQBBQBBQBBQJ",
    "BkUBBkUBBlMBBlMBBlMBBlMBBmIBBmIBBoABBoABBnABBnABBncBBncDCnPt+NBCnPt+PBCnPt+RBCnPt+TBCnPt",
    "+VBCnPt+XBCnPt+ZBCnPt+bBCnft+dBCnft+fBCnft-BBCnft-DBCnft-FBCnft-HBCnft-JBCnft-LBCmPt-NBC",
    "mPt-PBCmPt-RBCmPt-TBCmPt-VBCmPt-XBCmPt-ZBCmPt-bBCmft-dBCmft-fBCmfugBBCmfugDBCmfugFBCmfug",
    "HBCmfugJBCmfugLBCjPugNBCjPugPBCjPugRBCjPugTBCjPugVBCjPugXBCjPugZBCjPugbBCjfugdBCjfugfBCj",
    "fuhBBCjfuhDBCjfuhFBCjfuhHBCjfuhJBCjfuhLBBQBBQBCQuhRBCuiDuhTBCuibuhVCCuiJunHBDuiLunJuhbFC",
    "uiVuiFCBuiJECQuiRBCuiXuiTBCujVuiVCCuiduoHBDuifuoJuibFCujJujFEBQBBQBDujRusTutDBDujTusVutD",
    "DCujZupHBDujbusdupJJBQBBQBDujZutTuuDBDujbutVuuDBCukFutBBBOBCukBuqHBDukDutduqJLCQulRBCukT",
    "ulTBCumJulVCCukZurHBDukburJulbFCulFumFqSBhXhCBfBBfBBfBBfBBfBBfBBfBBfBBfBBfBBfBBfBBfBBfBB",
    "fBBfFBB6MBhTBBhTBBhTBBhTBBhTBBhTBBhTBBhTBBhTBBhTBBhTBBhTBBhTBBhTBBhTBBhTBBhTBBhTBBhTBBhT",
    "BBhTBBhTBBhTBBhTBBhTBBhTh6HBifBBifBBifBBifBBifBBifBBifBBifBBifBBifBBifBBifBBifBBifBBifBB",
    "ifBBifBBifBBifBBifBBifBBifBBifBBifBBifBBifBBifBBifBBifBBifBBifBBifBBifBBifBBifBBifBBifBB",
    "ifBBifBBifBBifBBifBBifBBifBBifBBifBBifBBifCBBEB1iVBB1iPCBBCBBCBBHBBDBBLBBCBBCBBCBBCBBCBB",
    "CBBCBBCBBCBBCBBCBBCBBCBBCBBCBBCBBCBBCBBCBBCBBCBBCBBCBBCBBCBBCBBCBBCBBCBBCBBCBBCBBCBBCBBC",
    "BBCBBCBBCBBCBBCBBCBBCBBCBBCBBCBBCBBCBBCBBCBBJBBCBBFBBNBulfBBulfBBulfBBulfBBulfBBulfBBulf",
    "BBulfBBulfBBulfBBulfBBulfBBulfBBulfBBulfBBulfBBulfBBulfBBulfBBulfBBulfBBulfBBulfBBulfBBu",
    "lfBBulfBBulfBBulfBBulfBBulfBBulfBBulfBBulfBBulfBBulfBBulfBBulfBBulfCBulfGBulf+oUBBCBBCBB",
    "CBBCBBCBBCBBCBBCBBCBBCBBCBBCBBCBBCBBCBBCBBCBBCBBCBBCBBCBBCBBUBBCBBCBBCBBCBBCBBCBBCBBCBBC",
    "BBCBBCBBCBBCBBkIBBCBBCBBCBBCBBCBBCBBEBBCBBCBBCBBCBBCBBCBBCBBCBBCBBCBBCBBCBBCBBCBBCBBCBBC",
    "BBCBBCBBCBBCBBCBBCBBCBBCBBCBBCBBCBBCBBCBBLBBCBBDBBCBBCBBCBBCBBFBBFBBCBBBBjADBBCBBCBBCBBC",
    "BBCBBCBBCBBCBBCBBMBBCBBCBBCBBCBBCBBCBBCBBFBBCBBDBBCBBCBBCBBCBBCBBCBBCBBbBB6dBh5fdBir8fBB",
    "ir8fBBir8fBBir8fBBir8fBBir8fBBir8fBBir8fBBir8fBBir8fBBir8fBBir8fBBir8fBBir8fBBir8fBBir8f",
    "BBir8fBBir8fBBir8fBBir8fBBir8fBBir8fBBir8fBBir8fBBir8fBBir8fBBir8fBBir8fBBir8fBBir8fBBir",
    "8fBBir8fBBir8fBBir8fBBir8fBBir8fBBir8fBBir8fBBir8fBBir8fBBir8fBBir8fBBir8fBBir8fBBir8fBB",
    "ir8fBBir8fBBir8fBBir8fBBir8fBBir8fBBir8fBBir8fBBir8fBBir8fBBir8fBBir8fBBir8fBBir8fBBir8f",
    "BBir8fBBir8fBBir8fBBir8fBBir8fBBir8fBBir8fBBir8fBBir8fBBir8fBBir8fBBir8fBBir8fBBir8fBBir",
    "8fBBir8fBBir8fBBir8fBBir8fBBir8fz6BCj9rTj9rTBCj9rVj9rPBCj9rXj9rLBDj9rZj9rZj9rTBDj9rbj9rb",
    "j9rPBCj9rDj9rBBCj9rFj9rDNCj68dj68ZBCj68fj69dBCj69Bj69TBCj68Pj68fBCj69Fj69ThhKBhfBBhfBBhf",
    "BBhfBBhfBBhfBBhfBBhfBBhfBBhfBBhfBBhfBBhfBBhfBBhfBBhfBBhfBBhfBBhfBBhfBBhfBBhfBBhfBBhfBBhf",
    "BBhfhmOBiPBBiPBBiPBBiPBBiPBBiPBBiPBBiPBBiPBBiPBBiPBBiPBBiPBBiPBBiPBBiPBBiPBBiPBBiPBBiPBB",
    "iPBBiPBBiPBBiPBBiPBBiPBBiPBBiPBBiPBBiPBBiPBBiPBBiPBBiPBBiPBBiPBBiPBBiPBBiPBBiPkJBiPBBiPB",
    "BiPBBiPBBiPBBiPBBiPBBiPBBiPBBiPBBiPBBiPBBiPBBiPBBiPBBiPBBiPBBiPBBiPBBiPBBiPBBiPBBiPBBiPB",
    "BiPBBiPBBiPBBiPBBiPBBiPBBiPBBiPBBiPBBiPBBiPBBiPkcBiNBBiNBBiNBBiNBBiNBBiNBBiNBBiNBBiNBBiN",
    "BBiNCBiNBBiNBBiNBBiNBBiNBBiNBBiNBBiNBBiNBBiNBBiNBBiNBBiNBBiNBBiNCBiNBBiNBBiNBBiNBBiNBBiN",
    "BBiNCBiNBBiNh4EBjfBBjfBBjfBBjfBBjfBBjfBBjfBBjfBBjfBBjfBBjfBBjfBBjfBBjfBBjfBBjfBBjfBBjfBB",
    "jfBBjfBBjfBBjfBBjfBBjfBBjfBBjfBBjfBBjfBBjfBBjfBBjfBBjfBBjfBBjfBBjfBBjfBBjfBBjfBBjfBBjfBB",
    "jfBBjfBBjfBBjfBBjfBBjfBBjfBBjfBBjfBBjfBBjfjeBhfBBhfBBhfBBhfBBhfBBhfBBhfBBhfBBhfBBhfBBhfB",
    "BhfBBhfBBhfBBhfBBhfBBhfBBhfBBhfBBhfBBhfBBhfi5bBhfBBhfBBhfBBhfBBhfBBhfBBhfBBhfBBhfBBhfBBh",
    "fBBhfBBhfBBhfBBhfBBhfBBhfBBhfBBhfBBhfBBhfBBhfBBhfBBhfBBhfBBhfBBhfBBhfBBhfBBhfBBhfBBhf1sB",
    "BhfBBhfBBhfBBhfBBhfBBhfBBhfBBhfBBhfBBhfBBhfBBhfBBhfBBhfBBhfBBhfBBhfBBhfBBhfBBhfBBhfBBhfB",
    "BhfBBhfBBhfBBhfBBhfBBhfBBhfBBhfBBhfBBhfhcBhVBBhVBBhVBBhVBBhVBBhVBBhVBBhVBBhVBBhVBBhVBBhV",
    "BBhVBBhVBBhVBBhVBBhVBBhVBBhVBBhVBBhVBBhVBBhVBBhVBBhV+yPBiDBBiDBBiDBBiDBBiDBBiDBBiDBBiDBB",
    "iDBBiDBBiDBBiDBBiDBBiDBBiDBBiDBBiDBBiDBBiDBBiDBBiDBBiDBBiDBBiDBBiDBBiDBBiDBBiDBBiDBBiDBB",
    "iDBBiDBBiDBBiD"]

/-- The lowercase forms, written like `uppercaseData`. A capital sigma has its non-final form. -/
def lowercaseData : String :=
  String.join ["iBBiABBiABBiABBiABBiABBiABBiABBiABBiABBiABBiABBiABBiABBiABBiABBiABBiABBiABBiABBiABBiABBi",
    "ABBiABBiABBiABBiAjGBiABBiABBiABBiABBiABBiABBiABBiABBiABBiABBiABBiABBiABBiABBiABBiABBiABB",
    "iABBiABBiABBiABBiABBiACBiABBiABBiABBiABBiABBiABBiAhCBCCBCCBCCBCCBCCBCCBCCBCCBCCBCCBCCBCC",
    "BCCBCCBCCBCCBCCBCCBCCBCCBCCBCCBCCBCCCsN9OCBCCBCCBCDBCCBCCBCCBCCBCCBCCBCCBCDBCCBCCBCCBCCB",
    "CCBCCBCCBCCBCCBCCBCCBCCBCCBCCBCCBCCBCCBCCBCCBCCBCCBCCBCCBnRBBCCBCCBCEBtEBBCCBCCBscBBCCBs",
    "aBBsaBBCDBkeBBsUBBsWBBCCBsaBBseCBtGBBtCBBCEBtGBBtKCBtMBBCCBCCBCCBtUBBCCBtUDBCCBtUBBCCBtS",
    "BBtSBBCCBCCBtWBBCEBCIBEBBCCBEBBCCBEBBCCBCCBCCBCCBCCBCCBCCBCCBCDBCCBCCBCCBCCBCCBCCBCCBCCB",
    "CDBEBBCCBCCBmBBBjPBBCCBCCBCCBCCBCCBCCBCCBCCBCCBCCBCCBCCBCCBCCBCCBCCBCCBCCBCCBCCBoDCBCCBC",
    "CBCCBCCBCCBCCBCCBCCBCIB1iWBBCCBqFBB1iQDBCCBsFBBkKBBkOBBCCBCCBCCBCCBCpCBCCBCEBCJBnIHBiMCB",
    "iKBBiKBBiKCBkACBjeBBjeCBiABBiABBiABBiABBiABBiABBiABBiABBiABBiABBiABBiABBiABBiABBiABBiABB",
    "iACBiABBiABBiABBiABBiABBiABBiABBiABBiAhEBQJBCCBCCBCCBCCBCCBCCBCCBCCBCCBCCBCCBCGBjXDBCCBN",
    "BBCDBoDBBoDBBoDBBlABBlABBlABBlABBlABBlABBlABBlABBlABBlABBlABBlABBlABBlABBlABBlABBiABBiAB",
    "BiABBiABBiABBiABBiABBiABBiABBiABBiABBiABBiABBiABBiABBiABBiABBiABBiABBiABBiABBiABBiABBiAB",
    "BiABBiABBiABBiABBiABBiABBiABBiAhRBCCBCCBCCBCCBCCBCCBCCBCCBCCBCCBCCBCCBCCBCCBCCBCCBCKBCCB",
    "CCBCCBCCBCCBCCBCCBCCBCCBCCBCCBCCBCCBCCBCCBCCBCCBCCBCCBCCBCCBCCBCCBCCBCCBCCBCCBeBBCCBCCBC",
    "CBCCBCCBCCBCDBCCBCCBCCBCCBCCBCCBCCBCCBCCBCCBCCBCCBCCBCCBCCBCCBCCBCCBCCBCCBCCBCCBCCBCCBCC",
    "BCCBCCBCCBCCBCCBCCBCCBCCBCCBCCBCCBCCBCCBCCBCCBCCBCCBCCBCCBCCBCCBCCBCDBjABBjABBjABBjABBjA",
    "BBjABBjABBjABBjABBjABBjABBjABBjABBjABBjABBjABBjABBjABBjABBjABBjABBjABBjABBjABBjABBjABBjA",
    "BBjABBjABBjABBjABBjABBjABBjABBjABBjABBjABBjAi6KBumABBumABBumABBumABBumABBumABBumABBumABB",
    "umABBumABBumABBumABBumABBumABBumABBumABBumABBumABBumABBumABBumABBumABBumABBumABBumABBumA",
    "BBumABBumABBumABBumABBumABBumABBumABBumABBumABBumABBumABBumACBumAGBumA2TBir9ABBir9ABBir9",
    "ABBir9ABBir9ABBir9ABBir9ABBir9ABBir9ABBir9ABBir9ABBir9ABBir9ABBir9ABBir9ABBir9ABBir9ABBi",
    "r9ABBir9ABBir9ABBir9ABBir9ABBir9ABBir9ABBir9ABBir9ABBir9ABBir9ABBir9ABBir9ABBir9ABBir9AB",
    "Bir9ABBir9ABBir9ABBir9ABBir9ABBir9ABBir9ABBir9ABBir9ABBir9ABBir9ABBir9ABBir9ABBir9ABBir9",
    "ABBir9ABBir9ABBir9ABBir9ABBir9ABBir9ABBir9ABBir9ABBir9ABBir9ABBir9ABBir9ABBir9ABBir9ABBi",
    "r9ABBir9ABBir9ABBir9ABBir9ABBir9ABBir9ABBir9ABBir9ABBir9ABBir9ABBir9ABBir9ABBir9ABBir9AB",
    "Bir9ABBir9ABBir9ABBir9ABBQBBQBBQBBQBBQBBQikUBCHBl7fBBl7fBBl7fBBl7fBBl7fBBl7fBBl7fBBl7fBB",
    "l7fBBl7fBBl7fBBl7fBBl7fBBl7fBBl7fBBl7fBBl7fBBl7fBBl7fBBl7fBBl7fBBl7fBBl7fBBl7fBBl7fBBl7f",
    "BBl7fBBl7fBBl7fBBl7fBBl7fBBl7fBBl7fBBl7fBBl7fBBl7fBBl7fBBl7fBBl7fBBl7fBBl7fBBl7fBBl7fDBl",
    "7fBBl7fBBl7fqBBCCBCCBCCBCCBCCBCCBCCBCCBCCBCCBCCBCCBCCBCCBCCBCCBCCBCCBCCBCCBCCBCCBCCBCCBC",
    "CBCCBCCBCCBCCBCCBCCBCCBCCBCCBCCBCCBCCBCCBCCBCCBCCBCCBCCBCCBCCBCCBCCBCCBCCBCCBCCBCCBCCBCC",
    "BCCBCCBCCBCCBCCBCCBCCBCCBCCBCCBCCBCCBCCBCCBCCBCCBCCBCCBCCBCCBCKBu7dCBCCBCCBCCBCCBCCBCCBC",
    "CBCCBCCBCCBCCBCCBCCBCCBCCBCCBCCBCCBCCBCCBCCBCCBCCBCCBCCBCCBCCBCCBCCBCCBCCBCCBCCBCCBCCBCC",
    "BCCBCCBCCBCCBCCBCCBCCBCCBCCBCCBCCBCKBPBBPBBPBBPBBPBBPBBPBBPJBPBBPBBPBBPBBPBBPLBPBBPBBPBB",
    "PBBPBBPBBPBBPJBPBBPBBPBBPBBPBBPBBPBBPJBPBBPBBPBBPBBPBBPMBPCBPCBPCBPJBPBBPBBPBBPBBPBBPBBP",
    "BBPZBPBBPBBPBBPBBPBBPBBPBBPJBPBBPBBPBBPBBPBBPBBPBBPJBPBBPBBPBBPBBPBBPBBPBBPJBPBBPBBkTBBk",
    "TBBRMBlLBBlLBBlLBBlLBBRMBPBBPBBmHBBmHNBPBBPBBmfBBmfBBNMBnfBBnfBBnbBBnbBBRpKBu1ZEBwrdBBwk",
    "LHBhYhOBhABBhABBhABBhABBhABBhABBhABBhABBhABBhABBhABBhABBhABBhABBhABBhAUBC5TBhUBBhUBBhUBB",
    "hUBBhUBBhUBBhUBBhUBBhUBBhUBBhUBBhUBBhUBBhUBBhUBBhUBBhUBBhUBBhUBBhUBBhUBBhUBBhUBBhUBBhUBB",
    "hUh5RBjABBjABBjABBjABBjABBjABBjABBjABBjABBjABBjABBjABBjABBjABBjABBjABBjABBjABBjABBjABBjA",
    "BBjABBjABBjABBjABBjABBjABBjABBjABBjABBjABBjABBjABBjABBjABBjABBjABBjABBjABBjABBjABBjABBjA",
    "BBjABBjABBjABBjABBjAhRBCCB0-NBBnuLBB0+NDBCCBCCBCCB1hXBB0-ZBB1hdBB1hbCBCDBCJB1jdBB1jdBBCC",
    "BCCBCCBCCBCCBCCBCCBCCBCCBCCBCCBCCBCCBCCBCCBCCBCCBCCBCCBCCBCCBCCBCCBCCBCCBCCBCCBCCBCCBCCB",
    "CCBCCBCCBCCBCCBCCBCCBCCBCCBCCBCCBCCBCCBCCBCCBCCBCCBCCBCCBCJBCCBCFBC+qOBCCBCCBCCBCCBCCBCC",
    "BCCBCCBCCBCCBCCBCCBCCBCCBCCBCCBCCBCCBCCBCCBCCBCCBCUBCCBCCBCCBCCBCCBCCBCCBCCBCCBCCBCCBCCB",
    "CCBCkIBCCBCCBCCBCCBCCBCCBCEBCCBCCBCCBCCBCCBCCBCCBCCBCCBCCBCCBCCBCCBCCBCCBCCBCCBCCBCCBCCB",
    "CCBCCBCCBCCBCCBCCBCCBCCBCCBCCBCLBCCBCCBilgHBBCCBCCBCCBCCBCFBCCBiyyPDBCCBCEBCCBCCBCCBCCBC",
    "CBCCBCCBCCBCCBCCBiy0HBBiy0dBBiy0VBBiy0BBBiy0HCBiyxDBBiyyTBBiyxJBBh6ABBCCBCCBCCBCCBCCBCCB",
    "CCBCCBifBBiy0FBBiljPBBCCBCCBiy2NBBCCBCCBCCBCCBCCBCCBCCBCCBizkBZBC15MBiABBiABBiABBiABBiAB",
    "BiABBiABBiABBiABBiABBiABBiABBiABBiABBiABBiABBiABBiABBiABBiABBiABBiABBiABBiABBiABBiAhmGBi",
    "QBBiQBBiQBBiQBBiQBBiQBBiQBBiQBBiQBBiQBBiQBBiQBBiQBBiQBBiQBBiQBBiQBBiQBBiQBBiQBBiQBBiQBBi",
    "QBBiQBBiQBBiQBBiQBBiQBBiQBBiQBBiQBBiQBBiQBBiQBBiQBBiQBBiQBBiQBBiQBBiQkJBiQBBiQBBiQBBiQBB",
    "iQBBiQBBiQBBiQBBiQBBiQBBiQBBiQBBiQBBiQBBiQBBiQBBiQBBiQBBiQBBiQBBiQBBiQBBiQBBiQBBiQBBiQBB",
    "iQBBiQBBiQBBiQBBiQBBiQBBiQBBiQBBiQBBiQkdBiOBBiOBBiOBBiOBBiOBBiOBBiOBBiOBBiOBBiOBBiOCBiOB",
    "BiOBBiOBBiOBBiOBBiOBBiOBBiOBBiOBBiOBBiOBBiOBBiOBBiOBBiOCBiOBBiOBBiOBBiOBBiOBBiOBBiOCBiOB",
    "BiOh3LBkABBkABBkABBkABBkABBkABBkABBkABBkABBkABBkABBkABBkABBkABBkABBkABBkABBkABBkABBkABBk",
    "ABBkABBkABBkABBkABBkABBkABBkABBkABBkABBkABBkABBkABBkABBkABBkABBkABBkABBkABBkABBkABBkABBk",
    "ABBkABBkABBkABBkABBkABBkABBkABBkAkeBiABBiABBiABBiABBiABBiABBiABBiABBiABBiABBiABBiABBiABB",
    "iABBiABBiABBiABBiABBiABBiABBiABBiAi5bBiABBiABBiABBiABBiABBiABBiABBiABBiABBiABBiABBiABBiA",
    "BBiABBiABBiABBiABBiABBiABBiABBiABBiABBiABBiABBiABBiABBiABBiABBiABBiABBiABBiA1sBBiABBiABB",
    "iABBiABBiABBiABBiABBiABBiABBiABBiABBiABBiABBiABBiABBiABBiABBiABBiABBiABBiABBiABBiABBiABB",
    "iABBiABBiABBiABBiABBiABBiABBiAiBBhWBBhWBBhWBBhWBBhWBBhWBBhWBBhWBBhWBBhWBBhWBBhWBBhWBBhWB",
    "BhWBBhWBBhWBBhWBBhWBBhWBBhWBBhWBBhWBBhWBBhW+yIBiEBBiEBBiEBBiEBBiEBBiEBBiEBBiEBBiEBBiEBBi",
    "EBBiEBBiEBBiEBBiEBBiEBBiEBBiEBBiEBBiEBBiEBBiEBBiEBBiEBBiEBBiEBBiEBBiEBBiEBBiEBBiEBBiEBBi",
    "EBBiE"]

end LogPipeline.Unicode
