/-!
# Folding classes

The classes of characters that the simple case folding of Unicode 16 identifies, in packed form.
-/

namespace LogPipeline.Unicode

/-- For each folding class: the distance of its first member from that of the class before, its
size, and the distances between its members. -/
def foldingData : String :=
  String.join ["iBChABChABChABChABChABChABChABChABChABChABDhAolfBChABChABChABChABChABChABChABDhAoMBChABC",
    "hABChABChABChABChABChAibD3HhALChABChABChABChABChABDhAoiGBChABChABChABChABChABChABChABChA",
    "BChABChABChABChABChABChABChABChABChACChABChABChABChABChABChABChABCntfhACjZBCBCCBCCBCCBCC",
    "BCCBCCBCCBCCBCCBCCBCCBCCBCCBCCBCCBCCBCCBCCBCCBCCBCCBCCBCCBECBCCBCCBDCBCCBCCBCCBCCBCCBCCB",
    "CCBDCBCCBCCBCCBCCBCCBCCBCCBCCBCCBCCBCCBCCBCCBCCBCCBCCBCCBCCBCCBCCBCCBCCBDCBCCBCCBDCmDBCm",
    "SBCBCCBCCmOBCBCCmNBCmNBCBDCiPBCmKBCmLBCBCCmNBCmPBCjBBCmTBCmRBCBCClDBChpyBBCmTBCmVBCkCBCm",
    "WBCBCCBCCBCCmaBCBCCmaDCBCCmaBCBCCmZBCmZBCBCCBCCmbBCBECBDChYFDBBDDBBDDBBDCBCCBCCBCCBCCBCC",
    "BCCBCCBDCBCCBCCBCCBCCBCCBCCBCCBCCBDDBBDCBECBCCBCCBCCBCCBCCBCCBCCBCCBCCBCCBCCBCCBCCBCCBCC",
    "BCCBCCBCCBCCBECBCCBCCBCCBCCBCCBCCBCCBCCBICqxLBCBDCqxIBCqxfBCqxfBCBDCiFBCiHBCBCCBCCBCCBCC",
    "BCCqwfBCqwcBCqweKChpqPFChpqLDChprHBChppIBChpqEEChpqEBCqvXBChpqBFCqvdMCqvHFChpqDFChppKWCh",
    "poVBChpoSlHEiUhAngFhLCBCCBECBFCkCBCkCBCkCCCjUHChGCChFBChFBChFCCiACChfBChfBCniDBChABDhAeB",
    "ChABChABDhAiABChABChABEhAZhDCDhAhWBChACChABChABChABDhAWBDhAhQCDfBBChABChABDhAPBChABChABD",
    "hAnqdBChABChAFCnhTfCIJCBCCBCCBCCBCCBCCBCCBCCBCCBCCBCCBCCBECHFCBDCBGCiQBCiQBCiQBCiQBCiQBC",
    "iQBCiQBCiQBCiQBCiQBCiQBCiQBCiQBCiQBCiQBCiQBChABChABDhAmiOBChABDhAmiNBChABChABChABChABChA",
    "BChABChABChABChABDhAmiEBChABChABDhAmiCBEhAmiCBBChABChABChABChABChABChABChABDhAmhcBChABCh",
    "ABChABChABChAhRCBCDBmhECCBCCBCCBCCBCCBCCBCCBCCBCCBCCBCCBCCBCCBCCBCCBKCBCCBCCBCCBCCBCCBCC",
    "BCCBCCBCCBCCBCCBCCBCCBCCBCCBCCBCCBCCBCCBCCBCCBCCBCCBCCBCCBCCBCCPBCBCCBCCBCCBCCBCCBCCBDCB",
    "CCBCCBCCBCCBCCBCCBCCBCCBCCBCCBCCBCCBCCBCCBCCBCCBCCBCCBCCBCCBCCBCCBCCBCCBCCBCCBCCBCCBCCBC",
    "CBCCBCCBCCBCCBCCBCCBCCBCCBCCBCCBCCBCCBCCBCCBCCBCCBCCBDChQBChQBChQBChQBChQBChQBChQBChQBCh",
    "QBChQBChQBChQBChQBChQBChQBChQBChQBChQBChQBChQBChQBChQBChQBChQBChQBChQBChQBChQBChQBChQBCh",
    "QBChQBChQBChQBChQBChQBChQBChQi6KCnjABCnjABCnjABCnjABCnjABCnjABCnjABCnjABCnjABCnjABCnjABC",
    "njABCnjABCnjABCnjABCnjABCnjABCnjABCnjABCnjABCnjABCnjABCnjABCnjABCnjABCnjABCnjABCnjABCnjA",
    "BCnjABCnjABCnjABCnjABCnjABCnjABCnjABCnjABCnjACCnjAGCnjADCi+ABCi+ABCi+ABCi+ABCi+ABCi+ABCi",
    "+ABCi+ABCi+ABCi+ABCi+ABCi+ABCi+ABCi+ABCi+ABCi+ABCi+ABCi+ABCi+ABCi+ABCi+ABCi+ABCi+ABCi+AB",
    "Ci+ABCi+ABCi+ABCi+ABCi+ABCi+ABCi+ABCi+ABCi+ABCi+ABCi+ABCi+ABCi+ABCi+ABCi+ABCi+ABCi+ABCi+",
    "ABCi+ADCi+ABCi+ABCi+A1BChl+QBChl+QBChl+QBChl+QBChl+QBChl+QBChl+QBChl+QBChl+QBChl+QBChl+Q",
    "BChl+QBChl+QBChl+QBChl+QBChl+QBChl+QBChl+QBChl+QBChl+QBChl+QBChl+QBChl+QBChl+QBChl+QBChl",
    "+QBChl+QBChl+QBChl+QBChl+QBChl+QBChl+QBChl+QBChl+QBChl+QBChl+QBChl+QBChl+QBChl+QBChl+QBC",
    "hl+QBChl+QBChl+QBChl+QBChl+QBChl+QBChl+QBChl+QBChl+QBChl+QBChl+QBChl+QBChl+QBChl+QBChl+Q",
    "BChl+QBChl+QBChl+QBChl+QBChl+QBChl+QBChl+QBChl+QBChl+QBChl+QBChl+QBChl+QBChl+QBChl+QBChl",
    "+QBChl+QBChl+QBChl+QBChl+QBChl+QBChl+QBChl+QBChl+QBChl+QBChl+QBCIBCIBCIBCIBCIBCIikTDhiuC",
    "BBCBnQChiwEECj3GRChixYjSCBCCBCCBCCBCCBCCBCCBCCBCCBCCBCCBCCBCCBCCBCCBCCBCCBCCBCCBCCBCCBCC",
    "BCCBCCBCCBCCBCCBCCBCCBCCBCCBCCBCCBCCBCCBCCBCCBCCBCCBCCBCCBCCBCCBCCBCCBCCBCCBCCBCDBhaCCBC",
    "CBCCBCCBCCBCCBCCBCCBCCBCCBCCBCCBCCBCCBCCBCCBCCBCCBCCBCCBCCBCCBCCBCCBCCBCCBMCBCCBCCBCCBCC",
    "BCCBCCBCCBCCBCCBCCBCCBCCBCCBCCBCCBCCBCCBCCBCCBCCBCCBCCBCCBCCBCCBCCBCCBCCBCCBCCBCCBCCBCCB",
    "CCBCCBCCBCCBCCBCCBCCBCCBCCBCCBCCBCCBCCBCCBCCIBCIBCIBCIBCIBCIBCIBCIJCIBCIBCIBCIBCIBCILCIB",
    "CIBCIBCIBCIBCIBCIBCIJCIBCIBCIBCIBCIBCIBCIBCIJCIBCIBCIBCIBCIBCIMCICCICCICCIJCIBCIBCIBCIBC",
    "IBCIBCIBCIJCiKBCiKBCiWBCiWBCiWBCiWBCjEBCjEBCkABCkABCjQBCjQBCjeBCjeDCIBCIBCIBCIBCIBCIBCIB",
    "CIJCIBCIBCIBCIBCIBCIBCIBCIJCIBCIBCIBCIBCIBCIBCIBCIJCIBCICCJQCJNCIBCIPCIBCIECHOCJpfCchOCQ",
    "BCQBCQBCQBCQBCQBCQBCQBCQBCQBCQBCQBCQBCQBCQBCQUCB5TCaBCaBCaBCaBCaBCaBCaBCaBCaBCaBCaBCaBCa",
    "BCaBCaBCaBCaBCaBCaBCaBCaBCaBCaBCaBCaBCah5RChQBChQBChQBChQBChQBChQBChQBChQBChQBChQBChQBCh",
    "QBChQBChQBChQBChQBChQBChQBChQBChQBChQBChQBChQBChQBChQBChQBChQBChQBChQBChQBChQBChQBChQBCh",
    "QBChQBChQBChQBChQBChQBChQBChQBChQBChQBChQBChQBChQBChQBChQhRCBHCBCCBCCBHCBDCBLCBCCBCCBCCB",
    "CCBCCBCCBCCBCCBCCBCCBCCBCCBCCBCCBCCBCCBCCBCCBCCBCCBCCBCCBCCBCCBCCBCCBCCBCCBCCBCCBCCBCCBC",
    "CBCCBCCBCCBCCBCCBCCBCCBCCBCCBCCBCCBCCBCCBCCBCCBCCBJCBCCBFCB+qOCBCCBCCBCCBCCBECBCCBCCBCCB",
    "CCBCCBCCBCCBCCBCCBCCBCCBCCBCCBCCBCCBCCBUCBCCBCCBCCBCCBCCBCCBCCBCCBCCBCCBCCBCCBCCBkICBCCB",
    "CCBCCBCCBCCBCCBECBCCBCCBCCBCCBCCBCCBCCBCCBCCBCCBCCBCCBCCBCCBCCBCCBCCBCCBCCBCCBCCBCCBCCBC",
    "CBCCBCCBCCBCCBCCBCCBLCBCCBDCBCCBCCBCCBCCBFCBFCBCCBCChQCCBCCBCCBCCBCCBCCBCCBCCBCCBCCBLC9A",
    "BCBCCBCCBCCBCCBCCBCCBCCBFCBCCBDCBECBGCBCCBCCBbCB04QCBhgcChABChABChABChABChABChABChABChAB",
    "ChABChABChABChABChABChABChABChABChABChABChABChABChABChABChABChABChABChAhmGChIBChIBChIBCh",
    "IBChIBChIBChIBChIBChIBChIBChIBChIBChIBChIBChIBChIBChIBChIBChIBChIBChIBChIBChIBChIBChIBCh",
    "IBChIBChIBChIBChIBChIBChIBChIBChIBChIBChIBChIBChIBChIBChIkJChIBChIBChIBChIBChIBChIBChIBC",
    "hIBChIBChIBChIBChIBChIBChIBChIBChIBChIBChIBChIBChIBChIBChIBChIBChIBChIBChIBChIBChIBChIBC",
    "hIBChIBChIBChIBChIBChIBChIkdChHBChHBChHBChHBChHBChHBChHBChHBChHBChHBChHCChHBChHBChHBChHB",
    "ChHBChHBChHBChHBChHBChHBChHBChHBChHBChHBChHCChHBChHBChHBChHBChHBChHBChHCChHBChHh3LCiABCi",
    "ABCiABCiABCiABCiABCiABCiABCiABCiABCiABCiABCiABCiABCiABCiABCiABCiABCiABCiABCiABCiABCiABCi",
    "ABCiABCiABCiABCiABCiABCiABCiABCiABCiABCiABCiABCiABCiABCiABCiABCiABCiABCiABCiABCiABCiABCi",
    "ABCiABCiABCiABCiABCiAkeChABChABChABChABChABChABChABChABChABChABChABChABChABChABChABChABC",
    "hABChABChABChABChABChAi5bChABChABChABChABChABChABChABChABChABChABChABChABChABChABChABChA",
    "BChABChABChABChABChABChABChABChABChABChABChABChABChABChABChABChA1sBChABChABChABChABChABC",
    "hABChABChABChABChABChABChABChABChABChABChABChABChABChABChABChABChABChABChABChABChABChABC",
    "hABChABChABChABChA+1BChCBChCBChCBChCBChCBChCBChCBChCBChCBChCBChCBChCBChCBChCBChCBChCBChC",
    "BChCBChCBChCBChCBChCBChCBChCBChCBChCBChCBChCBChCBChCBChCBChCBChCBChC"]

end LogPipeline.Unicode
