import LogPipeline.CharSet
import LogPipeline.Unicode.TextData

/-!
# Letters and numerals

The characters that names may be made of.
-/

namespace LogPipeline.Text

def letters : CharSet := .ofPacked Unicode.alphabeticData

def numerals : CharSet := .ofPacked Unicode.numericData

end LogPipeline.Text
