/-!
# UTF-8

Decoding of bytes that need not be a text. Every longest beginning of a sequence that could have gone on to
be a character, and every byte that begins none, becomes one replacement character.
-/

namespace LogPipeline.Text

def replacement : Char := '\ufffd'

/-- Whether a byte goes on with a sequence. -/
def isContinuation (byte : UInt8) : Bool := 0x80 ≤ byte && byte ≤ 0xBF

/-- The number of bytes that a first byte calls for, and the bounds of the second byte. -/
def sequenceShape? (first : UInt8) : Option (Nat × UInt8 × UInt8) :=
  if 0xC2 ≤ first ∧ first ≤ 0xDF then some (2, 0x80, 0xBF)
  else if first = 0xE0 then some (3, 0xA0, 0xBF)
  else if first = 0xED then some (3, 0x80, 0x9F)
  else if 0xE1 ≤ first ∧ first ≤ 0xEF then some (3, 0x80, 0xBF)
  else if first = 0xF0 then some (4, 0x90, 0xBF)
  else if 0xF1 ≤ first ∧ first ≤ 0xF3 then some (4, 0x80, 0xBF)
  else if first = 0xF4 then some (4, 0x80, 0x8F)
  else none

/-- The bits of a first byte that belong to the character. -/
def leadBits (size : Nat) (first : UInt8) : Nat :=
  first.toNat % (if size = 2 then 32 else if size = 3 then 16 else 8)

def tailBits (byte : UInt8) : Nat := byte.toNat % 64

/-- Decodes what begins with a byte: the character, if there is one, and the bytes behind it or behind the
broken beginning of one. -/
def decodeOne (first : UInt8) (rest : List UInt8) : Option Char × List UInt8 :=
  if first < 0x80 then (some (Char.ofNat first.toNat), rest)
  else
    match sequenceShape? first with
    | none => (none, rest)
    | some (size, low, high) =>
      match rest with
      | [] => (none, [])
      | second :: rest =>
        if second < low ∨ high < second then (none, second :: rest)
        else
          let bits := leadBits size first * 64 + tailBits second
          if size = 2 then (some (Char.ofNat bits), rest)
          else
            match rest with
            | [] => (none, [])
            | third :: rest =>
              if !isContinuation third then (none, third :: rest)
              else
                let bits := bits * 64 + tailBits third
                if size = 3 then (some (Char.ofNat bits), rest)
                else
                  match rest with
                  | [] => (none, [])
                  | fourth :: rest =>
                    if !isContinuation fourth then (none, fourth :: rest)
                    else (some (Char.ofNat (bits * 64 + tailBits fourth)), rest)

theorem length_decodeOne_le (first : UInt8) (rest : List UInt8) :
    (decodeOne first rest).2.length ≤ rest.length := by
  unfold decodeOne
  repeat' split
  all_goals simp
  all_goals omega

/-- The characters of bytes, with replacements. -/
def decodeLossy : List UInt8 → List Char
  | [] => []
  | first :: rest =>
    let step := decodeOne first rest
    step.1.getD replacement :: decodeLossy step.2
termination_by bytes => bytes.length
decreasing_by
  have := length_decodeOne_le first rest
  simp only [List.length_cons]
  omega

/-- The characters of bytes that are a text. -/
def decode? : List UInt8 → Option (List Char)
  | [] => some []
  | first :: rest =>
    let step := decodeOne first rest
    match step.1 with
    | some c => (decode? step.2).map (c :: ·)
    | none => none
termination_by bytes => bytes.length
decreasing_by
  have := length_decodeOne_le first rest
  simp only [List.length_cons]
  omega

end LogPipeline.Text
