import LogPipeline.CharSet

/-!
# Codes

The codes of characters as sequences of bytes. A range of characters is divided into ranges whose codes are
all combinations of the bytes at each place.
-/

namespace LogPipeline.Regex

-- Powers are those of core, whatever other instances there are.
attribute [local instance (2000)] instPowNat

/-- How many bytes the code of a character has. -/
def byteLength (n : Nat) : Nat :=
  if n ≤ 0x7F then 1 else if n ≤ 0x7FF then 2 else if n ≤ 0xFFFF then 3 else 4

/-- The range of bytes at each place of the codes between two characters of `bytes` bytes. -/
def codeRanges (bytes low high : Nat) : List (Nat × Nat) :=
  (List.range bytes).map fun i =>
    let unit := 64 ^ (bytes - 1 - i)
    if i = 0 then
      let lead := if bytes = 1 then 0 else if bytes = 2 then 0xC0 else if bytes = 3 then 0xE0 else 0xF0
      (lead + low / unit, lead + high / unit)
    else (0x80 + low / unit % 64, 0x80 + high / unit % 64)

/-- Splits a range of characters whose codes are equally long into ranges whose codes are all
combinations of the bytes between those of their ends. The last `depth` bytes may differ. -/
def splitRange (bytes low high : Nat) : (depth : Nat) → List (List (Nat × Nat))
  | 0 => [codeRanges bytes low high]
  | depth + 1 =>
    let unit := 64 ^ (depth + 1)
    if low / unit = high / unit then splitRange bytes low high depth
    else
      let first := if low % unit = 0 then low else (low / unit + 1) * unit
      let last := if high % unit = unit - 1 then high + 1 else high / unit * unit
      (if low < first then splitRange bytes low (first - 1) depth else []) ++
        (if first < last then [codeRanges bytes first (last - 1)] else []) ++
        (if last ≤ high then splitRange bytes last high depth else [])

/-- The byte sequences of the characters in a range, in order. -/
def byteSequences (low high : Nat) : List (List (Nat × Nat)) :=
  [(1, 0, 0x7F), (2, 0x80, 0x7FF), (3, 0x800, 0xFFFF), (4, 0x10000, 0x10FFFF)].flatMap
    fun (bytes, first, last) =>
      let low := max low first
      let high := min high last
      if low ≤ high then splitRange bytes low high (bytes - 1) else []

/-- The bytes of the code of a character. -/
def codeOf (n : Nat) : List Nat :=
  let bytes := byteLength n
  (codeRanges bytes n n).map Prod.fst

/-- The byte sequences of the characters in a set, in order. -/
def codes (set : CharSet) : List (List (Nat × Nat)) :=
  set.ranges.flatMap fun range => byteSequences range.1 range.2

/-- Sequences in order, divided by their first parts. -/
def byHead : List (List (Nat × Nat)) → List ((Nat × Nat) × List (List (Nat × Nat)))
  | [] => []
  | [] :: rest => byHead rest
  | (head :: tail) :: rest =>
    match byHead rest with
    | (next, tails) :: groups =>
      if head = next then (head, tail :: tails) :: groups
      else (head, [tail]) :: (next, tails) :: groups
    | [] => [(head, [tail])]

end LogPipeline.Regex
