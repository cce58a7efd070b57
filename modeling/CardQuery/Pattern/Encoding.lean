import CardQuery.Unicode.RangeSet

namespace CardQuery.Pattern

def encodedLength (code : Nat) : Nat :=
  if code < 0x80 then 1 else if code < 0x800 then 2 else if code < 0x10000 then 3 else 4

def encode (code : Nat) : List Nat :=
  if code < 0x80 then [code]
  else if code < 0x800 then [0xC0 + code / 0x40, 0x80 + code % 0x40]
  else if code < 0x10000 then [0xE0 + code / 0x1000, 0x80 + code / 0x40 % 0x40, 0x80 + code % 0x40]
  else [0xF0 + code / 0x40000, 0x80 + code / 0x1000 % 0x40, 0x80 + code / 0x40 % 0x40, 0x80 + code % 0x40]

-- The end of the first part and the start of the second, at the first of these places that the range crosses: the
-- surrogates, a change of length, a block of 64 code points (or of 64 such blocks, and so on) that it does not fill.
def splitPlace (first last : Nat) : Option (Nat × Nat) :=
  if first < 0xE000 ∧ last > 0xD7FF then some (0xD7FF, 0xE000)
  else if first ≤ 0x7F ∧ 0x7F < last then some (0x7F, 0x80)
  else if first ≤ 0x7FF ∧ 0x7FF < last then some (0x7FF, 0x800)
  else if first ≤ 0xFFFF ∧ 0xFFFF < last then some (0xFFFF, 0x10000)
  else if last ≤ 0x7F then none
  else (blockSplit 0x40).or ((blockSplit 0x1000).or (blockSplit 0x40000))
where
  blockSplit (block : Nat) : Option (Nat × Nat) :=
    if first / block = last / block then none
    else if first % block ≠ 0 then some ((first / block + 1) * block - 1, (first / block + 1) * block)
    else if last % block ≠ block - 1 then some (last / block * block - 1, last / block * block)
    else none

-- Each part is a product of ranges of bytes, place by place; the parts ascend.
def byteSequences : Nat → Nat → Nat → List (List (Nat × Nat))
  | 0, _, _ => []
  | fuel + 1, first, last =>
    if last < first then []
    else match splitPlace first last with
      | some (stop, start) => byteSequences fuel first stop ++ byteSequences fuel start last
      | none => [(encode first).zip (encode last)]

def sequencesOf (s : Unicode.RangeSet) : List (List (Nat × Nat)) :=
  s.ranges.flatMap fun (first, last) => byteSequences 16 first last

end CardQuery.Pattern
