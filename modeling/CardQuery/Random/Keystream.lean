namespace CardQuery.Keystream

abbrev Key := Vector UInt32 8
abbrev Block := Vector UInt32 16

def rotateLeft (w : UInt32) (n : UInt32) : UInt32 := (w <<< n) ||| (w >>> (32 - n))

-- Adds one word to another and turns a third by the sum.
def mix (x : Block) (a b d : Fin 16) (turn : UInt32) : Block :=
  let sum := x[a] + x[b]
  (x.set a sum).set d (rotateLeft (x[d] ^^^ sum) turn)

def quarterRound (x : Block) (a b c d : Fin 16) : Block :=
  mix (mix (mix (mix x a b d 16) c d b 12) a b d 8) c d b 7

-- A round on the columns, then one on the diagonals: two of ChaCha's eight.
def doubleRound (x : Block) : Block :=
  let x := quarterRound x 0 4 8 12
  let x := quarterRound x 1 5 9 13
  let x := quarterRound x 2 6 10 14
  let x := quarterRound x 3 7 11 15
  let x := quarterRound x 0 5 10 15
  let x := quarterRound x 1 6 11 12
  let x := quarterRound x 2 7 8 13
  quarterRound x 3 4 9 14

def initial (key : Key) (block : UInt64) : Block :=
  #v[0x61707865, 0x3320646e, 0x79622d32, 0x6b206574,
     key[0], key[1], key[2], key[3], key[4], key[5], key[6], key[7],
     block.toUInt32, (block >>> 32).toUInt32, 0, 0]

def block (key : Key) (number : UInt64) : Block :=
  let start := initial key number
  let mixed := doubleRound (doubleRound (doubleRound (doubleRound start)))
  mixed.zipWith (· + ·) start

def word (key : Key) (i : Nat) : UInt32 :=
  (block key (UInt64.ofNat (i / 16))).get ⟨i % 16, Nat.mod_lt i (by decide)⟩

def word64 (key : Key) (i : Nat) : UInt64 := (word key i).toUInt64 ||| ((word key (i + 1)).toUInt64 <<< 32)

-- The sequence a seed is stretched by, and the word that is read from one of its members.
def stretch (s : UInt64) : UInt64 := s * 6364136223846793005 + 11634580027462260723

def rotateRight (w n : UInt32) : UInt32 := (w >>> n) ||| (w <<< ((32 - n) % 32))

def output (s : UInt64) : UInt32 :=
  rotateRight (((s >>> 18) ^^^ s) >>> 27).toUInt32 (s >>> 59).toUInt32

def seeds (s : UInt64) : Nat → UInt64
  | 0 => stretch s
  | i + 1 => stretch (seeds s i)

def keyOfSeed (seed : UInt64) : Key := Vector.ofFn fun i => output (seeds seed i)

end CardQuery.Keystream
