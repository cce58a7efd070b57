namespace CardQuery.Text

def blankRanges : List (Nat × Nat) :=
  [(0x09, 0x0D), (0x20, 0x20), (0x85, 0x85), (0xA0, 0xA0), (0x1680, 0x1680), (0x2000, 0x200A),
   (0x2028, 0x2029), (0x202F, 0x202F), (0x205F, 0x205F), (0x3000, 0x3000)]

def isBlank (c : Char) : Bool :=
  blankRanges.any fun (first, last) => first ≤ c.toNat && c.toNat ≤ last

-- Every blank ends a piece; pieces may be empty, and there is always at least one.
def pieces : List Char → List (List Char)
  | [] => [[]]
  | c :: rest =>
    if isBlank c then [] :: pieces rest
    else match pieces rest with
      | [] => [[c]]
      | piece :: others => (c :: piece) :: others

def wordsOf (cs : List Char) : List (List Char) := (pieces cs).filter (!·.isEmpty)

def words (text : String) : List String := (wordsOf text.toList).map String.ofList

def isBlankText (text : String) : Bool := text.toList.all isBlank

theorem pieces_ne_nil (cs : List Char) : pieces cs ≠ [] := by
  cases cs with
  | nil => simp [pieces]
  | cons c rest =>
    unfold pieces
    split
    · simp
    · split <;> simp

theorem pieces_append_blank (front rest : List Char) {c : Char} (blank : isBlank c = true) :
    pieces (front ++ c :: rest) = pieces front ++ pieces rest := by
  induction front with
  | nil => simp [pieces, blank]
  | cons d front ih =>
    simp only [List.cons_append, pieces]
    split
    · simp [ih]
    · rw [ih]
      cases h : pieces front with
      | nil => exact absurd h (pieces_ne_nil front)
      | cons piece others => simp

theorem wordsOf_append_blank (front rest : List Char) {c : Char} (blank : isBlank c = true) :
    wordsOf (front ++ c :: rest) = wordsOf front ++ wordsOf rest := by
  simp [wordsOf, pieces_append_blank front rest blank]

theorem words_append_blank (front rest : String) {c : Char} (blank : isBlank c = true) :
    words (front ++ String.singleton c ++ rest) = words front ++ words rest := by
  simp [words, wordsOf_append_blank _ _ blank]

end CardQuery.Text
