/-!
# Labels in plain characters

A label with characters beyond the first 128 has a form of plain letters, digits and hyphens.
The plain characters come first.  The others follow in the order of their code points, each
as the number of steps from the one before, and every number is written with digits of base
36 whose places have thresholds that adapt to the numbers before.
-/

namespace JsonExtract.Url.Punycode

def isPlain (c : Char) : Bool := c.toNat < 128

/-- The digit of a value below 36: the letters come before the numerals. -/
def digit (value : Nat) : Char :=
  if value < 26 then Char.ofNat ('a'.toNat + value) else Char.ofNat ('0'.toNat + (value - 26))

def digitValue? (c : Char) : Option Nat :=
  if 'a' ≤ c && c ≤ 'z' then some (c.toNat - 'a'.toNat)
  else if 'A' ≤ c && c ≤ 'Z' then some (c.toNat - 'A'.toNat)
  else if c.isDigit then some (c.toNat - '0'.toNat + 26)
  else none

/-- The least value, at a place, of a digit that other digits follow. -/
def threshold (place bias : Nat) : Nat :=
  if place ≤ bias then 1 else if bias + 26 ≤ place then 26 else place - bias

theorem one_le_threshold (place bias : Nat) : 1 ≤ threshold place bias := by
  unfold threshold
  split
  · omega
  · split <;> omega

theorem threshold_le (place bias : Nat) : threshold place bias ≤ 26 := by
  unfold threshold
  split
  · omega
  · split <;> omega

/-- The bias that suits numbers of this size, `place` having been counted so far. -/
def biasFor (delta place : Nat) : Nat :=
  if 455 < delta then biasFor (delta / 35) (place + 36)
  else place + 36 * delta / (delta + 38)
termination_by delta
decreasing_by omega

/-- The bias after a number has been written, `count` characters then being in place. -/
def adapt (delta count : Nat) (first : Bool) : Nat :=
  let scaled := if first then delta / 700 else delta / 2
  biasFor (scaled + scaled / count) 0

def digits (bias place number : Nat) : List Char :=
  if number < threshold place bias then [digit number]
  else
    digit (threshold place bias +
        (number - threshold place bias) % (36 - threshold place bias)) ::
      digits bias (place + 36)
        ((number - threshold place bias) / (36 - threshold place bias))
termination_by number
decreasing_by
  have := one_le_threshold place bias
  have := threshold_le place bias
  exact Nat.lt_of_le_of_lt (Nat.div_le_self _ _) (by omega)

structure Progress where
  written : List Char
  delta : Nat
  bias : Nat
  /-- How many characters are in place. -/
  count : Nat

def Progress.pass (plain code : Nat) (progress : Progress) (c : Char) : Progress :=
  if c.toNat < code then { progress with delta := progress.delta + 1 }
  else if c.toNat = code then
    { written := progress.written ++ digits progress.bias 36 progress.delta
      delta := 0
      bias := adapt progress.delta (progress.count + 1) (progress.count == plain)
      count := progress.count + 1 }
  else progress

/-- Writes the characters with the given code points, in order, `next` being the least code
point that may come. -/
def Progress.write (label : List Char) (plain : Nat) :
    Nat → List Nat → Progress → Progress
  | _, [], progress => progress
  | next, code :: rest, progress =>
    let moved := { progress with
      delta := progress.delta + (code - next) * (progress.count + 1) }
    let passed := label.foldl (Progress.pass plain code) moved
    Progress.write label plain (code + 1) rest { passed with delta := passed.delta + 1 }

def encode (label : List Char) : List Char :=
  let plain := label.filter isPlain
  let codes := ((label.filter (!isPlain ·)).map Char.toNat).mergeSort.eraseDups
  let start := if plain.isEmpty then [] else plain ++ ['-']
  (Progress.write label plain.length 128 codes ⟨start, 0, 72, plain.length⟩).written

def readNumber (bias : Nat) : Nat → Nat → Nat → List Char → Option (Nat × List Char)
  | _, _, _, [] => none
  | place, weight, number, c :: rest =>
    match digitValue? c with
    | none => none
    | some value =>
      let number := number + value * weight
      if value < threshold place bias then some (number, rest)
      else readNumber bias (place + 36) (weight * (36 - threshold place bias)) number rest

theorem readNumber_length_lt {bias place weight number : Nat} {text : List Char}
    {result : Nat × List Char} (h : readNumber bias place weight number text = some result) :
    result.2.length < text.length := by
  induction text generalizing place weight number with
  | nil => simp [readNumber] at h
  | cons c rest ih =>
    simp only [readNumber] at h
    split at h
    · simp at h
    · split at h
      · cases h
        simp
      · have := ih h
        simp
        omega

/-- Puts the remaining characters into the label, `code` being the code point of the last and
`place` where the next may stand. -/
def insertAll (bias code place : Nat) (label : List Char) :
    List Char → Option (List Char)
  | [] => some label
  | c :: rest =>
    match _h : readNumber bias 36 1 place (c :: rest) with
    | none => none
    | some (number, after) =>
      let count := label.length + 1
      let code := code + number / count
      if code.isValidChar then
        insertAll (adapt (number - place) count (place == 0)) code (number % count + 1)
          (label.insertIdx (number % count) (Char.ofNat code)) after
      else none
termination_by text => text.length
decreasing_by
  have := readNumber_length_lt _h
  simpa using this

def decode (text : List Char) : Option (List Char) :=
  let tail := (text.reverse.takeWhile (· ≠ '-')).reverse
  let plain := (text.reverse.dropWhile (· ≠ '-')).drop 1 |>.reverse
  if plain.all isPlain then insertAll 72 128 0 plain tail else none

end JsonExtract.Url.Punycode
