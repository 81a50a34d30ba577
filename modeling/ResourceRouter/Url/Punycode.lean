set_option autoImplicit false

/-!
Decoding of labels whose letters beyond ASCII are written as a run of base-36 numbers: each number
tells how many code points and positions to skip before the next letter.
-/

namespace ResourceRouter.Url.Punycode

/-- The value of a base-36 digit: letters first, then figures. -/
def digit? (c : Char) : Option Nat :=
  if c.isDigit then some (c.toNat - 48 + 26)
  else if c.isAlpha then some (c.toLower.toNat - 97)
  else none

/-- The least digit that ends a number, at the given place. -/
def threshold (place bias : Nat) : Nat := max 1 (min 26 (place - bias))

/-- Divides a difference down into the range of one digit and counts the steps. -/
def shrink (delta steps : Nat) : Nat × Nat :=
  if 455 < delta then shrink (delta / 35) (steps + 1) else (delta, steps)
termination_by delta
decreasing_by omega

/-- The bias after a number: it follows the size of the last difference. -/
def nextBias (delta count : Nat) (isFirst : Bool) : Nat :=
  let delta := if isFirst then delta / 700 else delta / 2
  let (delta, steps) := shrink (delta + delta / count) 0
  36 * steps + 36 * delta / (delta + 38)

/-- Progress of a decoding: the letters so far, and the number being read. -/
structure State where
  letters : List Nat
  codePoint : Nat
  bias : Nat
  /-- The position reached before the number being read. -/
  start : Nat
  /-- The number so far, with the position it started from included. -/
  position : Nat
  weight : Nat
  place : Nat
deriving DecidableEq, Repr

/-- Takes one digit; a digit below the threshold ends its number and inserts a letter. -/
def advance (state : State) (digit : Nat) : State :=
  let position := state.position + digit * state.weight
  let least := threshold state.place state.bias
  if digit < least then
    let count := state.letters.length + 1
    let codePoint := state.codePoint + position / count
    let place := position % count
    { letters := state.letters.take place ++ codePoint :: state.letters.drop place
      codePoint := codePoint
      bias := nextBias (position - state.start) count (state.start == 0)
      start := place + 1
      position := place + 1
      weight := 1
      place := 36 }
  else
    { state with
      position := position
      weight := state.weight * (36 - least)
      place := state.place + 36 }

/-- The letters of a label: its plain letters stand before the last hyphen, and where there is a
hyphen there are plain letters. A number has to be complete when the label ends. -/
def decode? (label : List Char) : Option (List Char) :=
  let digits := (label.reverse.takeWhile (· != '-')).reverse
  let plain := (label.take (label.length - digits.length)).dropLast
  if plain.isEmpty && digits.length < label.length then none
  else
    (digits.mapM digit?).bind fun values =>
      let final := values.foldl advance ⟨plain.map Char.toNat, 128, 72, 0, 0, 1, 36⟩
      if final.place = 36 && final.weight = 1 && final.letters.all (·.isValidChar) then
        some (final.letters.map Char.ofNat)
      else none

end ResourceRouter.Url.Punycode
