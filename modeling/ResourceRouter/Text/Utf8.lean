set_option autoImplicit false

/-!
Byte positions in a text. Offsets count UTF-8 bytes, so one that falls inside a character names no
position at all.
-/

namespace ResourceRouter.Text

/-- The number of UTF-8 bytes of a text. -/
def byteLength : List Char → Nat
  | [] => 0
  | c :: rest => c.utf8Size + byteLength rest

/-- The text from a byte offset on, if the offset is on a character boundary. -/
def fromByte? : Nat → List Char → Option (List Char)
  | 0, text => some text
  | _ + 1, [] => none
  | n + 1, c :: rest => if c.utf8Size ≤ n + 1 then fromByte? (n + 1 - c.utf8Size) rest else none

/-- The text before a byte offset, if the offset is on a character boundary. -/
def upToByte? : Nat → List Char → Option (List Char)
  | 0, _ => some []
  | _ + 1, [] => none
  | n + 1, c :: rest =>
    if c.utf8Size ≤ n + 1 then (upToByte? (n + 1 - c.utf8Size) rest).map (c :: ·) else none

/-- The characters that lie whole within the first bytes of a text. -/
def takeBytes : Nat → List Char → List Char
  | _, [] => []
  | limit, c :: rest =>
    if c.utf8Size ≤ limit then c :: takeBytes (limit - c.utf8Size) rest else []

@[simp] theorem byteLength_nil : byteLength [] = 0 := rfl

@[simp] theorem byteLength_cons (c : Char) (text : List Char) :
    byteLength (c :: text) = c.utf8Size + byteLength text := rfl

theorem byteLength_append (first second : List Char) :
    byteLength (first ++ second) = byteLength first + byteLength second := by
  induction first with
  | nil => simp
  | cons c rest ih => simp only [List.cons_append, byteLength_cons, ih]; omega

/-- The offset just past a first part is a boundary, and cuts that part off. -/
theorem fromByte?_append (first second : List Char) :
    fromByte? (byteLength first) (first ++ second) = some second := by
  induction first with
  | nil => simp [fromByte?]
  | cons c rest ih =>
      obtain ⟨n, size⟩ : ∃ n, c.utf8Size + byteLength rest = n + 1 :=
        ⟨c.utf8Size + byteLength rest - 1, by have := c.utf8Size_pos; omega⟩
      have within : c.utf8Size ≤ n + 1 := by omega
      have left : n + 1 - c.utf8Size = byteLength rest := by omega
      simp only [byteLength_cons, size, List.cons_append, fromByte?, within, ↓reduceIte, left, ih]

/-- A limit that the whole text keeps cuts nothing. -/
theorem takeBytes_of_byteLength_le {limit : Nat} {text : List Char}
    (within : byteLength text ≤ limit) : takeBytes limit text = text := by
  induction text generalizing limit with
  | nil => rfl
  | cons c rest ih =>
      rw [byteLength_cons] at within
      have first : c.utf8Size ≤ limit := by omega
      have left : byteLength rest ≤ limit - c.utf8Size := by omega
      simp only [takeBytes, first, ↓reduceIte, ih left]

/-- What is kept has no more bytes than the limit. -/
theorem byteLength_takeBytes_le (limit : Nat) (text : List Char) :
    byteLength (takeBytes limit text) ≤ limit := by
  induction text generalizing limit with
  | nil => simp [takeBytes]
  | cons c rest ih =>
      by_cases first : c.utf8Size ≤ limit
      · have := ih (limit - c.utf8Size)
        simp only [takeBytes, first, ↓reduceIte, byteLength_cons]
        omega
      · simp [takeBytes, first]

end ResourceRouter.Text
