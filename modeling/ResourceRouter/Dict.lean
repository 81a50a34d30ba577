set_option autoImplicit false

/-!
Dictionaries: values under names, in ascending order of the names. Every name occurs once, so two
dictionaries with the same look-ups are equal.
-/

namespace ResourceRouter

/-- Values under distinct names, held in ascending order. -/
structure Dict (α : Type) where
  entries : List (String × α)
  ascending : entries.Pairwise fun first second => first.1 < second.1

deriving instance DecidableEq for Dict

instance {α : Type} [Repr α] : Repr (Dict α) := ⟨fun dict => reprPrec dict.entries⟩

namespace Dict

variable {α β : Type}

def empty : Dict α := ⟨[], .nil⟩

/-- Puts a value at the place of its name; a value under the same name is replaced. -/
def insertEntry (name : String) (value : α) : List (String × α) → List (String × α)
  | [] => [(name, value)]
  | (other, held) :: rest =>
    if name = other then (name, value) :: rest
    else if name < other then (name, value) :: (other, held) :: rest
    else (other, held) :: insertEntry name value rest

theorem mem_insertEntry {name : String} {value : α} {entry : String × α}
    {entries : List (String × α)} (found : entry ∈ insertEntry name value entries) :
    entry = (name, value) ∨ entry ∈ entries := by
  induction entries with
  | nil => simpa [insertEntry] using found
  | cons first rest ih =>
      unfold insertEntry at found
      split at found <;> grind

theorem ascending_insertEntry (name : String) (value : α) {entries : List (String × α)}
    (ascending : entries.Pairwise fun first second => first.1 < second.1) :
    (insertEntry name value entries).Pairwise fun first second => first.1 < second.1 := by
  induction entries with
  | nil => simp [insertEntry]
  | cons first rest ih =>
      obtain ⟨other, held⟩ := first
      obtain ⟨below, tail⟩ := List.pairwise_cons.mp ascending
      unfold insertEntry
      split
      · next same =>
          subst same
          exact List.pairwise_cons.mpr ⟨below, tail⟩
      split
      · next less =>
          refine List.pairwise_cons.mpr ⟨?_, ascending⟩
          intro entry member
          rcases List.mem_cons.mp member with rfl | later
          · exact less
          · exact String.lt_trans less (below entry later)
      · next different notLess =>
          refine List.pairwise_cons.mpr ⟨?_, ih tail⟩
          intro entry member
          rcases mem_insertEntry member with rfl | later
          · grind
          · exact below entry later

/-- The dictionary with a value added or replaced. -/
def insert (dict : Dict α) (name : String) (value : α) : Dict α :=
  ⟨insertEntry name value dict.entries, ascending_insertEntry name value dict.ascending⟩

/-- The dictionary of a list of entries; of entries with one name the last counts. -/
def ofList (entries : List (String × α)) : Dict α :=
  entries.foldl (fun dict entry => dict.insert entry.1 entry.2) empty

/-- The value under a name. -/
def find? (dict : Dict α) (name : String) : Option α := dict.entries.lookup name

def contains (dict : Dict α) (name : String) : Bool := (dict.find? name).isSome

def isEmpty (dict : Dict α) : Bool := dict.entries.isEmpty

def size (dict : Dict α) : Nat := dict.entries.length

def values (dict : Dict α) : List α := dict.entries.map (·.2)

/-- Every value transformed together with its name. -/
def mapEntries (transform : String → α → β) (dict : Dict α) : Dict β where
  entries := dict.entries.map fun entry => (entry.1, transform entry.1 entry.2)
  ascending := List.pairwise_map.mpr dict.ascending

theorem lookup_insertEntry (name other : String) (value : α) (entries : List (String × α)) :
    (insertEntry name value entries).lookup other =
      if other = name then some value else entries.lookup other := by
  induction entries with
  | nil => simp only [insertEntry, List.lookup_cons]; grind
  | cons first rest ih =>
      obtain ⟨held, current⟩ := first
      unfold insertEntry
      split
      · grind
      split <;> grind

/-- After an insertion the new name has the new value, and every other name the old one. -/
theorem find?_insert (dict : Dict α) (name other : String) (value : α) :
    (dict.insert name value).find? other = if other = name then some value else dict.find? other :=
  lookup_insertEntry name other value dict.entries

end Dict

end ResourceRouter
