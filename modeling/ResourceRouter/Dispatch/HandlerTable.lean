import ResourceRouter.Catalogue.Basic

set_option autoImplicit false

/-!
The table of handlers. A handler of a subcollection stands under the collection that lists it, so
that siblings never share an entry.
-/

namespace ResourceRouter

/-- What a handler is registered for. -/
structure HandlerKey where
  collection : String
  subcollection : Option String
  target : Target
  action : String
deriving DecidableEq, Repr

/-- The conventional name of a handler. -/
def HandlerKey.conventionalName (subcollection : Option String) (action : String) : String :=
  match subcollection with
  | some subcollection => subcollection ++ "_" ++ action ++ "_resource"
  | none => action ++ "_resource"

/-- A key with the name of its handler. -/
abbrev HandlerEntry := HandlerKey × String

/-- Handlers under distinct keys. -/
structure HandlerTable where
  entries : List HandlerEntry
  distinct : entries.Pairwise fun first second => first.1 ≠ second.1

namespace HandlerTable

def empty : HandlerTable := ⟨[], .nil⟩

/-- Puts an entry in the place of the one with the same key, or at the end. -/
def put (entry : HandlerEntry) : List HandlerEntry → List HandlerEntry
  | [] => [entry]
  | held :: rest => if held.1 = entry.1 then entry :: rest else held :: put entry rest

theorem mem_put {entry other : HandlerEntry} {entries : List HandlerEntry}
    (found : other ∈ put entry entries) : other = entry ∨ other ∈ entries := by
  induction entries with
  | nil => simpa [put] using found
  | cons held rest ih =>
      unfold put at found
      split at found <;> grind

theorem distinct_put (entry : HandlerEntry) {entries : List HandlerEntry}
    (distinct : entries.Pairwise fun first second => first.1 ≠ second.1) :
    (put entry entries).Pairwise fun first second => first.1 ≠ second.1 := by
  induction entries with
  | nil => simp [put]
  | cons held rest ih =>
      obtain ⟨apart, tail⟩ := List.pairwise_cons.mp distinct
      unfold put
      split
      · next same => exact List.pairwise_cons.mpr ⟨by simpa [same] using apart, tail⟩
      · next different =>
          refine List.pairwise_cons.mpr ⟨?_, ih tail⟩
          intro other member
          rcases mem_put member with rfl | later
          · exact different
          · exact apart other later

/-- The table with a handler added or replaced. -/
def register (table : HandlerTable) (key : HandlerKey) (handler : String) : HandlerTable :=
  ⟨put (key, handler) table.entries, distinct_put (key, handler) table.distinct⟩

/-- The handler under a key. -/
def lookup (table : HandlerTable) (key : HandlerKey) : Option String := table.entries.lookup key

def size (table : HandlerTable) : Nat := table.entries.length

/-- The table of a list of entries; of entries with one key the last counts. -/
def ofEntries (entries : List HandlerEntry) : HandlerTable :=
  entries.foldl (fun table entry => table.register entry.1 entry.2) empty

theorem lookup_put (entry : HandlerEntry) (key : HandlerKey) (entries : List HandlerEntry) :
    (put entry entries).lookup key =
      if key = entry.1 then some entry.2 else entries.lookup key := by
  induction entries with
  | nil => simp only [put]; grind
  | cons held rest ih =>
      unfold put
      split <;> grind

/-- After a registration the key has the new handler, and every other key the old one. -/
theorem lookup_register (table : HandlerTable) (key other : HandlerKey) (handler : String) :
    (table.register key handler).lookup other =
      if other = key then some handler else table.lookup other :=
  lookup_put (key, handler) other table.entries

/-- The conventional entries of the actions that a collection declares for some targets, under the
collection that is asked for. -/
def conventionalEntries (primary : Collection) (subcollection : Option String)
    (declaring : Collection) (targets : List Target) : List HandlerEntry :=
  targets.flatMap fun target =>
    (declaring.actions.at target).declared.map fun entry =>
      (⟨primary.name, subcollection, target, entry.2.name⟩,
        HandlerKey.conventionalName subcollection entry.2.name)

/-- The conventional entries of a collection, its subcollections included, as far as the handlers
exist. -/
def entriesOf (catalogue : Catalogue) (primary : Collection) : List HandlerEntry :=
  let own := conventionalEntries primary none primary [.collection, .resource]
  let nested := primary.subcollections.flatMap fun name =>
    ((catalogue.find? name).map fun declaring =>
      conventionalEntries primary (some name) declaring [.subcollection, .subresource]).getD []
  (own ++ nested).filter fun entry => primary.implements entry.2

/-- The conventional handler of every declared action. -/
def ofCatalogue (catalogue : Catalogue) : HandlerTable :=
  ofEntries (catalogue.collections.values.flatMap (entriesOf catalogue))

end HandlerTable

end ResourceRouter
