import SortableId.Ulid.Basic

/-!
# Records

The shapes in which identifiers are stored: alone, optional, in a list, as keys of an ordered map,
as fields of a row, and as a number. Every stored form of the library is a form of these shapes.
-/

namespace SortableId

/-- An ordered map from identifiers to optional identifiers. -/
structure IdMap where
  /-- Keys with their values. -/
  entries : List (Ulid × Option Ulid)
  /-- Keys ascend strictly. -/
  ordered : entries.Pairwise fun left right => left.1 < right.1
  deriving DecidableEq, Repr

namespace IdMap

/-- The map without entries. -/
def empty : IdMap := ⟨[], .nil⟩

/-- Puts a value at its key's place among ascending keys, over an earlier value. -/
def place (key : Ulid) (value : Option Ulid) :
    List (Ulid × Option Ulid) → List (Ulid × Option Ulid)
  | [] => [(key, value)]
  | entry :: rest =>
    match compare key entry.1 with
    | .lt => (key, value) :: entry :: rest
    | .eq => (key, value) :: rest
    | .gt => entry :: place key value rest

/-- Placing adds no key but its own. -/
theorem mem_place {key : Ulid} {value : Option Ulid} {entries : List (Ulid × Option Ulid)}
    {found : Ulid × Option Ulid} (h : found ∈ place key value entries) :
    found.1 = key ∨ found ∈ entries := by
  induction entries with
  | nil => simp_all [place]
  | cons entry rest ih =>
    unfold place at h
    split at h
    · rcases List.mem_cons.1 h with rfl | h
      · exact .inl rfl
      · exact .inr h
    · rcases List.mem_cons.1 h with rfl | h
      · exact .inl rfl
      · exact .inr (List.mem_cons_of_mem _ h)
    · rcases List.mem_cons.1 h with rfl | h
      · exact .inr (List.mem_cons_self ..)
      · exact (ih h).imp id (List.mem_cons_of_mem _)

/-- Placing keeps keys ascending. -/
theorem place_ordered {key : Ulid} {value : Option Ulid} {entries : List (Ulid × Option Ulid)}
    (h : entries.Pairwise fun left right => left.1 < right.1) :
    (place key value entries).Pairwise fun left right => left.1 < right.1 := by
  induction entries with
  | nil => simp [place]
  | cons entry rest ih =>
    obtain ⟨first, rest_ordered⟩ := List.pairwise_cons.1 h
    unfold place
    split
    · rename_i below
      refine List.pairwise_cons.2 ⟨fun other mem => ?_, h⟩
      rcases List.mem_cons.1 mem with rfl | mem
      · exact below
      · exact Std.TransCmp.lt_trans below (first other mem)
    · rename_i same
      refine List.pairwise_cons.2 ⟨fun other mem => ?_, rest_ordered⟩
      rw [Std.LawfulEqOrd.eq_of_compare same]
      exact first other mem
    · rename_i above
      refine List.pairwise_cons.2 ⟨fun other mem => ?_, ih rest_ordered⟩
      rcases mem_place mem with same | mem
      · rw [same]
        exact Std.OrientedCmp.lt_of_gt above
      · exact first other mem

/-- The map with a value at a key, over an earlier value. -/
def insert (map : IdMap) (key : Ulid) (value : Option Ulid) : IdMap :=
  ⟨place key value map.entries, place_ordered map.ordered⟩

/-- The map of a list of entries, in which the last value of a key counts. -/
def ofList (entries : List (Ulid × Option Ulid)) : IdMap :=
  entries.foldl (fun map entry => map.insert entry.1 entry.2) empty

end IdMap

/-- A row with an identifier and perhaps the identifier of its parent. -/
structure Row where
  /-- Its own identifier. -/
  eventId : Ulid
  /-- The identifier of its parent. -/
  parent : Option Ulid
  deriving DecidableEq, Repr

/-- An identifier stored as its 128-bit number. -/
structure Numeric where
  /-- The identifier. -/
  id : Ulid
  deriving DecidableEq, Repr

/-- The shapes of stored values. -/
inductive Shape where
  | ulid
  | option
  | list
  | map
  | row
  | numeric
  deriving DecidableEq, Repr

/-- The values of a shape. -/
abbrev Shape.Value : Shape → Type
  | ulid => Ulid
  | option => Option Ulid
  | list => List (Option Ulid)
  | map => IdMap
  | row => Row
  | numeric => Numeric

end SortableId
