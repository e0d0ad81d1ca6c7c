import Mathlib
import SortableId.Record.Basic

/-!
# Maps rebuilt from their entries

Stored forms hold a map as its entries in ascending order. Inserting them one after another puts
each behind all the earlier ones, so the map is rebuilt as it was.
-/

namespace SortableId.IdMap

/-- Maps with the same entries are the same. -/
theorem entries_injective (left right : IdMap) (same : left.entries = right.entries) :
    left = right := by
  cases left
  cases right
  cases same
  rfl

/-- An entry whose key is above all the others is placed behind them. -/
theorem place_of_above (key : Ulid) (value : Option Ulid) (entries : List (Ulid × Option Ulid))
    (above : ∀ entry ∈ entries, entry.1 < key) :
    place key value entries = entries ++ [(key, value)] := by
  induction entries with
  | nil => rfl
  | cons entry rest ih =>
    have first : entry.1 < key := above entry List.mem_cons_self
    have greater : compare key entry.1 = .gt := Std.OrientedCmp.gt_of_lt first
    rw [place, greater, ih fun other mem => above other (List.mem_cons_of_mem entry mem)]
    rfl

/-- Entries that ascend behind those of a map are appended to them. -/
theorem entries_foldl_insert (map : IdMap) (more : List (Ulid × Option Ulid))
    (ordered : (map.entries ++ more).Pairwise fun left right => left.1 < right.1) :
    (more.foldl (fun map entry => map.insert entry.1 entry.2) map).entries =
      map.entries ++ more := by
  induction more generalizing map with
  | nil => rw [List.foldl_nil, List.append_nil]
  | cons entry more ih =>
    have above : ∀ earlier ∈ map.entries, earlier.1 < entry.1 := fun earlier mem =>
      (List.pairwise_append.mp ordered).2.2 earlier mem entry List.mem_cons_self
    have inserted : (map.insert entry.1 entry.2).entries = map.entries ++ [entry] :=
      place_of_above entry.1 entry.2 map.entries above
    have split : map.entries ++ entry :: more = map.entries ++ [entry] ++ more := by
      rw [List.append_assoc, List.singleton_append]
    rw [split] at ordered ⊢
    rw [List.foldl_cons, ih, inserted]
    rwa [inserted]

/-- The entries of a map make the map again. -/
theorem ofList_entries (map : IdMap) : ofList map.entries = map :=
  entries_injective _ _ (entries_foldl_insert empty map.entries map.ordered)

end SortableId.IdMap
