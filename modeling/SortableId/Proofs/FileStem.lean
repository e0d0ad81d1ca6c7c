import Mathlib
import SortableId.Text.FileStem
import SortableId.Proofs.TextBytes

/-!
# Stems of paths

The components of a path are those of what stands before a slash and then those behind it, so that a
name stays the last one whatever directory leads to it and however many slashes follow. A `Route` is
such a way to write a path: the stem of its file name is the stem that it is written for, as long as
that has neither slashes nor dots. The text form of an identifier is such a text, and so it is read
the same whether or not it is taken for a path.
-/

namespace SortableId

namespace Text

/-- A component that does not start with a dot is a name. -/
theorem PathPart.ofText_of_head (first : Char) (rest : List Char) (other : first ≠ '.') :
    PathPart.ofText (first :: rest) = some (.name (first :: rest)) := by
  unfold ofText
  split
  case h_1 empty => cases empty
  case h_2 same => exact absurd (List.cons.inj same).1 other
  case h_3 above => exact absurd (List.cons.inj above).1 other
  case h_4 => rfl

/-- A first component that does not start with a dot is a name. -/
theorem PathPart.ofFirst_of_head (first : Char) (rest : List Char) (other : first ≠ '.') :
    PathPart.ofFirst (first :: rest) = some (.name (first :: rest)) := by
  unfold ofFirst
  split
  case h_1 empty => cases empty
  case h_2 same => exact absurd (List.cons.inj same).1 other
  case h_3 => exact ofText_of_head first rest other

/-- A slash ends a component, so that the components behind it follow those before. -/
theorem pathParts_append (left right : List Char) :
    pathParts (left ++ '/' :: right) =
      pathParts left ++ (right.splitOn '/').filterMap PathPart.ofText := by
  rw [pathParts, pathParts, List.splitOn_append_cons_self]
  cases parts : left.splitOn '/' with
  | nil => exact absurd parts (List.splitOn_ne_nil '/' left)
  | cons first rest =>
    dsimp only [List.cons_append]
    rw [List.filterMap_append, List.append_assoc]

/-- Slashes at the end of a path add no components. -/
theorem pathParts_slashes (path : List Char) (slashes : Nat) :
    pathParts (path ++ List.replicate slashes '/') = pathParts path := by
  induction slashes with
  | zero => rw [List.replicate_zero, List.append_nil]
  | succ slashes ih =>
    rw [List.replicate_succ', ← List.append_assoc, pathParts_append, ih]
    exact List.append_nil (pathParts path)

/-- A path that is one component and does not start with a dot ends in itself. -/
theorem pathParts_of_name (first : Char) (rest : List Char) (other : first ≠ '.')
    (noSlash : '/' ∉ first :: rest) : pathParts (first :: rest) = [.name (first :: rest)] := by
  rw [pathParts, List.splitOn_eq_singleton noSlash]
  dsimp only
  rw [PathPart.ofFirst_of_head first rest other]
  rfl

/-- Behind a directory such a component comes last. -/
theorem pathParts_in_directory (directory : List Char) (first : Char) (rest : List Char)
    (other : first ≠ '.') (noSlash : '/' ∉ first :: rest) :
    pathParts (directory ++ '/' :: first :: rest) =
      pathParts directory ++ [.name (first :: rest)] := by
  rw [pathParts_append, List.splitOn_eq_singleton noSlash, List.filterMap_cons_some]
  · rfl
  · exact PathPart.ofText_of_head first rest other

/-- The last dot of a name starts its extension, unless the name starts with it. -/
theorem withoutExtension_append (name extension : List Char) (filled : name ≠ [])
    (noDot : '.' ∉ extension) : withoutExtension (name ++ '.' :: extension) = name := by
  have passed : ∀ char ∈ extension.reverse, (char != '.') = true := by
    intro char mem
    rw [bne_iff_ne]
    rintro rfl
    exact noDot (List.mem_reverse.mp mem)
  have found : (name ++ '.' :: extension).reverse.dropWhile (· != '.') = '.' :: name.reverse := by
    rw [List.reverse_append, List.reverse_cons, List.append_assoc,
      List.dropWhile_append_of_pos passed]
    rfl
  rw [withoutExtension, found]
  cases reversed : name.reverse with
  | nil => exact absurd (List.reverse_eq_nil_iff.mp reversed) filled
  | cons last before =>
    dsimp only
    rw [← reversed, List.reverse_reverse]

/-- A name without dots has no extension. -/
theorem withoutExtension_of_plain (name : List Char) (noDot : '.' ∉ name) :
    withoutExtension name = name := by
  have none : name.reverse.dropWhile (· != '.') = [] := by
    rw [List.dropWhile_eq_nil_iff]
    intro char mem
    have other : char ≠ '.' := by
      rintro rfl
      exact noDot (List.mem_reverse.mp mem)
    exact bne_iff_ne.mpr other
  rw [withoutExtension, none]

/-- A text with neither slashes nor dots. -/
def Unmarked (text : String) : Prop := '/' ∉ text.toList ∧ '.' ∉ text.toList

instance (text : String) : Decidable (Unmarked text) := inferInstanceAs (Decidable (_ ∧ _))

/-- How a path leads to a file with some stem. -/
structure Route where
  /-- What stands before the name of the file and the slash in front of it, if it has one. -/
  directory : Option String
  /-- What follows the stem and a dot behind it, if it has one. -/
  extension : Option String
  /-- How many slashes follow the name. -/
  slashes : Nat
  /-- The extension is one, and the last one, of a single name. -/
  unmarked : ∀ text ∈ extension, Unmarked text

namespace Route

/-- The name of the file. -/
def file (route : Route) (stem : String) : String :=
  match route.extension with
  | some extension => stem ++ "." ++ extension
  | none => stem

/-- The path to the file. -/
def path (route : Route) (stem : String) : String :=
  let file := route.file stem
  let reached := match route.directory with
    | some directory => directory ++ "/" ++ file
    | none => file
  reached ++ String.ofList (List.replicate route.slashes '/')

variable (route : Route) (stem : String)

/-- The name of the file goes on from its stem. -/
theorem file_toList : ∃ behind, (route.file stem).toList = stem.toList ++ behind := by
  rw [file]
  split
  · rename_i extension _
    exact ⟨'.' :: extension.toList, by simp⟩
  · exact ⟨[], (List.append_nil _).symm⟩

/-- It has no slashes if its stem has none. -/
theorem file_noSlash (noSlash : '/' ∉ stem.toList) : '/' ∉ (route.file stem).toList := by
  have unmarked := route.unmarked
  rw [file]
  split
  · rename_i extension given
    have outside := (unmarked extension given).1
    simp [noSlash, outside]
  · exact noSlash

/-- Without its extension it is the stem. -/
theorem withoutExtension_file (filled : stem.toList ≠ []) (noDot : '.' ∉ stem.toList) :
    withoutExtension (route.file stem).toList = stem.toList := by
  have unmarked := route.unmarked
  rw [file]
  split
  · rename_i extension given
    have written : (stem ++ "." ++ extension).toList = stem.toList ++ '.' :: extension.toList := by
      simp
    rw [written]
    exact withoutExtension_append _ _ filled (unmarked extension given).2
  · exact withoutExtension_of_plain _ noDot

/-- The path ends in the file. -/
theorem fileName_path (filled : stem.toList ≠ []) (unmarked : Unmarked stem) :
    fileName (route.path stem).toList = some (route.file stem).toList := by
  obtain ⟨noSlash, noDot⟩ := unmarked
  have whole := route.file_noSlash stem noSlash
  have parts : ∃ before,
      pathParts (route.path stem).toList = before ++ [.name (route.file stem).toList] := by
    obtain ⟨behind, written⟩ := route.file_toList stem
    cases starts : stem.toList with
    | nil => exact absurd starts filled
    | cons first rest =>
      rw [starts] at noDot
      have other : first ≠ '.' := fun same => noDot (same ▸ List.mem_cons_self)
      rw [starts, List.cons_append] at written
      rw [written] at whole ⊢
      rw [path, String.toList_append, String.toList_ofList, pathParts_slashes]
      cases route.directory with
      | none =>
        rw [written]
        exact ⟨[], pathParts_of_name first _ other whole⟩
      | some directory =>
        have joined : (directory ++ "/" ++ route.file stem).toList =
            directory.toList ++ '/' :: first :: (rest ++ behind) := by
          simp [written]
        exact ⟨_, joined ▸ pathParts_in_directory directory.toList first _ other whole⟩
  obtain ⟨before, parts⟩ := parts
  rw [fileName, parts, List.getLast?_concat]

/-- The stem of the file that a path leads to is the stem that the path is written for. -/
theorem fileStem_path (filled : stem ≠ "") (unmarked : Unmarked stem) :
    fileStem (route.path stem) = some stem := by
  have chars : stem.toList ≠ [] := fun empty => filled (String.toList_eq_nil_iff.mp empty)
  have name := route.fileName_path stem chars unmarked
  rw [fileStem]
  split
  · rename_i empty
    rw [empty] at name
    cases name
  · rw [name, Option.map_some, route.withoutExtension_file stem chars unmarked.2,
      String.ofList_toList]

end Route

end Text

/-- The text form of an identifier is not empty and has neither slashes nor dots. -/
theorem Ulid.text_unmarked (id : Ulid) : id.text ≠ "" ∧ Text.Unmarked id.text := by
  have outside (char : Char) (other : char ∉ Base32.alphabet.toList) : char ∉ id.text.toList :=
    fun mem => other (id.text_in_alphabet char mem)
  refine ⟨fun empty => ?_, outside '/' (by decide), outside '.' (by decide)⟩
  have length := congrArg (fun text : String => text.toList.length) empty
  rw [text_eq, String.toList_ofList, List.length_map, Vector.length_toList] at length
  cases length

/-- It is the stem of its own file name. -/
theorem Ulid.fileStem_text (id : Ulid) : Text.fileStem id.text = some id.text := by
  obtain ⟨filled, unmarked⟩ := id.text_unmarked
  have stem := Text.Route.fileStem_path ⟨none, none, 0, nofun⟩ id.text filled unmarked
  have itself : id.text ++ String.ofList (List.replicate 0 '/') = id.text := String.append_empty
  rwa [Text.Route.path, Text.Route.file, itself] at stem

end SortableId
