import Pastiche.Proofs.Text.Split
import Pastiche.Store.Node

/-!
Keys and paths. The path of a key has no dots in its names, and the key is its names with dots
between them; so a path with a dot in a name is the path of no key.
-/

namespace Pastiche.Node

theorem path_ne_nil (key : String) : path key ≠ [] := by
  simp [path, List.splitOn_ne_nil]

theorem not_mem_of_mem_path {key name : String} (h : name ∈ path key) : '.' ∉ name.toList := by
  obtain ⟨part, hpart, rfl⟩ := List.mem_map.mp h
  rw [String.toList_ofList]
  exact Text.not_mem_of_mem_splitOn hpart

theorem intercalate_path (key : String) : ".".intercalate (path key) = key := by
  have hparts : (path key).map String.toList = key.toList.splitOn '.' := by
    simp [path, Function.comp_def]
  refine String.toList_inj.mp ?_
  rw [String.toList_intercalate, hparts]
  exact List.intercalate_splitOn '.'

theorem path_intercalate {names : List String} (hne : names ≠ [])
    (h : ∀ name ∈ names, '.' ∉ name.toList) : path (".".intercalate names) = names := by
  have hparts : ∀ part ∈ names.map String.toList, '.' ∉ part := by
    intro part hpart
    obtain ⟨name, hname, rfl⟩ := List.mem_map.mp hpart
    exact h name hname
  have hsplit := List.splitOn_intercalate '.' hparts (by simpa using hne)
  rw [path, String.toList_intercalate]
  change (List.splitOn '.' (['.'].intercalate (names.map String.toList))).map String.ofList = names
  rw [hsplit]
  simp [Function.comp_def]

/-- A path belongs to one key at most, and to none if there is a dot in one of its names. -/
theorem path_eq_iff {key : String} {names : List String} (hne : names ≠ []) :
    path key = names ↔ key = ".".intercalate names ∧ ∀ name ∈ names, '.' ∉ name.toList := by
  constructor
  · rintro rfl
    exact ⟨(intercalate_path key).symm, fun name hname => not_mem_of_mem_path hname⟩
  · rintro ⟨rfl, h⟩
    exact path_intercalate hne h

/-- The key is these names with dots between them, and no other dot is in it. -/
structure Spells (names : List String) (key : String) : Prop where
  nonempty : names ≠ []
  plain : ∀ name ∈ names, '.' ∉ name.toList
  joined : key = ".".intercalate names

theorem spells_path (key : String) : Spells (path key) key :=
  ⟨path_ne_nil key, fun _ => not_mem_of_mem_path, (intercalate_path key).symm⟩

theorem Spells.path_eq {names : List String} {key : String} (h : Spells names key) :
    path key = names :=
  (path_eq_iff h.nonempty).mpr ⟨h.joined, h.plain⟩

theorem path_append (front rest : String) :
    path (front ++ "." ++ rest) = path front ++ path rest := by
  have hkey : (front ++ "." ++ rest).toList = front.toList ++ '.' :: rest.toList := by simp
  rw [path, hkey, List.splitOn_append_cons_self, List.map_append]
  rfl

theorem exists_append_of_path {key : String} {front rest : List String} (hfront : front ≠ [])
    (hrest : rest ≠ []) (h : path key = front ++ rest) :
    ∃ first second, key = first ++ "." ++ second ∧ path first = front ∧ path second = rest := by
  have hdots : ∀ name ∈ front ++ rest, '.' ∉ name.toList :=
    fun name hname => not_mem_of_mem_path (h ▸ hname)
  have hfirst := path_intercalate hfront fun name hname => hdots name (List.mem_append_left _ hname)
  have hsecond := path_intercalate hrest fun name hname => hdots name (List.mem_append_right _ hname)
  refine ⟨".".intercalate front, ".".intercalate rest, ?_, hfirst, hsecond⟩
  rw [← String.intercalate_append_of_ne_nil hfront hrest, ← h, intercalate_path]

end Pastiche.Node
