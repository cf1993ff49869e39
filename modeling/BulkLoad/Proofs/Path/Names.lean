import BulkLoad.Path

/-!
The names on a path, and a name joined to a directory as one more.
-/

namespace BulkLoad.Path

/-- A name that leads somewhere: it is not empty, and not the dot that stands for where one is. -/
def isName (name : List Char) : Bool := name != [] && name != ['.']

/-- The names on a path, from the outermost to the last. -/
def names (path : String) : List String :=
  ((path.toList.splitOnP (· == '/')).filter isName).map String.ofList

/-- The path leads to the directory, and from there by one name to something in it. -/
def IsChild (directory path : String) : Prop :=
  path.startsWith "/" = directory.startsWith "/" ∧
  ∃ name, name ≠ ".." ∧ names path = names directory ++ [name]

variable {directory name : String}

theorem endsWith_slash_iff {path : String} :
    path.endsWith "/" = true ↔ ∃ front, path.toList = front ++ ['/'] := by
  rw [← String.endsWith_toSlice, String.Slice.endsWith_string_iff]
  constructor
  · rintro ⟨front, hfront⟩
    exact ⟨front, by simpa using hfront.symm⟩
  · rintro ⟨front, hfront⟩
    exact ⟨front, by simpa using hfront.symm⟩

theorem startsWith_slash_iff {path : String} :
    path.startsWith "/" = true ↔ path.toList.head? = some '/' := by
  rw [String.startsWith_string_iff]
  cases h : path.toList <;> simp [List.cons_prefix_cons, eq_comm]

theorem splitOnP_name (hname : '/' ∉ name.toList) :
    name.toList.splitOnP (· == '/') = [name.toList] := by
  refine List.splitOnP_eq_singleton fun c hc => ?_
  have hne : c ≠ '/' := fun h => hname (h ▸ hc)
  simpa using hne

theorem names_of_append {path : String} {front : List Char}
    (hpath : path.toList = front ++ '/' :: name.toList) (hname : '/' ∉ name.toList)
    (hleads : isName name.toList = true) :
    names path = ((front.splitOnP (· == '/')).filter isName).map String.ofList ++ [name] := by
  rw [names, hpath, List.splitOnP_append_cons front _ (by rfl), splitOnP_name hname]
  simp [hleads]

theorem not_startsWith_slash (hname : '/' ∉ name.toList) : name.startsWith "/" = false := by
  rw [← Bool.not_eq_true, startsWith_slash_iff]
  exact fun h => hname (List.mem_of_mem_head? h)

theorem startsWith_append {path tail : String} (h : path ≠ "") :
    (path ++ tail).startsWith "/" = path.startsWith "/" := by
  rw [Bool.eq_iff_iff, startsWith_slash_iff, startsWith_slash_iff, String.toList_append]
  cases hlist : path.toList with
  | nil => exact absurd (String.toList_eq_nil_iff.1 hlist) h
  | cons c rest => rfl

/-- What a name is joined to stands before it, with a separator between the two. -/
theorem join_cases (directory : String) (hname : '/' ∉ name.toList) :
    (directory = "" ∧ join directory name = name) ∨
      directory ≠ "" ∧ (∃ front, directory.toList = front ++ ['/'] ∧
        join directory name = directory ++ name) ∨
      directory ≠ "" ∧ join directory name = directory ++ "/" ++ name := by
  rw [join, if_neg (by simp [not_startsWith_slash hname])]
  by_cases hempty : directory = ""
  · subst hempty
    exact .inl ⟨rfl, by rw [if_pos (by rfl), String.empty_append]⟩
  · cases hslash : directory.endsWith "/" with
    | true =>
      rw [if_pos (by simp)]
      exact .inr (.inl ⟨hempty, (endsWith_slash_iff.1 hslash).imp fun _ hfront => ⟨hfront, rfl⟩⟩)
    | false =>
      rw [if_neg (by simpa using hempty)]
      exact .inr (.inr ⟨hempty, rfl⟩)

theorem startsWith_join (hname : '/' ∉ name.toList) :
    (join directory name).startsWith "/" = directory.startsWith "/" := by
  rcases join_cases directory hname with
    ⟨rfl, hjoin⟩ | ⟨hempty, ⟨_, -, hjoin⟩⟩ | ⟨hempty, hjoin⟩
  · rw [hjoin, not_startsWith_slash hname]
    rfl
  · rw [hjoin, startsWith_append hempty]
  · rw [hjoin, String.append_assoc, startsWith_append hempty]

/-- A name is joined to a directory as one more name. -/
theorem names_join (hname : '/' ∉ name.toList) (hleads : isName name.toList = true) :
    names (join directory name) = names directory ++ [name] := by
  rcases join_cases directory hname with
    ⟨rfl, hjoin⟩ | ⟨-, ⟨front, hfront, hjoin⟩⟩ | ⟨-, hjoin⟩
  · rw [hjoin, names, splitOnP_name hname, List.filter_cons_of_pos hleads]
    simp [names, isName]
  · have hpath : (directory ++ name).toList = front ++ '/' :: name.toList := by simp [hfront]
    rw [hjoin, names_of_append hpath hname hleads, names, hfront,
      List.splitOnP_append_cons front _ (by rfl)]
    simp [isName]
  · have hpath : (directory ++ "/" ++ name).toList =
      directory.toList ++ '/' :: name.toList := by simp
    rw [hjoin, names_of_append hpath hname hleads, names]

theorem isChild_join (hname : '/' ∉ name.toList) (hleads : isName name.toList = true)
    (hup : name ≠ "..") : IsChild directory (join directory name) :=
  ⟨startsWith_join hname, name, hup, names_join hname hleads⟩

end BulkLoad.Path
