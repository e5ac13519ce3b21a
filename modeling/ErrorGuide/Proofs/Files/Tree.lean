import ErrorGuide.Files.Tree

/-! Paths in trees of files. A path goes on from where its first parts lead, so what a name inside a
directory leads to depends on the directory alone. -/

namespace ErrorGuide

structure IsFileName (name : String) : Prop where
  not_slash : '/' ∉ name.toList
  not_nul : '\x00' ∉ name.toList
  ne_empty : name ≠ ""
  ne_dot : name ≠ "."
  ne_dots : name ≠ ".."

structure IsOpenPath (path : String) : Prop where
  ne_empty : path ≠ ""
  head : path.toList.head? ≠ some '/'
  last : path.toList.getLast? ≠ some '/'

section Join
variable {directory name : String}

theorem joinPath_eq (hd : IsOpenPath directory) (hn : IsFileName name) :
    joinPath directory name = directory ++ "/" ++ name := by
  have hhead : name.toList.head? ≠ some '/' := fun h => hn.not_slash (List.mem_of_mem_head? h)
  rw [joinPath, if_neg (by simp [hd.ne_empty, hhead]), if_neg hd.last]

theorem IsFileName.last (hn : IsFileName name) (cs : List Char) :
    (cs ++ name.toList).getLast? ≠ some '/' := by
  obtain ⟨c, hc⟩ : ∃ c, name.toList.getLast? = some c := by
    rw [← Option.isSome_iff_exists, List.getLast?_isSome]
    simpa using hn.ne_empty
  rw [List.getLast?_append, hc, Option.some_or, ← hc]
  exact fun h => hn.not_slash (List.mem_of_getLast? h)

theorem isOpenPath_joinPath (hd : IsOpenPath directory) (hn : IsFileName name) :
    IsOpenPath (joinPath directory name) := by
  rw [joinPath_eq hd hn]
  refine ⟨by simp, ?_, ?_⟩
  · obtain ⟨c, hc⟩ : ∃ c, directory.toList.head? = some c := by
      rw [← Option.isSome_iff_exists, List.isSome_head?]
      simpa using hd.ne_empty
    rw [String.append_assoc, String.toList_append, List.head?_append, hc, Option.some_or, ← hc]
    exact hd.head
  · rw [String.toList_append]
    exact hn.last _

end Join

namespace FileTree
variable {cs ds : List Char} {directory name : String} {above : List FileTree} {node : FileNode}

theorem splitPath_ne_nil (cs : List Char) : splitPath cs ≠ [] := by
  cases cs with
  | nil => simp [splitPath]
  | cons c cs =>
    rw [splitPath]
    split
    · simp
    · split <;> simp

theorem splitPath_append_slash (cs ds : List Char) :
    splitPath (cs ++ '/' :: ds) = splitPath cs ++ splitPath ds := by
  induction cs with
  | nil => simp [splitPath]
  | cons c cs ih =>
    rw [List.cons_append, splitPath, splitPath, ih]
    split
    · rfl
    · cases hcs : splitPath cs with
      | nil => exact absurd hcs (splitPath_ne_nil cs)
      | cons part parts => rfl

theorem splitPath_of_not_mem (h : '/' ∉ cs) : splitPath cs = [cs] := by
  induction cs with
  | nil => rfl
  | cons c cs ih =>
    obtain ⟨hc, hcs⟩ := List.ne_and_not_mem_of_not_mem_cons h
    rw [splitPath, if_neg hc.symm, ih hcs]

theorem pathParts_joinPath (hd : IsOpenPath directory) (hn : IsFileName name) :
    pathParts (joinPath directory name) = pathParts directory ++ [name] := by
  have hsplit : splitPath (directory ++ "/" ++ name).toList =
      splitPath directory.toList ++ [name.toList] := by
    rw [String.append_assoc, String.toList_append, String.toList_append,
      ← splitPath_of_not_mem hn.not_slash]
    exact splitPath_append_slash _ _
  rw [joinPath_eq hd hn, pathParts, hsplit, List.map_append, List.map_singleton,
    String.ofList_toList]
  rfl

/-- What follows after some parts goes on from where these lead. -/
theorem follow_append (above : List FileTree) (node : FileNode) (parts : List String) :
    ∃ above', ∀ more, follow above node (parts ++ more) =
      match follow above node parts with
      | .error f => .error f
      | .ok node => follow above' node more := by
  -- A step up shortens what is above and a step down extends it, so this is generalized.
  induction parts generalizing above node with
  | nil => exact ⟨above, fun more => by cases node <;> rfl⟩
  | cons part parts ih =>
    cases node with
    | file text => exact ⟨[], fun more => rfl⟩
    | directory entries =>
      simp only [List.cons_append, follow]
      split
      · exact ih _ _
      · split
        · split
          · exact ⟨[], fun more => rfl⟩
          · exact ih _ _
        · split
          · exact ⟨[], fun more => rfl⟩
          · exact ih _ _

theorem follow_name (hn : IsFileName name) :
    follow above node [name] =
      match node with
      | .file _ => .error .notDirectory
      | .directory entries => match entries.lookup name with
        | none => .error .notFound
        | some node => .ok node := by
  cases node with
  | file text => rfl
  | directory entries =>
    rw [follow.eq_def]
    dsimp only
    rw [if_neg (not_or.2 ⟨hn.ne_empty, hn.ne_dot⟩), if_neg hn.ne_dots]
    cases entries.lookup name with
    | none => rfl
    | some node => cases node <;> rfl

theorem find_of_isOpenPath (t : FileTree) {path : String} (hp : IsOpenPath path) :
    t.find path = if path.toList.contains '\x00' then .error .nulInName
      else follow [] (.directory t) (pathParts path) := by
  have hslash : path ≠ "/" := by
    rintro rfl
    exact hp.head rfl
  rw [find, if_neg hslash, if_neg (not_or.2 ⟨hp.ne_empty, hp.head⟩)]

/-- What a name inside a directory leads to. -/
theorem find_joinPath (t : FileTree) (hd : IsOpenPath directory) (hn : IsFileName name) :
    t.find (joinPath directory name) =
      match t.find directory with
      | .error f => .error f
      | .ok (.file _) => .error .notDirectory
      | .ok (.directory entries) => match entries.lookup name with
        | none => .error .notFound
        | some node => .ok node := by
  have hnul : (joinPath directory name).toList.contains '\x00' =
      directory.toList.contains '\x00' := by
    simp [joinPath_eq hd hn, hn.not_nul]
  obtain ⟨above, hfollow⟩ := follow_append [] (.directory t) (pathParts directory)
  rw [find_of_isOpenPath t (isOpenPath_joinPath hd hn), find_of_isOpenPath t hd, hnul]
  split
  · rfl
  · rw [pathParts_joinPath hd hn, hfollow]
    cases follow [] (.directory t) (pathParts directory) with
    | error f => rfl
    | ok node =>
      simp only [follow_name hn]
      cases node <;> rfl

end FileTree
end ErrorGuide
