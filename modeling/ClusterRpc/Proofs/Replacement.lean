import ClusterRpc.Store.Disk
import Mathlib.Tactic.SplitIfs

/-!
# Replacing a file

A file is replaced by a draft that is moved over it. Whatever step fails, no file is another one
than before, the draft included: nobody else has a file by its name. If no step fails, one file has
new contents, and all others are as before.
-/

namespace ClusterRpc

/-! ## Names and places -/

namespace Path

/-- A name in one of the places is shorter than the unused one. -/
theorem length_lt_unused {places : List Path} {path : Path} (h : path ∈ places) {name : String}
    (hname : name ∈ path) : name.length < (unused places).length := by
  have hpart : name.toList.Sublist (places.flatten.flatMap String.toList) :=
    List.sublist_flatten_of_mem (List.mem_map.2 ⟨name, List.mem_flatten.2 ⟨path, h, hname⟩, rfl⟩)
  rw [unused, String.length_ofList, List.length_cons, ← String.length_toList]
  exact Nat.lt_succ_of_le hpart.length_le

/-- None of the places is a draft. -/
theorem unused_notMem (places : List Path) (folder : Path) :
    folder ++ [unused places] ∉ places := fun h =>
  absurd (length_lt_unused h (List.mem_append_right folder (List.mem_singleton.2 rfl)))
    (Nat.lt_irrefl _)

theorem misnomer?_empty : misnomer? "" = some 2 := by decide

end Path

namespace Disk

/-! ## Directories -/

section

variable {disk : Disk} {path place : Path}

theorem ancestors_append (folder : Path) (name : String) :
    ancestors (folder ++ [name]) = ancestors folder ++ [folder] := by
  simp only [ancestors, List.length_append, List.length_singleton, List.range_succ, List.map_append,
    List.map_cons, List.map_nil, List.take_left']
  refine congrArg (· ++ _) (List.map_congr_left fun i hi => ?_)
  exact List.take_append_of_le_length (Nat.le_of_lt (List.mem_range.1 hi))

theorem length_of_mem_ancestors (h : place ∈ ancestors path) : place.length < path.length := by
  obtain ⟨n, hn, rfl⟩ := List.mem_map.1 h
  rw [List.length_take]
  exact Nat.lt_of_le_of_lt (Nat.min_le_left _ _) (List.mem_range.1 hn)

/-- A place is made a directory with all that is on the way, and nothing else is. -/
theorem isDirectory_makeDirectory : (disk.makeDirectory path).isDirectory place =
    (disk.isDirectory place || (ancestors path ++ [path]).contains place) := by
  rw [isDirectory, makeDirectory]
  cases hknown : disk.isDirectory place with
  | true =>
      rw [isDirectory, Bool.or_eq_true] at hknown
      rw [Bool.true_or, Bool.or_eq_true]
      refine hknown.imp_right fun hmem => ?_
      rw [List.contains_iff_mem] at hmem ⊢
      exact List.mem_append_left _ hmem
  | false =>
      rw [isDirectory, Bool.or_eq_false_iff] at hknown
      have hunknown : place ∉ disk.directories := fun hmem =>
        Bool.false_ne_true (hknown.2.symm.trans (List.contains_iff_mem.2 hmem))
      have hnew : (!disk.isDirectory place) = true := by
        rw [isDirectory, hknown.1, hknown.2]
        rfl
      rw [Bool.false_or, hknown.1, Bool.false_or, Bool.eq_iff_iff, List.contains_iff_mem,
        List.contains_iff_mem, List.mem_append, List.mem_filter]
      exact ⟨fun hmem => (hmem.resolve_left hunknown).1, fun hmem => .inr ⟨hmem, hnew⟩⟩

end

/-! ## Files -/

theorem move_here (disk : Disk) (source target : Path) :
    (disk.move source target).here = disk.here := by
  rw [move]
  split <;> rfl

theorem move_sealed (disk : Disk) (source target : Path) :
    (disk.move source target).sealed = disk.sealed := by
  rw [move]
  split <;> rfl

theorem isDirectory_move (disk : Disk) (source target place : Path) :
    (disk.move source target).isDirectory place = disk.isDirectory place := by
  rw [move]
  split <;> rfl

section

variable {disk : Disk} {path place draft : Path} {content : Bytes}

theorem file?_eq_none_of_notMem (disk : Disk) (h : place ∉ disk.places) :
    disk.file? place = none := by
  rw [file?, Option.map_eq_none_iff, List.find?_eq_none]
  intro file hfile heq
  rw [beq_iff_eq] at heq
  exact h (List.mem_append_left _ (List.mem_map.2 ⟨file, hfile, heq⟩))

theorem file?_remove (disk : Disk) (path place : Path) :
    (disk.remove path).file? place = if place = path then none else disk.file? place := by
  rw [file?, remove, List.find?_filter]
  split
  · rename_i heq
    subst heq
    rw [Option.map_eq_none_iff, List.find?_eq_none]
    intro file _ hfile
    simp at hfile
  · rename_i hne
    have hsame : (fun file : Path × Bytes =>
        decide ((file.1 != path) = true ∧ (file.1 == place) = true)) =
          fun file => file.1 == place := by
      funext file
      by_cases hplace : file.1 = place
      · simp [hplace, hne]
      · simp [hplace]
    rw [hsame, file?]

theorem file?_put (disk : Disk) (path : Path) (content : Bytes) (place : Path) :
    (disk.put path content).file? place = if place = path then some content
      else disk.file? place := by
  have hremove := disk.file?_remove path place
  rw [file?] at hremove ⊢
  rw [put, List.find?_cons]
  by_cases hplace : path = place
  · simp [hplace]
  · rw [beq_eq_false_iff_ne.2 hplace]
    simp only [hremove, if_neg (Ne.symm hplace)]

/-- A draft that is given up leaves nothing. -/
theorem file?_put_remove (h : disk.file? draft = none) (content : Bytes) (place : Path) :
    ((disk.put draft content).remove draft).file? place = disk.file? place := by
  rw [file?_remove, file?_put]
  split_ifs with hplace
  · rw [hplace, h]
  · rfl

/-- A draft that is moved leaves nothing where it was. -/
theorem file?_put_move (h : disk.file? draft = none) (content : Bytes) (path place : Path) :
    ((disk.put draft content).move draft path).file? place =
      if place = path then some content else disk.file? place := by
  have hdraft : (disk.put draft content).file? draft = some content := by
    rw [file?_put, if_pos rfl]
  rw [move, hdraft]
  simp only [file?_put, file?_remove]
  split_ifs with hpath hplace
  · rfl
  · rw [hplace, h]
  · rfl

end

/-! ## Replacing -/

section

variable {disk : Disk} {written : String}

/-- Every file is as it was, and no other is there. -/
def SameFiles (disk disk' : Disk) : Prop := ∀ place, disk'.file? place = disk.file? place

/-- One file has these contents, and everywhere else it is as it was. -/
def SameFilesBut (path : Path) (content : Bytes) (disk disk' : Disk) : Prop :=
  ∀ place, disk'.file? place = if place = path then some content else disk.file? place

/-- A file is replaced, or else nothing happens to any file. -/
theorem replace_files (disk : Disk) (written : String) (content : Bytes) :
    ((disk.replace written content).1 = .ok () ∧
      SameFilesBut (Path.resolve disk.here written) content disk
        (disk.replace written content).2) ∨
      ∃ cause, (disk.replace written content).1 = .error cause ∧
        SameFiles disk (disk.replace written content).2 := by
  have hfresh (folder path : Path) : (disk.makeDirectory folder).file?
      (folder ++ [Path.unused (path :: disk.places)]) = none :=
    disk.file?_eq_none_of_notMem fun hmem =>
      Path.unused_notMem _ folder (List.mem_cons_of_mem path hmem)
  simp only [replace]
  split
  · exact .inr ⟨_, rfl, fun _ => rfl⟩
  · exact .inr ⟨_, rfl, fun _ => rfl⟩
  · exact .inr ⟨_, rfl, file?_put_remove (hfresh _ _) _⟩
  · exact .inr ⟨_, rfl, file?_put_remove (hfresh _ _) _⟩
  · split
    · exact .inr ⟨_, rfl, file?_put_remove (hfresh _ _) _⟩
    · exact .inl ⟨rfl, file?_put_move (hfresh _ _) _ _⟩

/-- A file can be put at a written place: no step fails, and it can be called so. -/
structure Open (disk : Disk) (written : String) : Prop where
  unsealed : disk.sealed = none
  named : Path.misnomer? written = none
  vacant : disk.isDirectory (Path.resolve disk.here written) = false

/-- A file that is there, with the directories on the way, is read. -/
theorem read_eq_ok {content : Bytes} (hnamed : Path.misnomer? written = none)
    (hway : ∀ place ∈ ancestors (Path.resolve disk.here written), disk.isDirectory place = true)
    (hvacant : disk.isDirectory (Path.resolve disk.here written) = false)
    (hfile : disk.file? (Path.resolve disk.here written) = some content) :
    disk.read written = .ok content := by
  have hwritten : written ≠ "" := by
    rintro rfl
    rw [Path.misnomer?_empty] at hnamed
    cases hnamed
  have hmissing : (ancestors (Path.resolve disk.here written)).find? (!disk.isDirectory ·) =
      none := by
    rw [List.find?_eq_none]
    intro place hplace
    rw [hway place hplace]
    exact Bool.false_ne_true
  simp only [read, if_neg hwritten, hmissing, hvacant, Bool.false_eq_true, if_false, hfile, hnamed,
    Option.isSome_none]

/-- Replacing a file at an open place makes the directories on the way, and no others. -/
theorem Open.replace_directories (h : disk.Open written) (content : Bytes) : ∃ disk',
    disk.replace written content = (.ok (), disk') ∧ disk'.here = disk.here ∧
      disk'.sealed = none ∧ ∀ place, disk'.isDirectory place =
        (disk.isDirectory place ||
          (ancestors (Path.resolve disk.here written)).contains place) := by
  have hvacant := h.vacant
  simp only [Disk.replace, h.unsealed, h.named]
  refine ⟨_, rfl, move_here .., (move_sealed ..).trans h.unsealed, fun place => ?_⟩
  rw [isDirectory_move]
  -- The root is a directory, so an open place is in a folder.
  rcases List.eq_nil_or_concat (Path.resolve disk.here written) with hroot | ⟨folder, name, hpath⟩
  · rw [hroot] at hvacant
    cases hvacant
  · rw [hpath, List.concat_eq_append, List.dropLast_concat, ancestors_append]
    exact isDirectory_makeDirectory

/-- A file is replaced at an open place, which stays open, and its contents are read there. -/
theorem Open.replace (h : disk.Open written) (content : Bytes) : ∃ disk',
    disk.replace written content = (.ok (), disk') ∧ disk'.Open written ∧
      disk'.read written = .ok content := by
  obtain ⟨disk', hreplace, hhere, hsealed, hdirectory⟩ := h.replace_directories content
  have hvacant : disk'.isDirectory (Path.resolve disk'.here written) = false := by
    rw [hhere, hdirectory, h.vacant, Bool.false_or, Bool.eq_false_iff, ne_eq,
      List.contains_iff_mem]
    exact fun hmem => Nat.lt_irrefl _ (length_of_mem_ancestors hmem)
  refine ⟨disk', hreplace, ⟨hsealed, h.named, hvacant⟩, read_eq_ok h.named ?_ hvacant ?_⟩
  · intro place hplace
    rw [hhere] at hplace
    rw [hdirectory, List.contains_iff_mem.2 hplace, Bool.or_true]
  · rcases disk.replace_files written content with ⟨-, hfiles⟩ | ⟨cause, hfailed, -⟩
    · rw [hreplace] at hfiles
      rw [hhere]
      exact (hfiles _).trans (if_pos rfl)
    · rw [hreplace] at hfailed
      cases hfailed

end

end Disk

end ClusterRpc
