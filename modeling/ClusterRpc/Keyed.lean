/-! # Association lists in increasing key order -/

namespace ClusterRpc

/-- A finite map from strings, written as its entries in increasing order of their keys. Strings are
ordered by code points, which is the order of their UTF-8 octets. -/
abbrev Keyed (α : Type) := List (String × α)

namespace Keyed

variable {α : Type}

def find? (m : Keyed α) (key : String) : Option α :=
  match m with
  | [] => none
  | (k, v) :: rest => if k = key then some v else find? rest key

/-- Sets the value of a key, in its place in the order. -/
def insert (m : Keyed α) (key : String) (value : α) : Keyed α :=
  match m with
  | [] => [(key, value)]
  | (k, v) :: rest =>
      match compare key k with
      | .lt => (key, value) :: (k, v) :: rest
      | .eq => (key, value) :: rest
      | .gt => (k, v) :: insert rest key value

def ofList (entries : List (String × α)) : Keyed α :=
  entries.foldl (fun m e => insert m e.1 e.2) []

section

variable {m : Keyed α} {key : String} {value : α}

/-- Setting a key changes what is found at that key only. -/
theorem find?_insert (m : Keyed α) (key : String) (value : α) (k : String) :
    (m.insert key value).find? k = if key = k then some value else m.find? k := by
  induction m with
  | nil => simp [insert, find?]
  | cons entry rest ih =>
      obtain ⟨k', v⟩ := entry
      simp only [insert]
      cases hc : compare key k' with
      | lt => simp [find?]
      | eq =>
          obtain rfl := Std.LawfulEqOrd.eq_of_compare hc
          simp only [find?]
          split <;> rfl
      | gt =>
          have hne : key ≠ k' := by
            rintro rfl
            simp at hc
          simp only [find?, ih]
          split
          · rename_i hk
            obtain rfl := hk
            rw [if_neg hne]
          · rfl

theorem mem_insert {e : String × α} (h : e ∈ m.insert key value) : e = (key, value) ∨ e ∈ m := by
  induction m with
  | nil => exact .inl (List.mem_singleton.1 h)
  | cons entry rest ih =>
      rw [insert] at h
      split at h
      · exact List.mem_cons.1 h
      · exact (List.mem_cons.1 h).imp_right (List.mem_cons_of_mem _)
      · rcases List.mem_cons.1 h with rfl | h
        · exact .inr List.mem_cons_self
        · exact (ih h).imp_right (List.mem_cons_of_mem _)

/-! ## Order -/

/-- The entries are in increasing order of their keys. -/
def Sorted (m : Keyed α) : Prop := m.Pairwise fun e f => compare e.1 f.1 = .lt

theorem Sorted.insert (h : m.Sorted) (key : String) (value : α) :
    Sorted (m.insert key value) := by
  induction m with
  | nil => exact List.pairwise_singleton _ _
  | cons entry rest ih =>
      obtain ⟨hentry, hrest⟩ := List.pairwise_cons.1 h
      rw [Keyed.insert]
      split
      · rename_i hlt
        refine List.pairwise_cons.2 ⟨fun e he => ?_, h⟩
        rcases List.mem_cons.1 he with rfl | he
        · exact hlt
        · exact Std.TransCmp.lt_trans hlt (hentry e he)
      · rename_i heq
        obtain rfl := Std.LawfulEqOrd.eq_of_compare heq
        exact List.pairwise_cons.2 ⟨hentry, hrest⟩
      · rename_i hgt
        refine List.pairwise_cons.2 ⟨fun e he => ?_, ih hrest⟩
        rcases mem_insert he with rfl | he
        · exact Std.OrientedCmp.lt_of_gt hgt
        · exact hentry e he

/-- A key above all others comes last. -/
theorem insert_last (h : ∀ e ∈ m, compare e.1 key = .lt) (value : α) :
    m.insert key value = m ++ [(key, value)] := by
  induction m with
  | nil => rfl
  | cons entry rest ih =>
      obtain ⟨hentry, hrest⟩ := List.forall_mem_cons.1 h
      rw [insert, Std.OrientedCmp.gt_of_lt hentry]
      exact congrArg _ (ih hrest)

/-- Entries in order are put one behind the other. -/
theorem foldl_insert_of_sorted {entries : Keyed α} (h : Sorted (m ++ entries)) :
    entries.foldl (fun m e => insert m e.1 e.2) m = m ++ entries := by
  induction entries generalizing m with
  | nil => exact (List.append_nil m).symm
  | cons entry rest ih =>
      have hlast : ∀ e ∈ m, compare e.1 entry.1 = .lt := fun e he =>
        (List.pairwise_append.1 h).2.2 e he entry List.mem_cons_self
      rw [List.append_cons] at h
      rw [List.foldl_cons, insert_last hlast, ih h, ← List.append_cons]

end

end Keyed

end ClusterRpc
