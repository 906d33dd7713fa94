/-!
# Names — sets of names, ascending and each name once
-/
namespace Wiring
namespace Names

def insert (n : String) : List String → List String
  | [] => [n]
  | m :: ms => if n < m then n :: m :: ms else if n = m then m :: ms else m :: insert n ms

def ofList (ns : List String) : List String := ns.foldr insert []

/-- The first occurrence of every name, in the list's order. -/
def distinct : List String → List String
  | [] => []
  | n :: ns => n :: (distinct ns).filter (· != n)

theorem mem_insert {m n : String} : ∀ {ns : List String}, m ∈ insert n ns ↔ m = n ∨ m ∈ ns
  | [] => by simp [insert]
  | k :: ks => by
    rw [insert]
    split
    · simp
    · split
      · rename_i hnk
        subst hnk
        simp
      · rw [List.mem_cons, mem_insert, List.mem_cons, or_left_comm]

/-- **A set holds the names of its list and no others.** -/
theorem mem_ofList {m : String} : ∀ {ns : List String}, m ∈ ofList ns ↔ m ∈ ns
  | [] => by simp [ofList]
  | n :: ns => by
    rw [show ofList (n :: ns) = insert n (ofList ns) from rfl, mem_insert, mem_ofList, List.mem_cons]

theorem insert_ascending {n : String} : ∀ {ns : List String}, ns.Pairwise (· < ·) → (insert n ns).Pairwise (· < ·)
  | [], _ => by simp [insert]
  | k :: ks, h => by
    have hk := List.pairwise_cons.1 h
    rw [insert]
    split
    · rename_i hnk
      exact List.pairwise_cons.2 ⟨fun m hm => (List.mem_cons.1 hm).elim (fun e => e ▸ hnk)
        fun hm => String.lt_trans hnk (hk.1 m hm), h⟩
    · rename_i hnk
      split
      · exact h
      · rename_i hne
        have hkn : k < n := Std.lt_of_le_of_ne (String.not_lt.1 hnk) (Ne.symm hne)
        refine List.pairwise_cons.2 ⟨fun m hm => ?_, insert_ascending hk.2⟩
        exact (mem_insert.1 hm).elim (fun e => e ▸ hkn) (hk.1 m)

/-- **The names of a set ascend, so that each is there once.** -/
theorem ofList_ascending : ∀ ns : List String, (ofList ns).Pairwise (· < ·)
  | [] => List.Pairwise.nil
  | _ :: ns => insert_ascending (ofList_ascending ns)

end Names
end Wiring
