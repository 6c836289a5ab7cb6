import CommentBlocks.Proofs.Disk.Names
import Mathlib.Data.List.Nodup

namespace CommentBlocks

open CommentBlocks.Path

namespace Node

theorem get?_append (n : Node) (a b : Location) :
    n.get? (a ++ b) = (n.get? a).bind (·.get? b) := by
  induction a generalizing n with
  | nil => simp [get?]
  | cons name a ih =>
    cases n with
    | file | link => simp [get?]
    | directory entries =>
      simp only [List.cons_append, get?, Option.bind_assoc]
      congr 1
      funext m
      exact ih m

theorem exists_directory_of_get?_append {n m : Node} {a b : Location}
    (h : n.get? (a ++ b) = some m) (hb : b ≠ []) :
    ∃ entries, n.get? a = some (directory entries) := by
  rw [get?_append] at h
  obtain ⟨k, hk, hm⟩ := Option.bind_eq_some_iff.mp h
  obtain ⟨name, rest, rfl⟩ := List.exists_cons_of_ne_nil hb
  cases k with
  | directory entries => exact ⟨entries, hk⟩
  | file | link => simp [get?] at hm

theorem get?_concat {n : Node} {loc : Location} {entries : List (String × Node)}
    (h : n.get? loc = some (.directory entries)) (name : String) :
    n.get? (loc ++ [name]) = child? name entries := by
  rw [get?_append, h]
  simp only [Option.bind_some, get?]
  cases child? name entries <;> rfl

theorem child?_cons (name s : String) (n : Node) (rest : List (String × Node)) :
    child? name ((s, n) :: rest) = if s = name then some n else child? name rest := by
  by_cases h : s = name <;> simp [child?, h]

theorem WellNamed.isName_of_get? {n m : Node} (h : n.WellNamed) {loc : Location}
    (hm : n.get? loc = some m) : ∀ name ∈ loc, IsName name := by
  induction loc generalizing n with
  | nil => simp
  | cons name loc ih =>
    cases n with
    | file | link => simp [get?] at hm
    | directory entries =>
      obtain ⟨k, hc, hk⟩ := Option.bind_eq_some_iff.mp (by simpa [get?] using hm)
      obtain ⟨hn, hw⟩ := (wellNamed_directory_iff.mp h).2 _ (mem_of_child? hc)
      exact List.forall_mem_cons.mpr ⟨hn, ih hw hk⟩

theorem mem_inOrder {entries : List (String × Node)} {e : String × Node} :
    e ∈ inOrder entries ↔ e ∈ entries :=
  (List.mergeSort_perm entries isBefore).mem_iff

theorem isBefore_iff {a b : String × Node} : isBefore a b = true ↔ a.1 ≤ b.1 := by
  simp only [isBefore, Bool.not_eq_true', decide_eq_false_iff_not, String.not_lt]

theorem pairwise_inOrder {entries : List (String × Node)} (h : (entries.map Prod.fst).Nodup) :
    (inOrder entries).Pairwise (·.1 < ·.1) := by
  have hle : (inOrder entries).Pairwise fun a b => isBefore a b = true := by
    apply List.pairwise_mergeSort
    · intro a b c hab hbc
      rw [isBefore_iff] at *
      exact String.le_trans hab hbc
    · intro a b
      rw [Bool.or_eq_true, isBefore_iff, isBefore_iff]
      exact String.le_total a.1 b.1
  have hne : (inOrder entries).Pairwise (·.1 ≠ ·.1) := by
    have hp := ((List.mergeSort_perm entries isBefore).map Prod.fst).nodup_iff.mpr h
    exact List.pairwise_map.mp hp
  refine (hle.and hne).imp fun {a b} hab => ?_
  exact Std.lt_of_le_of_ne (isBefore_iff.mp hab.1) hab.2

end Node

end CommentBlocks
