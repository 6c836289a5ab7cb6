import Mathlib.Algebra.BigOperators.Group.Multiset.Basic
import Mathlib.Tactic.Abel

namespace CommentBlocks

theorem sum_map_set {α M : Type} [AddCommMonoid M] (f : α → M) {l : List α} {i : Nat} {a : α}
    (b : α) (h : l[i]? = some a) :
    ((l.set i b).map f).sum + f a = (l.map f).sum + f b := by
  induction l generalizing i with
  | nil => simp at h
  | cons c l ih =>
    cases i with
    | zero =>
      obtain rfl : c = a := by simpa using h
      simp only [List.set_cons_zero, List.map_cons, List.sum_cons]
      abel
    | succ i =>
      have hs := ih (by simpa using h)
      simp only [List.set_cons_succ, List.map_cons, List.sum_cons, add_assoc, hs]

def tally {α β : Type} (f : α → List β) (l : List α) : Multiset β :=
  (l.map fun a => (f a : Multiset β)).sum

section tally

variable {α β : Type} (f : α → List β)

@[simp]
theorem tally_nil : tally f [] = 0 := rfl

@[simp]
theorem tally_cons (a : α) (l : List α) : tally f (a :: l) = f a + tally f l := by
  simp [tally]

@[simp]
theorem tally_append (l m : List α) : tally f (l ++ m) = tally f l + tally f m := by
  simp [tally]

theorem mem_tally {l : List α} {b : β} : b ∈ tally f l ↔ ∃ a ∈ l, b ∈ f a := by
  induction l with
  | nil => simp
  | cons a l ih => simp [ih]

theorem tally_map {γ : Type} (g : γ → α) (l : List γ) :
    tally f (l.map g) = tally (fun c => f (g c)) l := by
  simp [tally, Function.comp_def]

theorem tally_flatMap {γ : Type} (g : γ → List α) (l : List γ) :
    tally f (l.flatMap g) = (l.map fun c => tally f (g c)).sum := by
  induction l with
  | nil => rfl
  | cons c l ih => simp [ih]

theorem tally_set {l : List α} {i : Nat} {a : α} (b : α) (h : l[i]? = some a) :
    tally f (l.set i b) + f a = tally f l + f b :=
  sum_map_set (fun a => (f a : Multiset β)) b h

theorem tally_set_of_eq {l : List α} {i : Nat} {a b : α} (h : l[i]? = some a) (hf : f b = f a) :
    tally f (l.set i b) = tally f l := by
  have hs := tally_set f b h
  rw [hf] at hs
  exact add_right_cancel hs

/-- What a member gives away and what is added elsewhere keep the balance. -/
theorem coe_add_tally_set {l : List α} {i : Nat} {a b : α} {s s' : List β} (h : l[i]? = some a)
    (hs : s' ++ f b = s ++ f a) :
    (s' : Multiset β) + tally f (l.set i b) = s + tally f l := by
  have hf : (s' : Multiset β) + f b = s + f a := congrArg (fun l : List β => (l : Multiset β)) hs
  apply add_right_cancel (b := (f a : Multiset β))
  calc (s' : Multiset β) + tally f (l.set i b) + f a
      = (s' + f b) + tally f l := by rw [add_assoc, tally_set f b h]; abel
    _ = s + tally f l + f a := by rw [hf]; abel

theorem tally_eq_zero {l : List α} (h : ∀ a ∈ l, f a = []) : tally f l = 0 := by
  induction l with
  | nil => rfl
  | cons a l ih =>
    rw [tally_cons, h a List.mem_cons_self, ih fun b hb => h b (List.mem_cons_of_mem _ hb)]
    rfl

end tally

end CommentBlocks
