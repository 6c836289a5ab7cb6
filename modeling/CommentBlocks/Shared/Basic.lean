namespace CommentBlocks

structure Shared (α : Type) where
  values : List α
  holders : List Nat

namespace Shared

variable {α : Type}

def empty : Shared α := ⟨[], []⟩

def create (s : Shared α) (a : α) : Shared α × Nat :=
  (⟨s.values ++ [a], s.holders ++ [s.values.length]⟩, s.holders.length)

def clone? (s : Shared α) (handle : Nat) : Option (Shared α × Nat) :=
  s.holders[handle]?.map fun place =>
    ({ s with holders := s.holders ++ [place] }, s.holders.length)

def get? (s : Shared α) (handle : Nat) : Option α := s.holders[handle]?.bind (s.values[·]?)

def modify (s : Shared α) (handle : Nat) (f : α → α) : Shared α :=
  match s.holders[handle]? with
  | some place => { s with values := s.values.modify place f }
  | none => s

end Shared

end CommentBlocks
