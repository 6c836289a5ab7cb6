import CommentBlocks.Disk.Walk

namespace CommentBlocks.Disk

def linkFiles (d : Disk) (skip : String → Bool → Bool) (levels : Option Nat) (trail : Trail)
    (child : String) : Except WalkError (List String) :=
  match d.resolve child with
  | .error e => .error (.unreadable child e)
  | .ok target =>
    match d.root.get? target with
    | some (.directory inner) =>
      match trail.find? (·.1 == target) with
      | some (_, ancestor) => .error (.loop child ancestor)
      | none =>
        if skip child true || levels == some 0 then .ok []
        else
          d.walkEntries skip (levels.map (· - 1)) ((target, child) :: trail) child target
            (Node.inOrder inner)
    | _ => .ok (if skip child false then [] else [child])

theorem walkEntries_link (d : Disk) (skip : String → Bool → Bool) (levels : Option Nat)
    (trail : Trail) (path : String) (place : Location) (name link : String)
    (rest : List (String × Node)) :
    d.walkEntries skip levels trail path place ((name, .link link) :: rest) =
      (d.linkFiles skip levels trail (Path.join path name)).bind fun files =>
        (d.walkEntries skip levels trail path place rest).map (files ++ ·) := by
  rw [walkEntries, linkFiles]
  congr 1
  cases d.resolve (Path.join path name) with
  | error => rfl
  | ok target =>
    dsimp only
    cases d.root.get? target with
    | none => rfl
    | some n =>
      cases n with
      | file | link => rfl
      | directory inner => cases trail.find? (·.1 == target) <;> rfl

/-- To show something of every stretch of a walk, one shows it of an empty stretch, and of a stretch
with an entry in front given that it holds of the entries behind, of the entry's own directory, and
of any directory that a link may lead to from here. -/
theorem walk_induction (d : Disk)
    {motive : Option Nat → Trail → String → Location → List (String × Node) → Prop}
    (nil : ∀ levels trail path place, motive levels trail path place [])
    (cons : ∀ levels trail path place name node rest,
      motive levels trail path place rest →
      (∀ inner, node = .directory inner →
        motive (levels.map (· - 1)) ((place ++ [name], Path.join path name) :: trail)
          (Path.join path name) (place ++ [name]) (Node.inOrder inner)) →
      (∀ target inner, d.root.get? target = some (.directory inner) →
        trail.find? (·.1 == target) = none →
        motive (levels.map (· - 1)) ((target, Path.join path name) :: trail)
          (Path.join path name) target (Node.inOrder inner)) →
      motive levels trail path place ((name, node) :: rest))
    (levels : Option Nat) (trail : Trail) (path : String) (place : Location)
    (entries : List (String × Node)) : motive levels trail path place entries := by
  match entries with
  | [] => exact nil levels trail path place
  | (name, node) :: rest =>
    apply cons
    · exact walk_induction d nil cons levels trail path place rest
    · intro inner hn
      exact walk_induction d nil cons _ _ _ _ (Node.inOrder inner)
    · intro target inner hd ht
      exact walk_induction d nil cons _ _ _ _ (Node.inOrder inner)
termination_by (d.unvisited trail, Node.entriesWeight entries)
decreasing_by
  · refine .right _ ?_
    rw [Node.entriesWeight]
    omega
  · rcases Nat.lt_or_eq_of_le
      (unvisited_cons_le d trail (place ++ [name], Path.join path name)) with h | h
    · exact .left _ _ h
    · rw [h]
      refine .right _ ?_
      rw [Node.entriesWeight_inOrder, Node.entriesWeight, hn, Node.weight]
      omega
  · exact .left _ _ (unvisited_cons_lt hd ht)

end CommentBlocks.Disk
