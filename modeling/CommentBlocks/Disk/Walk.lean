import CommentBlocks.Disk.Resolve

namespace CommentBlocks

/-- Directories that are being walked, innermost first, with the paths on which they were come to.
-/
abbrev Trail := List (Location × String)

namespace Disk

def unvisited (d : Disk) (trail : Trail) : Nat :=
  d.root.directories.countP fun loc => trail.all (·.1 != loc)

theorem unvisited_cons_le (d : Disk) (trail : Trail) (step : Location × String) :
    d.unvisited (step :: trail) ≤ d.unvisited trail :=
  List.countP_mono_left fun loc _ h => by
    rw [List.all_cons, Bool.and_eq_true] at h
    exact h.2

theorem countP_lt_countP {α : Type} {p q : α → Bool} {as : List α} (h : ∀ a ∈ as, p a → q a)
    {x : α} (hx : x ∈ as) (hp : p x = false) (hq : q x = true) : as.countP p < as.countP q := by
  induction as with
  | nil => simp at hx
  | cons a as ih =>
    have hle := List.countP_mono_left fun b hb => h b (List.mem_cons_of_mem _ hb)
    have ha := h a List.mem_cons_self
    rcases List.mem_cons.mp hx with rfl | hm
    · rw [List.countP_cons_of_neg (by simp [hp]), List.countP_cons_of_pos hq]
      omega
    · have hlt := ih (fun b hb => h b (List.mem_cons_of_mem _ hb)) hm
      rw [List.countP_cons, List.countP_cons]
      cases hpa : p a with
      | true =>
        rw [ha hpa]
        simpa using hlt
      | false =>
        simp only [Bool.false_eq_true, if_false]
        omega

theorem unvisited_cons_lt {d : Disk} {trail : Trail} {loc : Location} {path : String}
    {entries : List (String × Node)} (hd : d.root.get? loc = some (.directory entries))
    (ht : trail.find? (·.1 == loc) = none) :
    d.unvisited ((loc, path) :: trail) < d.unvisited trail := by
  refine countP_lt_countP (x := loc) (fun l _ h => ?_) (Node.mem_directories_of_get? hd) ?_ ?_
  · rw [List.all_cons, Bool.and_eq_true] at h
    exact h.2
  · simp
  · simpa [List.find?_eq_none] using ht

/-- Lists the files among `entries`, which stand in the directory at `place`, and in `levels` more
levels below. `skip` leaves out a file, or a directory with all that it holds. A directory below
can be entered unless the path to it is too long. -/
def walkEntries (d : Disk) (skip : String → Bool → Bool) (levels : Option Nat) (trail : Trail)
    (path : String) (place : Location) (entries : List (String × Node)) :
    Except WalkError (List String) :=
  match entries with
  | [] => .ok []
  | (name, node) :: rest =>
    let child := Path.join path name
    let found : Except WalkError (List String) :=
      match node with
      | .file _ => .ok (if skip child false then [] else [child])
      | .directory inner =>
        if skip child true || levels == some 0 then .ok []
        else if pathLimit ≤ Path.byteLength child then
          .error (.unreadable child (.system .nameTooLong))
        else
          d.walkEntries skip (levels.map (· - 1)) ((place ++ [name], child) :: trail) child
            (place ++ [name]) (Node.inOrder inner)
      | .link _ =>
        match d.resolve child with
        | .error e => .error (.unreadable child e)
        | .ok target =>
          match _hd : d.root.get? target with
          | some (.directory inner) =>
            match _ht : trail.find? (·.1 == target) with
            | some (_, ancestor) => .error (.loop child ancestor)
            | none =>
              if skip child true || levels == some 0 then .ok []
              else
                d.walkEntries skip (levels.map (· - 1)) ((target, child) :: trail) child target
                  (Node.inOrder inner)
          | _ => .ok (if skip child false then [] else [child])
    found.bind fun files => (d.walkEntries skip levels trail path place rest).map (files ++ ·)
termination_by (d.unvisited trail, Node.entriesWeight entries)
decreasing_by
  · rcases Nat.lt_or_eq_of_le (unvisited_cons_le d trail (place ++ [name], child)) with h | h
    · exact .left _ _ h
    · rw [h]
      refine .right _ ?_
      rw [Node.entriesWeight_inOrder, Node.entriesWeight, Node.weight]
      omega
  · exact .left _ _ (unvisited_cons_lt _hd _ht)
  · refine .right _ ?_
    rw [Node.entriesWeight]
    omega

def walk (d : Disk) (skip : String → Bool → Bool) (levels : Option Nat) (root : String) :
    Except WalkError (List String) :=
  if Path.components root = [.name "-"] then .ok []
  else
    match d.resolve root with
    | .error e => .error (.unreadable root e)
    | .ok place =>
      match d.root.get? place with
      | some (.directory entries) =>
        if levels = some 0 then .ok []
        else
          d.walkEntries skip (levels.map (· - 1)) [(place, root)] root place
            (Node.inOrder entries)
      | _ => .ok [root]

end Disk

end CommentBlocks
