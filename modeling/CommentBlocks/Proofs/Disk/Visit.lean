import CommentBlocks.Proofs.Disk.Walk
import CommentBlocks.Proofs.Disk.Tree

namespace CommentBlocks

open CommentBlocks.Path

namespace Disk

/-- Where a walk is: in the directory at `place`, come to on `path`, with the levels that it goes
down from there and the directories that it is in the middle of. -/
structure Visit where
  levels : Option Nat
  trail : Trail
  path : String
  place : Location

namespace Visit

def enter (v : Visit) (name : String) (place : Location) : Visit :=
  ⟨v.levels.map (· - 1), (place, join v.path name) :: v.trail, join v.path name, place⟩

end Visit

inductive Enters (d : Disk) (skip : String → Bool → Bool) (v : Visit) (name : String) : Visit → Prop
  | directory {inner} (hn : d.root.get? (v.place ++ [name]) = some (.directory inner))
    (hs : skip (join v.path name) true = false) (hl : v.levels ≠ some 0)
    (hp : byteLength (join v.path name) < pathLimit) :
    Enters d skip v name (v.enter name (v.place ++ [name]))
  | link {link target inner} (hn : d.root.get? (v.place ++ [name]) = some (.link link))
    (hr : d.resolve (join v.path name) = .ok target)
    (hd : d.root.get? target = some (.directory inner))
    (ht : v.trail.find? (·.1 == target) = none)
    (hs : skip (join v.path name) true = false) (hl : v.levels ≠ some 0) :
    Enters d skip v name (v.enter name target)

/-- The walk is stopped by the entry with this name: a directory to be entered on too long a path,
or a link that leads nowhere or back to a directory that the walk is in the middle of. -/
inductive Stops (d : Disk) (skip : String → Bool → Bool) (v : Visit) (name : String) :
    WalkError → Prop
  | long {inner} (hn : d.root.get? (v.place ++ [name]) = some (.directory inner))
    (hs : skip (join v.path name) true = false) (hl : v.levels ≠ some 0)
    (hp : pathLimit ≤ byteLength (join v.path name)) :
    Stops d skip v name (.unreadable (join v.path name) (.system .nameTooLong))
  | unreadable {link e} (hn : d.root.get? (v.place ++ [name]) = some (.link link))
    (hr : d.resolve (join v.path name) = .error e) :
    Stops d skip v name (.unreadable (join v.path name) e)
  | loop {link target inner step} (hn : d.root.get? (v.place ++ [name]) = some (.link link))
    (hr : d.resolve (join v.path name) = .ok target)
    (hd : d.root.get? target = some (.directory inner))
    (ht : v.trail.find? (·.1 == target) = some step) :
    Stops d skip v name (.loop (join v.path name) step.2)

inductive Keeps (d : Disk) (skip : String → Bool → Bool) (v : Visit) (name : String) : Prop
  | file {data} (hn : d.root.get? (v.place ++ [name]) = some (.file data))
    (hs : skip (join v.path name) false = false) : Keeps d skip v name
  | link {link target} (hn : d.root.get? (v.place ++ [name]) = some (.link link))
    (hr : d.resolve (join v.path name) = .ok target)
    (hd : ∀ inner, d.root.get? target ≠ some (.directory inner))
    (hs : skip (join v.path name) false = false) : Keeps d skip v name

inductive Stuck (d : Disk) (skip : String → Bool → Bool) : Visit → Location → WalkError → Prop
  | here {v name e} (h : d.Stops skip v name e) : Stuck d skip v [name] e
  | down {v name w loc e} (h : d.Enters skip v name w) (hw : Stuck d skip w loc e) :
    Stuck d skip v (name :: loc) e

inductive Listed (d : Disk) (skip : String → Bool → Bool) : Visit → Location → Prop
  | here {v name} (h : d.Keeps skip v name) : Listed d skip v [name]
  | down {v name w loc} (h : d.Enters skip v name w) (hw : Listed d skip w loc) :
    Listed d skip v (name :: loc)

variable {d : Disk} {skip : String → Bool → Bool} {v w : Visit} {name : String} {loc : Location}

theorem Enters.exists_node (h : d.Enters skip v name w) :
    ∃ n, d.root.get? (v.place ++ [name]) = some n := by
  cases h with
  | directory hn | link hn => exact ⟨_, hn⟩

theorem Stops.exists_node {e : WalkError} (h : d.Stops skip v name e) :
    ∃ n, d.root.get? (v.place ++ [name]) = some n := by
  cases h with
  | long hn | unreadable hn | loop hn => exact ⟨_, hn⟩

theorem Keeps.exists_node (h : d.Keeps skip v name) :
    ∃ n, d.root.get? (v.place ++ [name]) = some n := by
  cases h with
  | file hn | link hn => exact ⟨_, hn⟩

theorem Enters.exists_directory (h : d.Enters skip v name w) :
    ∃ inner, d.root.get? w.place = some (.directory inner) := by
  cases h with
  | directory hn => exact ⟨_, hn⟩
  | link _ _ hd => exact ⟨_, hd⟩

theorem Enters.path_eq (h : d.Enters skip v name w) : w.path = join v.path name := by
  cases h <;> rfl

theorem Enters.levels_eq (h : d.Enters skip v name w) : w.levels = v.levels.map (· - 1) := by
  cases h <;> rfl

theorem Stuck.exists_child {entries : List (String × Node)} {e : WalkError}
    (h : d.Stuck skip v loc e) (hd : d.root.get? v.place = some (.directory entries)) :
    ∃ name rest, loc = name :: rest ∧ ∃ n, Node.child? name entries = some n := by
  cases h with
  | here h => exact ⟨_, [], rfl, Node.get?_concat hd _ ▸ h.exists_node⟩
  | down h _ => exact ⟨_, _, rfl, Node.get?_concat hd _ ▸ h.exists_node⟩

theorem Listed.exists_child {entries : List (String × Node)} (h : d.Listed skip v loc)
    (hd : d.root.get? v.place = some (.directory entries)) :
    ∃ name rest, loc = name :: rest ∧ ∃ n, Node.child? name entries = some n := by
  cases h with
  | here h => exact ⟨_, [], rfl, Node.get?_concat hd _ ▸ h.exists_node⟩
  | down h _ => exact ⟨_, _, rfl, Node.get?_concat hd _ ▸ h.exists_node⟩

theorem Enters.not_stops {e : WalkError} (h : d.Enters skip v name w) : ¬d.Stops skip v name e := by
  intro hs
  cases h with
  | directory hn _ _ hp =>
    cases hs with
    | long _ _ _ hp' => omega
    | unreadable hn' | loop hn' => simp [hn] at hn'
  | link hn hr _ ht =>
    cases hs with
    | long hn' => simp [hn] at hn'
    | unreadable _ hr' => simp [hr] at hr'
    | loop _ hr' _ ht' =>
      obtain rfl := Except.ok.inj (hr.symm.trans hr')
      simp [ht] at ht'

theorem Enters.not_keeps (h : d.Enters skip v name w) : ¬d.Keeps skip v name := by
  intro hk
  cases h with
  | directory hn =>
    cases hk with
    | file hn' | link hn' => simp [hn] at hn'
  | link hn hr hd =>
    cases hk with
    | file hn' => simp [hn] at hn'
    | link _ hr' hd' =>
      obtain rfl := Except.ok.inj (hr.symm.trans hr')
      exact hd' _ hd

theorem Enters.unique {w' : Visit} (h : d.Enters skip v name w) (h' : d.Enters skip v name w') :
    w = w' := by
  cases h with
  | directory hn =>
    cases h' with
    | directory => rfl
    | link hn' => simp [hn] at hn'
  | link hn hr =>
    cases h' with
    | directory hn' => simp [hn] at hn'
    | link _ hr' => rw [Except.ok.inj (hr.symm.trans hr')]

theorem Stops.unique {e e' : WalkError} (h : d.Stops skip v name e) (h' : d.Stops skip v name e') :
    e = e' := by
  cases h with
  | long hn =>
    cases h' with
    | long => rfl
    | unreadable hn' | loop hn' => simp [hn] at hn'
  | unreadable hn hr =>
    cases h' with
    | long hn' => simp [hn] at hn'
    | unreadable _ hr' => rw [Except.error.inj (hr.symm.trans hr')]
    | loop _ hr' => simp [hr] at hr'
  | loop hn hr _ ht =>
    cases h' with
    | long hn' => simp [hn] at hn'
    | unreadable _ hr' => simp [hr] at hr'
    | loop _ hr' _ ht' =>
      obtain rfl := Except.ok.inj (hr.symm.trans hr')
      rw [Option.some.inj (ht.symm.trans ht')]

theorem Stuck.unique {e e' : WalkError} (h : d.Stuck skip v loc e) (h' : d.Stuck skip v loc e') :
    e = e' := by
  induction h with
  | here h =>
    cases h' with
    | here h' => exact h.unique h'
    | down _ hw => cases hw
  | down h hw ih =>
    cases h' with
    | here => cases hw
    | down h' hw' => exact ih (h.unique h' ▸ hw')

end Disk

end CommentBlocks
