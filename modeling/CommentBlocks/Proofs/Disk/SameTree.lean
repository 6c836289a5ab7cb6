import CommentBlocks.Proofs.Disk.Follow
import CommentBlocks.Proofs.Disk.Outcome

namespace CommentBlocks

open CommentBlocks.Path

def Node.bare : Node → Node
  | file _ => file []
  | directory _ => directory []
  | link target => link target

namespace Disk

/-- The same kinds of nodes stand at the same locations. -/
structure SameTree (d d' : Disk) : Prop where
  working : d.working = d'.working
  bare : ∀ loc, (d.root.get? loc).map Node.bare = (d'.root.get? loc).map Node.bare

theorem isDirectory_iff {d : Disk} {path : String} :
    d.isDirectory path = true ↔ (d.lookup path).map Node.bare = .ok (.directory []) := by
  rw [isDirectory]
  cases d.lookup path with
  | error e => simp [Except.map]
  | ok n => cases n <;> simp [Except.map, Node.bare]

namespace SameTree

variable {d d' : Disk} {skip : String → Bool → Bool} {v w : Visit} {name : String}
  {loc place : Location}

theorem symm (h : SameTree d d') : SameTree d' d := ⟨h.working.symm, fun loc => (h.bare loc).symm⟩

theorem none (h : SameTree d d') (hn : d.root.get? loc = .none) : d'.root.get? loc = .none := by
  simpa [hn] using (h.bare loc).symm

theorem exists_node (h : SameTree d d') {n : Node} (hn : d.root.get? loc = some n) :
    ∃ n', d'.root.get? loc = some n' ∧ n'.bare = n.bare := by
  have hb := h.bare loc
  rw [hn] at hb
  exact Option.map_eq_some_iff.mp hb.symm

theorem file (h : SameTree d d') {data : Bytes} (hn : d.root.get? loc = some (.file data)) :
    ∃ data', d'.root.get? loc = some (.file data') := by
  obtain ⟨n, hn', hb⟩ := h.exists_node hn
  cases n with
  | file data' => exact ⟨data', hn'⟩
  | directory | link => cases hb

theorem directory (h : SameTree d d') {entries : List (String × Node)}
    (hn : d.root.get? loc = some (.directory entries)) :
    ∃ entries', d'.root.get? loc = some (.directory entries') := by
  obtain ⟨n, hn', hb⟩ := h.exists_node hn
  cases n with
  | directory entries' => exact ⟨entries', hn'⟩
  | file | link => cases hb

theorem link (h : SameTree d d') {target : String}
    (hn : d.root.get? loc = some (.link target)) : d'.root.get? loc = some (.link target) := by
  obtain ⟨n, hn', hb⟩ := h.exists_node hn
  cases n with
  | link => exact Node.link.inj hb ▸ hn'
  | file | directory => cases hb

theorem follow (h : SameTree d d') (links : Nat) (place : Location) (steps : List Component) :
    d'.follow links place steps = d.follow links place steps := by
  fun_induction Disk.follow d links place steps with
  | case1 => rw [Disk.follow]
  | case2 _ _ _ _ hd ih | case3 _ _ _ _ hd ih | case4 _ _ _ _ hd ih =>
    obtain ⟨entries', hd'⟩ := h.directory hd
    simpa [Disk.follow, hd'] using ih
  | case5 _ _ _ _ hd _ hs =>
    obtain ⟨entries', hd'⟩ := h.directory hd
    simp [Disk.follow, hd', hs]
  | case6 _ _ _ _ hd _ hs hc =>
    obtain ⟨entries', hd'⟩ := h.directory hd
    rw [← Node.get?_concat hd] at hc
    have hc' := h.none hc
    rw [Node.get?_concat hd'] at hc'
    simp [Disk.follow, hd', hs, hc']
  | case7 _ _ _ hd _ hs _ hc =>
    obtain ⟨entries', hd'⟩ := h.directory hd
    rw [← Node.get?_concat hd] at hc
    have hc' := h.link hc
    rw [Node.get?_concat hd'] at hc'
    simp [Disk.follow, hd', hs, hc']
  | case8 _ _ _ hd _ hs _ hc _ ih =>
    obtain ⟨entries', hd'⟩ := h.directory hd
    rw [← Node.get?_concat hd] at hc
    have hc' := h.link hc
    rw [Node.get?_concat hd'] at hc'
    simpa [Disk.follow, hd', hs, hc'] using ih
  | case9 _ _ _ _ hd _ hs n hn hc ih =>
    obtain ⟨entries', hd'⟩ := h.directory hd
    rw [← Node.get?_concat hd] at hc
    cases n with
    | link target => exact absurd rfl (hn target)
    | file data =>
      obtain ⟨data', hc'⟩ := h.file hc
      rw [Node.get?_concat hd'] at hc'
      simpa [Disk.follow, hd', hs, hc'] using ih
    | directory inner =>
      obtain ⟨inner', hc'⟩ := h.directory hc
      rw [Node.get?_concat hd'] at hc'
      simpa [Disk.follow, hd', hs, hc'] using ih
  | case10 _ _ _ _ n hn hd =>
    cases n with
    | directory entries => exact absurd rfl (hn entries)
    | file data =>
      obtain ⟨data', hd'⟩ := h.file hd
      simp [Disk.follow, hd']
    | link => simp [Disk.follow, h.link hd]
  | case11 _ _ _ _ hd => simp [Disk.follow, h.none hd]

theorem locate (h : SameTree d d') (path : String) : d'.locate path = d.locate path := by
  simp only [Disk.locate, h.follow, h.working]

theorem resolve (h : SameTree d d') (path : String) : d'.resolve path = d.resolve path := by
  simp only [Disk.resolve, h.locate]

theorem lookup (h : SameTree d d') (path : String) :
    (d'.lookup path).map Node.bare = (d.lookup path).map Node.bare := by
  rw [Disk.lookup, Disk.lookup, h.resolve]
  cases d.resolve path with
  | error e => rfl
  | ok loc =>
    simp only [bind, Except.bind]
    cases hn : d.root.get? loc with
    | none => simp [h.none hn]
    | some n =>
      obtain ⟨n', hn', hb⟩ := h.exists_node hn
      simp [hn', Except.map, hb]

theorem isDirectory (h : SameTree d d') (path : String) :
    d'.isDirectory path = d.isDirectory path := by
  rw [Bool.eq_iff_iff, isDirectory_iff, isDirectory_iff, h.lookup]

theorem enters (h : SameTree d d') (he : d.Enters skip v name w) : d'.Enters skip v name w := by
  cases he with
  | directory hn hs hl hp =>
    obtain ⟨inner, hn⟩ := h.directory hn
    exact .directory hn hs hl hp
  | link hn hr hd ht hs hl =>
    obtain ⟨inner, hd⟩ := h.directory hd
    exact .link (h.link hn) (h.resolve _ ▸ hr) hd ht hs hl

theorem stops (h : SameTree d d') {e : WalkError} (hs : d.Stops skip v name e) :
    d'.Stops skip v name e := by
  cases hs with
  | long hn hs hl hp =>
    obtain ⟨inner, hn⟩ := h.directory hn
    exact .long hn hs hl hp
  | unreadable hn hr => exact .unreadable (h.link hn) (h.resolve _ ▸ hr)
  | loop hn hr hd ht =>
    obtain ⟨inner, hd⟩ := h.directory hd
    exact .loop (h.link hn) (h.resolve _ ▸ hr) hd ht

theorem keeps (h : SameTree d d') (hk : d.Keeps skip v name) : d'.Keeps skip v name := by
  cases hk with
  | file hn hs =>
    obtain ⟨data, hn⟩ := h.file hn
    exact .file hn hs
  | link hn hr hd hs =>
    refine .link (h.link hn) (h.resolve _ ▸ hr) (fun inner hd' => ?_) hs
    obtain ⟨inner', hd'⟩ := h.symm.directory hd'
    exact hd _ hd'

theorem stuck (h : SameTree d d') {e : WalkError} (hs : d.Stuck skip v loc e) :
    d'.Stuck skip v loc e := by
  induction hs with
  | here hs => exact .here (h.stops hs)
  | down he _ ih => exact .down (h.enters he) ih

theorem listed (h : SameTree d d') (hl : d.Listed skip v loc) : d'.Listed skip v loc := by
  induction hl with
  | here hk => exact .here (h.keeps hk)
  | down he _ ih => exact .down (h.enters he) ih

theorem identity (h : SameTree d d') (path : String) : d'.identity path = d.identity path := by
  simp only [Disk.identity, Disk.canonical, h.locate]

theorem walk (h : SameTree d d') (levels : Option Nat) (root : String) :
    d'.walk skip levels root = d.walk skip levels root := by
  by_cases hs : components root = [.name "-"]
  · rw [Disk.walk, Disk.walk, if_pos hs, if_pos hs]
  · cases hr : d.resolve root with
    | error e => simp [Disk.walk, hs, h.resolve, hr]
    | ok place =>
      cases hn : d.root.get? place with
      | none => simp [Disk.walk, hs, h.resolve, hr, hn, h.none hn]
      | some n =>
        cases n with
        | file data =>
          obtain ⟨data', hn'⟩ := h.file hn
          simp [Disk.walk, hs, h.resolve, hr, hn, hn']
        | link target => simp [Disk.walk, hs, h.resolve, hr, hn, h.link hn]
        | directory entries =>
          obtain ⟨entries', hn'⟩ := h.directory hn
          by_cases hl : levels = some 0
          · simp [Disk.walk, hs, h.resolve, hr, hn, hn', hl]
          · have hr' := h.resolve root ▸ hr
            exact (outcome_walk hl hs hr' hn').congr (outcome_walk hl hs hr hn)
              (fun loc e => ⟨h.symm.stuck, h.stuck⟩) fun loc => ⟨h.symm.listed, h.listed⟩

end SameTree

end Disk

end CommentBlocks
