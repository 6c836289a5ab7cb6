import CommentBlocks.Proofs.Disk.Spelled
import CommentBlocks.Proofs.Disk.Straight

namespace CommentBlocks

open CommentBlocks.Path

namespace Disk

structure Leads (d : Disk) (path : String) (left : Nat) (place : Location) : Prop where
  whole : '\x00' ∉ path.toList
  le : left ≤ linkLimit
  goes : ∀ more, d.follow linkLimit (origin d.working path) (innerSteps path ++ more) =
    d.follow left place more

def LinksLead (d : Disk) : Prop :=
  ∀ place name target, d.root.get? (place ++ [name]) = some (.link target) →
    ∃ loc, d.follow linkLimit place [.name name] = .ok loc

variable {d : Disk} {skip : String → Bool → Bool} {v w : Visit} {path name : String}
  {place loc : Location} {left : Nat}

theorem innerSteps_join (hn : IsName name) :
    innerSteps (join path name) = innerSteps path ++ [.name name] :=
  innerSteps_join_text (c := .name name) hn.isRead

theorem steps_join (hn : IsName name) :
    steps (join path name) = innerSteps path ++ [.name name] := by
  have hs : steps (join path name) = innerSteps (join path name) := by
    simp [steps, endsInSlash_join hn.slashless hn.ne_empty, innerSteps]
  rw [hs, innerSteps_join hn]

theorem exists_directory_of_follow {steps : List Component}
    (h : d.follow left place (.name name :: steps) = .ok loc) :
    ∃ entries, d.root.get? place = some (.directory entries) := by
  rw [follow] at h
  split at h
  · exact ⟨_, by assumption⟩
  · cases h
  · cases h

theorem exists_node_of_follow {steps : List Component}
    (h : d.follow left place (.name name :: steps) = .ok loc) :
    ∃ n, d.root.get? (place ++ [name]) = some n := by
  obtain ⟨entries, hd⟩ := exists_directory_of_follow h
  rw [follow, hd] at h
  rw [Node.get?_concat hd]
  cases hc : Node.child? name entries with
  | none =>
    by_cases hs : nameLimit < byteLength name <;> simp [hs, hc] at h
  | some n => exact ⟨n, rfl⟩

theorem origin_join (hn : IsName name) {base : Location} :
    origin base (join path name) = origin base path := by
  rw [origin, origin, isAbsolute_join hn.slashless]

theorem Leads.locate_join (h : d.Leads path left place) (hn : IsName name) :
    d.locate (join path name) = (d.follow left place [.name name]).mapError .system := by
  have he : (join path name).isEmpty = false := by simpa [Bool.eq_false_iff] using join_ne_empty hn
  rw [locate, if_neg (by simpa using whole_join h.whole hn.whole), he, steps_join hn, origin_join hn,
    h.goes]
  rfl

theorem Leads.follow_of_resolve (h : d.Leads path left place) (hn : IsName name)
    (hr : d.resolve (Path.join path name) = .ok loc) :
    d.follow left place [.name name] = .ok loc := by
  have hloc := locate_of_resolve hr
  rw [h.locate_join hn] at hloc
  cases hf : d.follow left place [.name name] <;> simp_all [Except.mapError]

theorem Leads.join (h : d.Leads path left place) (hn : IsName name)
    (hf : d.follow left place [.name name] = .ok loc) :
    ∃ left, d.Leads (join path name) left loc := by
  obtain ⟨left', hle, hgoes⟩ := exists_left_of_follow hf
  refine ⟨left', whole_join h.whole hn.whole, hle.trans h.le, fun more => ?_⟩
  rw [origin_join hn, innerSteps_join hn, List.append_assoc, h.goes, hgoes]

theorem follow_innerSteps
    (h : d.follow linkLimit (origin d.working path) (steps path) = .ok place) :
    d.follow linkLimit (origin d.working path) (innerSteps path) = .ok place := by
  rw [steps] at h
  split at h
  · cases hi : d.follow linkLimit (origin d.working path) (innerSteps path) with
    | error e =>
      have := follow_append_of_error hi [.here]
      rw [innerSteps, h] at this
      cases this
    | ok loc =>
      obtain ⟨left, -, hl⟩ := exists_left_of_follow hi
      have hhere := hl [.here]
      rw [innerSteps, h, follow] at hhere
      split at hhere
      · simpa [follow] using hhere.symm
      · cases hhere
      · cases hhere
  · exact h

theorem exists_leads (h : d.resolve path = .ok place) : ∃ left, d.Leads path left place := by
  obtain ⟨hw, -, hf⟩ := locate_eq_ok_iff.mp (locate_of_resolve h)
  obtain ⟨left, hle, hl⟩ := exists_left_of_follow (follow_innerSteps hf)
  exact ⟨left, hw, hle, hl⟩

theorem Enters.leads (h : d.Enters skip v name w) (hn : IsName name)
    (hv : d.Leads v.path left v.place) : ∃ left, d.Leads w.path left w.place := by
  cases h with
  | directory hd =>
    have hf : d.follow left v.place [.name name] = .ok (v.place ++ [name]) := by
      rw [follow_name hd (by simp), follow]
    exact hv.join hn hf
  | link _ hr => exact hv.join hn (hv.follow_of_resolve hn hr)

/-- Where every link leads somewhere, a walk is stopped by a loop or by a limit. -/
theorem Stops.cause {e : WalkError} (h : d.Stops skip v name e) (hl : d.LinksLead)
    (hn : IsName name) (hv : d.Leads v.path left v.place) :
    (∃ child ancestor, e = .loop child ancestor) ∨
      ∃ child, e = .unreadable child (.system .nameTooLong) ∨
        e = .unreadable child (.system .tooManyLinks) := by
  cases h with
  | long => exact .inr ⟨_, .inl rfl⟩
  | loop => exact .inl ⟨_, _, rfl⟩
  | @unreadable link e hd hr =>
    refine .inr ⟨Path.join v.path name, ?_⟩
    rw [resolve, if_neg (by simpa using whole_join hv.whole hn.whole)] at hr
    split at hr
    · exact .inl (Except.error.inj hr ▸ rfl)
    · obtain ⟨loc, hloc⟩ := hl _ _ _ hd
      rw [hv.locate_join hn] at hr
      have hfewer : d.follow left v.place [.name name] = d.follow linkLimit v.place [.name name] ∨
          d.follow left v.place [.name name] = .error .tooManyLinks := follow_fewer hv.le
      rcases hfewer with hf | hf
      · simp [hf, hloc, Except.mapError] at hr
      · simp only [hf, Except.mapError, Except.error.injEq] at hr
        exact .inr (hr ▸ rfl)

theorem Stuck.cause {e : WalkError} (h : d.Stuck skip v loc e)
    (hl : d.LinksLead) (hv : ∃ left, d.Leads v.path left v.place) :
    (∃ child ancestor, e = .loop child ancestor) ∨
      ∃ child, e = .unreadable child (.system .nameTooLong) ∨
        e = .unreadable child (.system .tooManyLinks) := by
  induction h with
  | @here v name e hs =>
    obtain ⟨left, hv⟩ := hv
    obtain ⟨n, hn⟩ := hs.exists_node
    exact hs.cause hl (d.named.isName_of_get? hn name (by simp)) hv
  | @down v name w loc e he _ ih =>
    obtain ⟨left, hv⟩ := hv
    obtain ⟨n, hn⟩ := he.exists_node
    exact ih (he.leads (d.named.isName_of_get? hn name (by simp)) hv)

theorem innerSteps_below (hn : ∀ name ∈ loc, IsName name) :
    innerSteps (below path loc) = innerSteps path ++ loc.map .name := by
  rw [below_eq_extend]
  exact innerSteps_extend (List.forall_mem_map.mpr fun name hm => (hn name hm).isRead)

theorem origin_below (hn : ∀ name ∈ loc, IsName name) {base : Location} :
    origin base (below path loc) = origin base path := by
  have hread : ∀ c ∈ loc.map Component.name, c.IsRead :=
    List.forall_mem_map.mpr fun name hm => (hn name hm).isRead
  rw [below_eq_extend, origin, origin, isAbsolute_extend hread]

theorem follow_of_locate_below (hne : loc ≠ []) (hn : ∀ name ∈ loc, IsName name)
    {target : Location} (h : d.locate (below path loc) = .ok target) :
    d.follow linkLimit (origin d.working path) (innerSteps path ++ loc.map .name) =
      .ok target := by
  obtain ⟨-, -, hf⟩ := locate_eq_ok_iff.mp h
  rw [origin_below hn] at hf
  obtain ⟨front, name, rfl⟩ := (List.eq_nil_or_concat' loc).resolve_left hne
  have hname := hn name (by simp)
  have hfront : ∀ name ∈ front, IsName name := fun n hm => hn n (by simp [hm])
  rw [below_concat, steps_join hname, innerSteps_below hfront] at hf
  simpa using hf

theorem enters_or_stops_of_follow (hs : EntersAll skip) (h0 : v.levels ≠ some 0) (hn : IsName name)
    (hv : d.Leads v.path left v.place) (hf : d.follow left v.place [.name name] = .ok loc)
    {inner : List (String × Node)} (hd : d.root.get? loc = some (.directory inner)) :
    (∃ w, d.Enters skip v name w) ∨ ∃ e, d.Stops skip v name e := by
  obtain ⟨n, hnode⟩ := exists_node_of_follow hf
  cases n with
  | file data =>
    rw [follow_name hnode (by simp), follow] at hf
    obtain rfl := Except.ok.inj hf
    simp [hnode] at hd
  | directory => exact (enters_or_stops hs hnode h0).imp_left fun h => ⟨_, h⟩
  | link target =>
    cases hr : d.resolve (join v.path name) with
    | error e => exact .inr ⟨_, .unreadable hnode hr⟩
    | ok place =>
      obtain rfl := Except.ok.inj (hf.symm.trans (hv.follow_of_resolve hn hr))
      cases ht : v.trail.find? (·.1 == loc) with
      | some step => exact .inr ⟨_, .loop hnode hr hd ht⟩
      | none => exact .inl ⟨_, .link hnode hr hd ht (hs _) h0⟩

theorem keeps_or_stops_of_follow (hn : IsName name) (hv : d.Leads v.path left v.place)
    (hf : d.follow left v.place [.name name] = .ok loc)
    {data : Bytes} (hd : d.root.get? loc = some (.file data))
    (hk : skip (Path.join v.path name) false = false) :
    d.Keeps skip v name ∨ ∃ e, d.Stops skip v name e := by
  obtain ⟨n, hnode⟩ := exists_node_of_follow hf
  cases n with
  | file data => exact .inl (.file hnode hk)
  | directory =>
    rw [follow_name hnode (by simp), follow] at hf
    obtain rfl := Except.ok.inj hf
    simp [hnode] at hd
  | link target =>
    cases hr : d.resolve (join v.path name) with
    | error e => exact .inr ⟨_, .unreadable hnode hr⟩
    | ok place =>
      obtain rfl := Except.ok.inj (hf.symm.trans (hv.follow_of_resolve hn hr))
      exact .inl (.link hnode hr (by simp [hd]) hk)

/-- A file to which names lead from a directory, not more than the levels that are walked, is
listed, unless it is left out or something stops the walk. -/
theorem listed_or_stuck_of_follow (hs : EntersAll skip) {data : Bytes} {target : Location}
    (hl : ∀ k, v.levels = some k → loc.length ≤ k + 1)
    (hv : ∃ left, d.Leads v.path left v.place) (hne : loc ≠ []) (hn : ∀ name ∈ loc, IsName name)
    (hf : d.follow linkLimit (origin d.working v.path) (innerSteps v.path ++ loc.map .name) =
      .ok target)
    (hd : d.root.get? target = some (.file data)) (hk : skip (below v.path loc) false = false) :
    d.Listed skip v loc ∨ ∃ loc' e, d.Stuck skip v loc' e := by
  induction loc generalizing v with
  | nil => exact absurd rfl hne
  | cons name rest ih =>
    obtain ⟨hname, hrest⟩ := List.forall_mem_cons.mp hn
    obtain ⟨left, hv⟩ := hv
    have hfrom := hf
    rw [hv.goes, List.map_cons, ← List.singleton_append] at hfrom
    cases hfirst : d.follow left v.place [.name name] with
    | error e =>
      rw [follow_append_of_error hfirst] at hfrom
      cases hfrom
    | ok loc =>
      obtain ⟨left', -, hgoes⟩ := exists_left_of_follow hfirst
      rw [hgoes] at hfrom
      cases rest with
      | nil =>
        obtain rfl : loc = target := by simpa [follow] using hfrom
        rcases keeps_or_stops_of_follow hname hv hfirst hd hk with hkeep | ⟨e, hst⟩
        · exact .inl (.here hkeep)
        · exact .inr ⟨_, e, .here hst⟩
      | cons m rest =>
        obtain ⟨inner, hinner⟩ := exists_directory_of_follow hfrom
        have h0 : v.levels ≠ some 0 := by
          intro h0
          have := hl 0 h0
          simp at this
        rcases enters_or_stops_of_follow hs h0 hname hv hfirst hinner with ⟨w, he⟩ | ⟨e, hst⟩
        · have hpath : d.follow linkLimit (origin d.working w.path)
              (innerSteps w.path ++ (m :: rest).map .name) = .ok target := by
            rw [he.path_eq, origin_join hname, innerSteps_join hname, List.append_assoc]
            exact hf
          have hw : ∀ k, w.levels = some k → (m :: rest).length ≤ k + 1 := by
            rw [he.levels_eq]
            exact (le_levels_pred_iff h0).mpr hl
          have hkeep : skip (below w.path (m :: rest)) false = false := by rwa [he.path_eq]
          rcases ih hw (he.leads hname hv) (by simp) hrest hpath hkeep with hli | ⟨loc', e, hst⟩
          · exact .inl (.down he hli)
          · exact .inr ⟨_, e, .down he hst⟩
        · exact .inr ⟨_, e, .here hst⟩

end Disk

end CommentBlocks
