import CommentBlocks.Proofs.Disk.Outcome

namespace CommentBlocks

open CommentBlocks.Path

namespace Node

def LinkFree (n : Node) : Prop := ∀ loc target, n.get? loc ≠ some (.link target)

theorem linkFree_file (data : Bytes) : (file data).LinkFree := by
  intro loc target
  cases loc <;> simp [get?]

theorem linkFree_directory {entries : List (String × Node)} (h : ∀ e ∈ entries, e.2.LinkFree) :
    (directory entries).LinkFree := by
  intro loc target hn
  cases loc with
  | nil => simp [get?] at hn
  | cons name loc =>
    obtain ⟨n, hc, hn⟩ := Option.bind_eq_some_iff.mp (by simpa [get?] using hn)
    exact h _ (mem_of_child? hc) loc target hn

end Node

namespace Disk

abbrev skipNone : String → Bool → Bool := fun _ _ => false

def EntersAll (skip : String → Bool → Bool) : Prop := ∀ path, skip path true = false

theorem entersAll_skipNone : EntersAll skipNone := fun _ => rfl

variable {d : Disk} {skip : String → Bool → Bool} {v w : Visit} {name : String}
  {place loc : Location}

theorem exists_directory_on_way {rest : Location} {n : Node}
    (h : d.root.get? (place ++ name :: rest) = some n) (hr : rest ≠ []) :
    ∃ inner, d.root.get? (place ++ [name]) = some (.directory inner) := by
  rw [List.append_cons] at h
  exact Node.exists_directory_of_get?_append h hr

theorem enters_or_stops (hs : EntersAll skip) {inner : List (String × Node)}
    (hn : d.root.get? (v.place ++ [name]) = some (.directory inner)) (hl : v.levels ≠ some 0) :
    d.Enters skip v name (v.enter name (v.place ++ [name])) ∨ ∃ e, d.Stops skip v name e := by
  by_cases hp : byteLength (join v.path name) < pathLimit
  · exact .inl (.directory hn (hs _) hl hp)
  · exact .inr ⟨_, .long hn (hs _) hl (by omega)⟩

theorem le_levels_pred_iff {levels : Option Nat} {n m : Nat} (hl : levels ≠ some 0) :
    (∀ k, levels.map (· - 1) = some k → n ≤ k + m) ↔ ∀ k, levels = some k → n + 1 ≤ k + m := by
  cases levels with
  | none => simp
  | some k =>
    have hk : k ≠ 0 := fun h => hl (h ▸ rfl)
    simp only [Option.map_some, Option.some.injEq, forall_eq']
    omega

/-- A file on a straight way within the levels is listed, unless it is left out or something stops
the walk. -/
theorem listed_or_stuck (hs : EntersAll skip) {data : Bytes} (hne : loc ≠ [])
    (hf : d.root.get? (v.place ++ loc) = some (.file data))
    (hl : ∀ k, v.levels = some k → loc.length ≤ k + 1)
    (hk : skip (below v.path loc) false = false) :
    d.Listed skip v loc ∨ ∃ loc' e, d.Stuck skip v loc' e := by
  induction loc generalizing v with
  | nil => exact absurd rfl hne
  | cons name rest ih =>
    by_cases hr : rest = []
    · subst hr
      exact .inl (.here (.file hf hk))
    · obtain ⟨inner, hn⟩ := exists_directory_on_way hf hr
      have h0 : v.levels ≠ some 0 := by
        intro h0
        have := hl 0 h0
        have := List.length_pos_iff.mpr hr
        rw [List.length_cons] at *
        omega
      rcases enters_or_stops hs hn h0 with he | ⟨e, hst⟩
      · have hf' : d.root.get? ((v.place ++ [name]) ++ rest) = some (.file data) := by
          rwa [← List.append_cons]
        have hl' := (le_levels_pred_iff h0).mpr hl
        rcases ih (v := v.enter name (v.place ++ [name])) hr hf' hl' hk with hli | ⟨loc', e, hst⟩
        · exact .inl (.down he hli)
        · exact .inr ⟨_, e, .down he hst⟩
      · exact .inr ⟨_, e, .here hst⟩

/-- A directory on a straight way within the levels stops the walk if its path is too long, unless
something else does. -/
theorem exists_stuck_of_long (hs : EntersAll skip) {inner : List (String × Node)} (hne : loc ≠ [])
    (hd : d.root.get? (v.place ++ loc) = some (.directory inner))
    (hl : ∀ k, v.levels = some k → loc.length ≤ k)
    (hp : pathLimit ≤ byteLength (below v.path loc)) : ∃ loc' e, d.Stuck skip v loc' e := by
  induction loc generalizing v with
  | nil => exact absurd rfl hne
  | cons name rest ih =>
    have h0 : v.levels ≠ some 0 := fun h0 => by simpa using hl 0 h0
    by_cases hr : rest = []
    · subst hr
      exact ⟨[name], _, .here (.long hd (hs _) h0 hp)⟩
    · obtain ⟨inner', hn⟩ := exists_directory_on_way hd hr
      rcases enters_or_stops hs hn h0 with he | ⟨e, hst⟩
      · have hd' : d.root.get? ((v.place ++ [name]) ++ rest) = some (.directory inner) := by
          rwa [← List.append_cons]
        have hl' := (le_levels_pred_iff (m := 0) h0).mpr hl
        obtain ⟨loc', e, hst⟩ := ih (v := v.enter name (v.place ++ [name])) hr hd' hl' hp
        exact ⟨_, e, .down he hst⟩
      · exact ⟨_, e, .here hst⟩

theorem Enters.straight (h : d.Enters skip v name w) (hf : d.root.LinkFree) :
    w = v.enter name (v.place ++ [name]) ∧ v.levels ≠ some 0 := by
  cases h with
  | directory _ _ hl => exact ⟨rfl, hl⟩
  | link hn => exact absurd hn (hf _ _)

theorem Listed.straight (h : d.Listed skip v loc) (hf : d.root.LinkFree) :
    loc ≠ [] ∧ (∃ data, d.root.get? (v.place ++ loc) = some (.file data)) ∧
      (∀ k, v.levels = some k → loc.length ≤ k + 1) ∧
      skip (Path.below v.path loc) false = false := by
  induction h with
  | here hk =>
    cases hk with
    | file hn hs => exact ⟨by simp, ⟨_, hn⟩, by simp, hs⟩
    | link hn => exact absurd hn (hf _ _)
  | @down v name w loc he _ ih =>
    obtain ⟨rfl, h0⟩ := he.straight hf
    obtain ⟨-, ⟨data, hd⟩, hl, hs⟩ := ih
    exact ⟨by simp, ⟨data, by rwa [List.append_cons]⟩, (le_levels_pred_iff h0).mp hl, hs⟩

theorem Stuck.straight {e : WalkError} (h : d.Stuck skip v loc e) (hf : d.root.LinkFree) :
    loc ≠ [] ∧ (∃ inner, d.root.get? (v.place ++ loc) = some (.directory inner)) ∧
      (∀ k, v.levels = some k → loc.length ≤ k) ∧ pathLimit ≤ byteLength (Path.below v.path loc) ∧
      e = .unreadable (Path.below v.path loc) (.system .nameTooLong) := by
  induction h with
  | here hs =>
    cases hs with
    | long hn _ hl hp =>
      refine ⟨by simp, ⟨_, hn⟩, fun k hk => ?_, hp, rfl⟩
      have hpos : k ≠ 0 := fun h => hl (h ▸ hk)
      rw [List.length_singleton]
      omega
    | unreadable hn | loop hn => exact absurd hn (hf _ _)
  | @down v name w loc e he _ ih =>
    obtain ⟨rfl, h0⟩ := he.straight hf
    obtain ⟨-, ⟨inner, hd⟩, hl, hp, rfl⟩ := ih
    refine ⟨by simp, ⟨inner, by rwa [List.append_cons]⟩, ?_, hp, rfl⟩
    exact (le_levels_pred_iff (m := 0) h0).mp hl

theorem nodup_map_below {locs : List Location} (h : locs.Pairwise Before)
    (hn : ∀ loc ∈ locs, ∀ name ∈ loc, IsName name) (path : String) :
    (locs.map (below path)).Nodup :=
  (List.nodup_map_iff_inj_on h.nodup).mpr fun a ha b hb he => below_inj (hn a ha) (hn b hb) he

/-- Where there are no links, the directories with too long paths stop a walk that leaves out no
directory, and the files that it does not leave out are listed. -/
theorem walk_kept (hs : EntersAll skip) (hf : d.root.LinkFree)
    {levels : Option Nat} (hl : levels ≠ some 0) {root : String}
    (hdash : components root ≠ [.name "-"]) {entries : List (String × Node)}
    (hr : d.resolve root = .ok place) (hd : d.root.get? place = some (.directory entries)) :
    ((∃ e, d.walk skip levels root = .error e) ↔ ∃ loc inner, loc ≠ [] ∧
      d.root.get? (place ++ loc) = some (.directory inner) ∧
      (∀ k, levels = some k → loc.length + 1 ≤ k) ∧ pathLimit ≤ byteLength (below root loc)) ∧
    ∀ files, d.walk skip levels root = .ok files → ∃ locs : List Location,
      files = locs.map (below root) ∧ locs.Pairwise Before ∧ ∀ loc, loc ∈ locs ↔ loc ≠ [] ∧
        (∃ data, d.root.get? (place ++ loc) = some (.file data)) ∧
        (∀ k, levels = some k → loc.length ≤ k) ∧ skip (below root loc) false = false := by
  have ho : d.Outcome skip (.start levels root place) (fun _ => True) (d.walk skip levels root) :=
    outcome_walk hl hdash hr hd
  generalize d.walk skip levels root = result at ho
  have hlevels {n m : Nat} := le_levels_pred_iff (n := n) (m := m) hl
  constructor
  · constructor
    · rintro ⟨e, rfl⟩
      cases ho with
      | stuck _ h =>
        obtain ⟨hne, ⟨inner, hi⟩, hk, hp, -⟩ := h.straight hf
        exact ⟨_, inner, hne, hi, (hlevels (m := 0)).mp hk, hp⟩
    · rintro ⟨loc, inner, hne, hi, hk, hp⟩
      obtain ⟨loc', e, h⟩ := exists_stuck_of_long (v := .start levels root place) hs hne hi
        ((hlevels (m := 0)).mpr hk) hp
      obtain ⟨name, rest, rfl, -⟩ := h.exists_child hd
      cases ho with
      | stuck => exact ⟨_, rfl⟩
      | listed free => exact absurd h (free name rest e trivial)
  · rintro files rfl
    cases ho with
    | @listed locs free sorted mem =>
      refine ⟨locs, rfl, sorted, fun loc => ?_⟩
      rw [mem]
      constructor
      · rintro ⟨name, rest, -, rfl, h⟩
        obtain ⟨hne, hfile, hk, hkeep⟩ := h.straight hf
        exact ⟨hne, hfile, fun k hk' => by simpa using hlevels.mp hk k hk', hkeep⟩
      · rintro ⟨hne, ⟨data, hfile⟩, hk, hkeep⟩
        obtain ⟨name, rest, rfl⟩ := List.exists_cons_of_ne_nil hne
        have hk' : ∀ k, (Visit.start levels root place).levels = some k →
            (name :: rest).length ≤ k + 1 :=
          hlevels.mpr fun k hlk => by
            have := hk k hlk
            omega
        rcases listed_or_stuck (v := .start levels root place) hs hne hfile hk' hkeep with
          h | ⟨loc', e, h⟩
        · exact ⟨name, rest, trivial, rfl, h⟩
        · obtain ⟨n, back, rfl, -⟩ := h.exists_child hd
          exact absurd h (free n back e trivial)

theorem walk_linkFree (hf : d.root.LinkFree) {levels : Option Nat}
    (hl : levels ≠ some 0) {root : String} (hs : components root ≠ [.name "-"])
    {entries : List (String × Node)} (hr : d.resolve root = .ok place)
    (hd : d.root.get? place = some (.directory entries)) :
    ((∃ e, d.walk skipNone levels root = .error e) ↔ ∃ loc inner, loc ≠ [] ∧
      d.root.get? (place ++ loc) = some (.directory inner) ∧
      (∀ k, levels = some k → loc.length + 1 ≤ k) ∧ pathLimit ≤ byteLength (below root loc)) ∧
    ∀ files, d.walk skipNone levels root = .ok files → ∃ locs : List Location,
      files = locs.map (below root) ∧ locs.Pairwise Before ∧ ∀ loc, loc ∈ locs ↔ loc ≠ [] ∧
        (∃ data, d.root.get? (place ++ loc) = some (.file data)) ∧
        ∀ k, levels = some k → loc.length ≤ k := by
  simpa using walk_kept entersAll_skipNone hf hl hs hr hd

end Disk

end CommentBlocks
