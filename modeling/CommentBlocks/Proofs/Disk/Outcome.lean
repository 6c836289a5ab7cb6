import CommentBlocks.Proofs.Disk.Visit
import Mathlib.Data.List.Sort

namespace CommentBlocks

open CommentBlocks.Path

namespace Disk

/-- What a walk gives for the entries of which the names are `among` some. -/
inductive Outcome (d : Disk) (skip : String → Bool → Bool) (v : Visit) (among : String → Prop) :
    Except WalkError (List String) → Prop
  | stuck {e name rest} (hn : among name) (h : d.Stuck skip v (name :: rest) e)
    (first : ∀ n loc e', among n → d.Stuck skip v (n :: loc) e' →
      n :: loc = name :: rest ∨ Before (name :: rest) (n :: loc)) :
    Outcome d skip v among (.error e)
  | listed {locs : List Location}
    (free : ∀ n loc e, among n → ¬d.Stuck skip v (n :: loc) e)
    (sorted : locs.Pairwise Before)
    (mem : ∀ loc, loc ∈ locs ↔
      ∃ name rest, among name ∧ loc = name :: rest ∧ d.Listed skip v loc) :
    Outcome d skip v among (.ok (locs.map (below v.path)))

variable {d : Disk} {skip : String → Bool → Bool} {v w : Visit} {name : String}

theorem Outcome.nil : d.Outcome skip v (· ∈ []) (.ok []) := by
  change d.Outcome skip v (· ∈ []) (.ok (([] : List Location).map (below v.path)))
  exact .listed (by simp) .nil (by simp)

theorem not_stuck_of_leaf (hs : ∀ e, ¬d.Stops skip v name e) (he : ∀ w, ¬d.Enters skip v name w) :
    ∀ n loc e, n = name → ¬d.Stuck skip v (n :: loc) e := by
  rintro n loc e rfl h
  cases h with
  | here h => exact hs _ h
  | down h => exact he _ h

theorem Outcome.pass (hs : ∀ e, ¬d.Stops skip v name e) (he : ∀ w, ¬d.Enters skip v name w)
    (hk : ¬d.Keeps skip v name) : d.Outcome skip v (· = name) (.ok []) := by
  change d.Outcome skip v (· = name) (.ok (([] : List Location).map (below v.path)))
  refine .listed (not_stuck_of_leaf hs he) .nil fun loc => ⟨by simp, ?_⟩
  rintro ⟨n, rest, rfl, rfl, h⟩
  cases h with
  | here h => exact absurd h hk
  | down h => exact absurd h (he _)

theorem Outcome.keep (hs : ∀ e, ¬d.Stops skip v name e) (he : ∀ w, ¬d.Enters skip v name w)
    (hk : d.Keeps skip v name) : d.Outcome skip v (· = name) (.ok [join v.path name]) := by
  change d.Outcome skip v (· = name) (.ok ([[name]].map (below v.path)))
  refine .listed (not_stuck_of_leaf hs he) (List.pairwise_singleton _ _)
    fun loc => ⟨fun h => ?_, ?_⟩
  · obtain rfl := List.mem_singleton.mp h
    exact ⟨name, [], rfl, rfl, .here hk⟩
  · rintro ⟨n, rest, rfl, rfl, h⟩
    cases h with
    | here => exact List.mem_singleton_self _
    | down h => exact absurd h (he _)

theorem Outcome.leaf (hs : ∀ e, ¬d.Stops skip v name e) (he : ∀ w, ¬d.Enters skip v name w)
    {passed : Bool} (hk : passed = false ↔ d.Keeps skip v name) :
    d.Outcome skip v (· = name) (.ok (if passed then [] else [join v.path name])) := by
  cases passed with
  | true => exact .pass hs he (by simpa using hk)
  | false => exact .keep hs he (hk.mp rfl)

theorem Outcome.stop {e : WalkError} (h : d.Stops skip v name e) :
    d.Outcome skip v (· = name) (.error e) := by
  refine .stuck rfl (.here h) fun n loc e' hn hst => ?_
  subst hn
  cases hst with
  | here => exact .inl rfl
  | down he => exact absurd h he.not_stops

theorem Outcome.enter {result : Except WalkError (List String)} (h : d.Enters skip v name w)
    (ho : d.Outcome skip w (fun _ => True) result) : d.Outcome skip v (· = name) result := by
  obtain ⟨inner, hd⟩ := h.exists_directory
  cases ho with
  | stuck _ hw first =>
    refine .stuck rfl (.down h hw) fun n loc e' hn hst => ?_
    subst hn
    cases hst with
    | here hst => exact absurd hst h.not_stops
    | down he hw' =>
      obtain rfl := h.unique he
      obtain ⟨m, back, rfl, -⟩ := hw'.exists_child hd
      rcases first m back _ trivial hw' with heq | hlt
      · exact .inl (congrArg _ heq)
      · exact .inr (before_cons n hlt)
  | @listed locs free sorted mem =>
    have hl : locs.map (below w.path) = (locs.map (name :: ·)).map (below v.path) := by
      rw [List.map_map, h.path_eq]
      rfl
    rw [hl]
    refine .listed (fun n loc e hn hst => ?_) ?_ fun loc => ?_
    · subst hn
      cases hst with
      | here hst => exact h.not_stops hst
      | down he hw =>
        obtain rfl := h.unique he
        obtain ⟨m, back, rfl, -⟩ := hw.exists_child hd
        exact free m back e trivial hw
    · exact List.pairwise_map.mpr (sorted.imp (before_cons name))
    · constructor
      · intro hm
        obtain ⟨rest, hr, rfl⟩ := List.mem_map.mp hm
        obtain ⟨_, _, -, rfl, hr⟩ := (mem rest).mp hr
        exact ⟨name, _, rfl, rfl, .down h hr⟩
      · rintro ⟨n, rest, rfl, rfl, hli⟩
        cases hli with
        | here hli => exact absurd hli h.not_keeps
        | down he hw =>
          obtain rfl := h.unique he
          obtain ⟨m, back, rfl, -⟩ := hw.exists_child hd
          exact List.mem_map_of_mem ((mem _).mpr ⟨m, back, trivial, rfl, hw⟩)

theorem Outcome.cons {names : List String} {found rest : Except WalkError (List String)}
    (hn : ∀ n ∈ names, name < n) (hf : d.Outcome skip v (· = name) found)
    (hr : d.Outcome skip v (· ∈ names) rest) :
    d.Outcome skip v (· ∈ name :: names) (found.bind fun files => rest.map (files ++ ·)) := by
  cases hf with
  | stuck hm h first =>
    subst hm
    refine .stuck List.mem_cons_self h fun n loc e' hm hst => ?_
    rcases List.mem_cons.mp hm with rfl | hm
    · exact first n loc e' rfl hst
    · exact .inr (before_of_lt (hn n hm) _ _)
  | @listed locs free sorted mem =>
    cases hr with
    | stuck hm h first =>
      refine .stuck (List.mem_cons_of_mem _ hm) h fun n loc e' hm' hst => ?_
      rcases List.mem_cons.mp hm' with rfl | hm'
      · exact absurd hst (free n loc e' rfl)
      · exact first n loc e' hm' hst
    | @listed locs' free' sorted' mem' =>
      have ha : Except.map (locs.map (below v.path) ++ ·) (Except.ok (locs'.map (below v.path))) =
          (.ok ((locs ++ locs').map (below v.path)) : Except WalkError (List String)) := by
        rw [List.map_append]
        rfl
      simp only [Except.bind, ha]
      refine .listed (fun n loc e hm => ?_) (List.pairwise_append.mpr ⟨sorted, sorted', ?_⟩)
        fun loc => ?_
      · rcases List.mem_cons.mp hm with rfl | hm
        · exact free n loc e rfl
        · exact free' n loc e hm
      · intro a ha b hb
        obtain ⟨m, front, rfl, rfl, -⟩ := (mem a).mp ha
        obtain ⟨n, back, hm', rfl, -⟩ := (mem' b).mp hb
        exact before_of_lt (hn n hm') front back
      · rw [List.mem_append, mem, mem']
        constructor
        · rintro (⟨n, rest, rfl, hl⟩ | ⟨n, rest, hm, hl⟩)
          · exact ⟨n, rest, List.mem_cons_self, hl⟩
          · exact ⟨n, rest, List.mem_cons_of_mem _ hm, hl⟩
        · rintro ⟨n, rest, hm, hl⟩
          rcases List.mem_cons.mp hm with rfl | hm
          · exact .inl ⟨n, rest, rfl, hl⟩
          · exact .inr ⟨n, rest, hm, hl⟩

theorem Outcome.all {entries : List (String × Node)} {result : Except WalkError (List String)}
    (hd : d.root.get? v.place = some (.directory entries))
    (h : d.Outcome skip v (· ∈ (Node.inOrder entries).map Prod.fst) result) :
    d.Outcome skip v (fun _ => True) result := by
  have hmem {name n} (hc : Node.child? name entries = some n) :
      name ∈ (Node.inOrder entries).map Prod.fst :=
    List.mem_map_of_mem (Node.mem_inOrder.mpr (Node.mem_of_child? hc))
  have hstuck : ∀ n loc e, d.Stuck skip v (n :: loc) e →
      n ∈ (Node.inOrder entries).map Prod.fst := by
    intro n loc e h
    obtain ⟨m, back, he, k, hc⟩ := h.exists_child hd
    exact (List.cons.inj he).1 ▸ hmem hc
  cases h with
  | stuck _ h first =>
    exact .stuck trivial h fun n loc e' _ hst => first n loc e' (hstuck n loc e' hst) hst
  | listed free sorted mem =>
    refine .listed (fun n loc e _ h => free n loc e (hstuck n loc e h) h) sorted fun loc => ?_
    rw [mem]
    constructor
    · rintro ⟨n, rest, -, hl⟩
      exact ⟨n, rest, trivial, hl⟩
    · rintro ⟨n, rest, -, rfl, hl⟩
      obtain ⟨m, back, he, k, hc⟩ := hl.exists_child hd
      exact ⟨n, rest, (List.cons.inj he).1 ▸ hmem hc, rfl, hl⟩

theorem Outcome.file {data : Bytes} (hn : d.root.get? (v.place ++ [name]) = some (.file data)) :
    d.Outcome skip v (· = name)
      (.ok (if skip (join v.path name) false then [] else [join v.path name])) := by
  refine .leaf (fun e h => ?_) (fun w h => ?_) ⟨.file hn, fun h => ?_⟩
  · cases h <;> simp_all
  · cases h <;> simp_all
  · cases h <;> simp_all

theorem Outcome.directory {inner : List (String × Node)}
    {below : Except WalkError (List String)}
    (hn : d.root.get? (v.place ++ [name]) = some (.directory inner))
    (ho : d.Outcome skip (v.enter name (v.place ++ [name])) (fun _ => True) below) :
    d.Outcome skip v (· = name)
      (if skip (join v.path name) true || v.levels == some 0 then .ok []
        else if pathLimit ≤ byteLength (join v.path name) then
          .error (.unreadable (join v.path name) (.system .nameTooLong))
        else below) := by
  split
  · refine .pass (fun e h => ?_) (fun w h => ?_) fun h => ?_
    · cases h <;> simp_all
    · cases h <;> simp_all
    · cases h <;> simp_all
  · rename_i hs
    obtain ⟨hs, hl⟩ : skip (join v.path name) true = false ∧ v.levels ≠ some 0 := by
      simpa using hs
    split
    · exact .stop (.long hn hs hl (by assumption))
    · exact .enter (.directory hn hs hl (by omega)) ho

theorem Outcome.link {link : String} (hn : d.root.get? (v.place ++ [name]) = some (.link link))
    (ho : ∀ target inner, d.root.get? target = some (.directory inner) →
      v.trail.find? (·.1 == target) = none →
      d.Outcome skip (v.enter name target) (fun _ => True)
        (d.walkEntries skip (v.levels.map (· - 1)) ((target, join v.path name) :: v.trail)
          (join v.path name) target (Node.inOrder inner))) :
    d.Outcome skip v (· = name) (d.linkFiles skip v.levels v.trail (join v.path name)) := by
  rw [linkFiles]
  cases hr : d.resolve (join v.path name) with
  | error e => exact .stop (.unreadable hn hr)
  | ok target =>
    dsimp only
    split
    · rename_i inner hd
      cases ht : v.trail.find? (·.1 == target) with
      | some step => exact .stop (.loop hn hr hd ht)
      | none =>
        dsimp only
        split
        · refine .pass (fun e h => ?_) (fun w h => ?_) fun h => ?_
          · cases h with
            | long | unreadable => simp_all
            | loop _ hr' _ ht' =>
              obtain rfl := Except.ok.inj (hr.symm.trans hr')
              simp [ht] at ht'
          · cases h <;> simp_all
          · cases h <;> simp_all
        · rename_i hs
          obtain ⟨hs, hl⟩ : skip (join v.path name) true = false ∧ v.levels ≠ some 0 := by
            simpa using hs
          exact .enter (.link hn hr hd ht hs hl) (ho target inner hd ht)
    · refine .leaf (fun e h => ?_) (fun w h => ?_) ⟨.link hn hr ‹_›, fun h => ?_⟩
      · cases h <;> simp_all
      · cases h <;> simp_all
      · cases h <;> simp_all

/-- What the walk of a stretch of a directory gives is the outcome for its names. -/
theorem outcome_walkEntries (levels : Option Nat) (trail : Trail) (path : String)
    (place : Location) (entries : List (String × Node)) :
    ∀ all, d.root.get? place = some (.directory all) → (∀ e ∈ entries, e ∈ all) →
      entries.Pairwise (·.1 < ·.1) →
      d.Outcome skip ⟨levels, trail, path, place⟩ (· ∈ entries.map Prod.fst)
        (d.walkEntries skip levels trail path place entries) := by
  induction levels, trail, path, place, entries using walk_induction d with
  | nil =>
    intro all hd hall hp
    rw [walkEntries]
    exact .nil
  | cons levels trail path place name node rest ihr ihd ihl =>
    intro all hd hall hp
    obtain ⟨hlt, hp⟩ := List.pairwise_cons.mp hp
    obtain ⟨hm, hall⟩ := List.forall_mem_cons.mp hall
    have hr := ihr all hd hall hp
    have hnames : ∀ n ∈ rest.map Prod.fst, name < n := by simpa using fun n m hm => hlt (n, m) hm
    have hn : d.root.get? (place ++ [name]) = some node := by
      rw [Node.get?_concat hd, Node.child?_eq_some_iff (d.named _ _ hd).1]
      exact hm
    -- A directory that is entered is walked from its first entry to its last.
    have hinner : ∀ target inner, d.root.get? target = some (.directory inner) →
        (∀ e ∈ Node.inOrder inner, e ∈ inner) ∧ (Node.inOrder inner).Pairwise (·.1 < ·.1) :=
      fun target inner hd => ⟨fun e => Node.mem_inOrder.mp, Node.pairwise_inOrder (d.named _ _ hd).1⟩
    rw [List.map_cons]
    cases node with
    | file data =>
      rw [walkEntries]
      exact .cons hnames (.file hn) hr
    | directory inner =>
      rw [walkEntries]
      obtain ⟨hsub, hord⟩ := hinner _ _ hn
      exact .cons hnames (.directory hn (.all hn (ihd inner rfl inner hn hsub hord))) hr
    | link link =>
      rw [walkEntries_link]
      refine .cons hnames (.link hn fun target inner hd ht => ?_) hr
      obtain ⟨hsub, hord⟩ := hinner _ _ hd
      exact .all hd (ihl target inner hd ht inner hd hsub hord)

def Visit.start (levels : Option Nat) (root : String) (place : Location) : Visit :=
  ⟨levels.map (· - 1), [(place, root)], root, place⟩

theorem outcome_walk {levels : Option Nat} (hl : levels ≠ some 0)
    {root : String} (hs : components root ≠ [.name "-"]) {place : Location}
    {entries : List (String × Node)} (hr : d.resolve root = .ok place)
    (hd : d.root.get? place = some (.directory entries)) :
    d.Outcome skip (.start levels root place) (fun _ => True) (d.walk skip levels root) := by
  rw [walk, if_neg hs, hr]
  simp only [hd, if_neg hl]
  exact .all hd (outcome_walkEntries _ _ _ _ _ entries hd (fun e => Node.mem_inOrder.mp)
    (Node.pairwise_inOrder (d.named _ _ hd).1))

theorem Outcome.congr {d' : Disk} {result result' : Except WalkError (List String)}
    (ho : d.Outcome skip v (fun _ => True) result) (ho' : d'.Outcome skip v (fun _ => True) result')
    (hs : ∀ loc e, d.Stuck skip v loc e ↔ d'.Stuck skip v loc e)
    (hl : ∀ loc, d.Listed skip v loc ↔ d'.Listed skip v loc) : result = result' := by
  cases ho with
  | @stuck e name rest _ h first =>
    cases ho' with
    | @stuck e' name' rest' _ h' first' =>
      have heq : name :: rest = name' :: rest' := by
        rcases first _ _ _ trivial ((hs _ _).mpr h') with heq | hlt
        · exact heq.symm
        · rcases first' _ _ _ trivial ((hs _ _).mp h) with heq | hlt'
          · exact heq
          · exact absurd hlt (Std.Asymm.asymm _ _ hlt')
      rw [h'.unique (heq ▸ (hs _ _).mp h)]
    | listed free => exact absurd ((hs _ _).mp h) (free _ _ _ trivial)
  | @listed locs free sorted mem =>
    cases ho' with
    | stuck _ h' => exact absurd ((hs _ _).mpr h') (free _ _ _ trivial)
    | @listed locs' free' sorted' mem' =>
      have hm : ∀ loc, loc ∈ locs ↔ loc ∈ locs' := by
        intro loc
        rw [mem, mem']
        simp only [hl]
      rw [sorted.eq_of_mem_iff sorted' hm]

end Disk

end CommentBlocks
