import CommentBlocks.Shared.Basic
import Mathlib.Data.List.Basic
import Mathlib.Data.List.Induction
import Mathlib.Logic.Relation

namespace CommentBlocks.Shared

variable {α X : Type}

inductive Event (α X : Type)
  | made (handle : Nat) (a : α)
  | cloned (handle copy : Nat)
  | used (handle : Nat) (x : X)

/-- The handles come from one another by cloning. -/
def Kin (es : List (Event α X)) : Nat → Nat → Prop :=
  Relation.EqvGen fun n m => .cloned n m ∈ es

def Event.use? (p : Nat → Prop) [DecidablePred p] : Event α X → Option X
  | used n x => if p n then some x else none
  | made _ _ | cloned _ _ => none

open scoped Classical in
noncomputable def uses (es : List (Event α X)) (n : Nat) : List X :=
  es.filterMap (Event.use? (Kin es n))

/-- A value goes through uses, each of which changes it as `play` says. -/
inductive Plays (play : α → X → α → Prop) (a : α) : List X → α → Prop
  | nil : Plays play a [] a
  | concat {xs b x c} (h : Plays play a xs b) (hp : play b x c) : Plays play a (xs ++ [x]) c

/-- The values and holders that events lead to, where uses change values as `play` says. -/
inductive Logged (play : α → X → α → Prop) : List (Event α X) → Shared α → Prop
  | nil : Logged play [] empty
  | made {es s} (h : Logged play es s) (a : α) :
    Logged play (es ++ [.made s.holders.length a]) (s.create a).1
  | cloned {es s s' n m} (h : Logged play es s) (hc : s.clone? n = some (s', m)) :
    Logged play (es ++ [.cloned n m]) s'
  | used {es s n x a f} (h : Logged play es s) (hg : s.get? n = some a) (hp : play a x (f a)) :
    Logged play (es ++ [.used n x]) (s.modify n f)

section Step

variable {s s' : Shared α} {n m p : Nat} {a b : α} {f : α → α}

theorem get?_eq_some_iff :
    s.get? n = some a ↔ ∃ p, s.holders[n]? = some p ∧ s.values[p]? = some a :=
  Option.bind_eq_some_iff

theorem clone?_eq_some_iff : s.clone? n = some (s', m) ↔
    ∃ p, s.holders[n]? = some p ∧ s' = ⟨s.values, s.holders ++ [p]⟩ ∧ m = s.holders.length := by
  simp only [clone?, Option.map_eq_some_iff, Prod.mk.injEq]
  constructor
  · rintro ⟨p, hp, rfl, rfl⟩
    exact ⟨p, hp, rfl, rfl⟩
  · rintro ⟨p, hp, rfl, rfl⟩
    exact ⟨p, hp, rfl, rfl⟩

theorem holders_modify (s : Shared α) (n : Nat) (f : α → α) :
    (s.modify n f).holders = s.holders := by
  rw [modify]
  split <;> rfl

theorem values_modify (h : s.holders[n]? = some p) (f : α → α) :
    (s.modify n f).values = s.values.modify p f := by
  rw [modify, h]

theorem get?_modify (s : Shared α) (n m : Nat) (f : α → α) : (s.modify n f).get? m =
    if s.holders[n]? = s.holders[m]? then (s.get? m).map f else s.get? m := by
  rw [get?, get?, holders_modify]
  cases hm : s.holders[m]? with
  | none => simp
  | some q =>
    cases hn : s.holders[n]? with
    | none => rw [modify, hn]; rfl
    | some p =>
      rw [values_modify hn, Option.bind_some, Option.bind_some, List.getElem?_modify]
      by_cases hp : p = q <;> simp [hp]

theorem modify_eq_self (h : ∀ a, s.get? n = some a → f a = a) : s.modify n f = s := by
  cases hn : s.holders[n]? with
  | none => rw [modify, hn]
  | some p =>
    obtain ⟨values, holders⟩ := s
    have hv : values.modify p f = values := by
      apply List.ext_getElem?
      intro q
      rw [List.getElem?_modify]
      by_cases hq : p = q
      · subst hq
        cases hp : values[p]? with
        | none => rfl
        | some a => simp [h a (get?_eq_some_iff.mpr ⟨p, hn, hp⟩)]
      · simp [hq]
    simp [modify, hn, hv]

theorem getElem?_concat_eq_some_iff {β : Type} {xs : List β} {x y : β} :
    (xs ++ [x])[n]? = some y ↔ xs[n]? = some y ∨ n = xs.length ∧ x = y := by
  rcases Nat.lt_trichotomy n xs.length with hn | rfl | hn
  · simp [List.getElem?_append_left hn, Nat.ne_of_lt hn]
  · simp
  · have hlen : (xs ++ [x]).length ≤ n := by simpa using Nat.succ_le_of_lt hn
    simp [List.getElem?_eq_none hlen, List.getElem?_eq_none (Nat.le_of_lt hn), Nat.ne_of_gt hn]

theorem get?_create (h : s.get? n = some b) (a : α) : (s.create a).1.get? n = some b := by
  obtain ⟨p, hn, hp⟩ := get?_eq_some_iff.mp h
  refine get?_eq_some_iff.mpr ⟨p, ?_, ?_⟩
  · exact getElem?_concat_eq_some_iff.mpr (.inl hn)
  · exact getElem?_concat_eq_some_iff.mpr (.inl hp)

theorem get?_clone? (hc : s.clone? n = some (s', m)) {k : Nat} (h : s.get? k = some b) :
    s'.get? k = some b := by
  obtain ⟨q, -, rfl, -⟩ := clone?_eq_some_iff.mp hc
  obtain ⟨p, hn, hp⟩ := get?_eq_some_iff.mp h
  exact get?_eq_some_iff.mpr ⟨p, getElem?_concat_eq_some_iff.mpr (.inl hn), hp⟩

end Step

section Places

variable {play : α → X → α → Prop} {es : List (Event α X)} {s : Shared α} {holders : List Nat}
  {n m p q : Nat} {a b : α}

inductive Placed (holders : List Nat) : Event α X → Prop
  | made {n p : Nat} {a : α} (h : holders[n]? = some p) : Placed holders (.made n a)
  | cloned {n m p : Nat} (h : holders[n]? = some p) (h' : holders[m]? = some p) :
    Placed holders (.cloned n m)
  | used {n p : Nat} {x : X} (h : holders[n]? = some p) : Placed holders (.used n x)

theorem Placed.concat {e : Event α X} (h : Placed holders e) (q : Nat) :
    Placed (holders ++ [q]) e := by
  have hkeep {n p : Nat} (hn : holders[n]? = some p) : (holders ++ [q])[n]? = some p :=
    getElem?_concat_eq_some_iff.mpr (.inl hn)
  cases h with
  | made hn => exact .made (hkeep hn)
  | cloned hn hm => exact .cloned (hkeep hn) (hkeep hm)
  | used hn => exact .used (hkeep hn)

theorem Logged.placed (h : Logged play es s) : ∀ e ∈ es, Placed s.holders e := by
  induction h with
  | nil => exact nofun
  | made h a ih =>
    refine List.forall_mem_append.mpr ⟨fun e he => (ih e he).concat _, ?_⟩
    exact List.forall_mem_singleton.mpr (.made List.getElem?_concat_length)
  | cloned h hc ih =>
    obtain ⟨p, hp, rfl, rfl⟩ := clone?_eq_some_iff.mp hc
    refine List.forall_mem_append.mpr ⟨fun e he => (ih e he).concat _, ?_⟩
    exact List.forall_mem_singleton.mpr
      (.cloned (getElem?_concat_eq_some_iff.mpr (.inl hp)) List.getElem?_concat_length)
  | used h hg hp ih =>
    obtain ⟨p, hn, -⟩ := get?_eq_some_iff.mp hg
    rw [holders_modify]
    exact List.forall_mem_append.mpr ⟨ih, List.forall_mem_singleton.mpr (.used hn)⟩

theorem Logged.place_lt (h : Logged play es s) (hn : s.holders[n]? = some p) :
    p < s.values.length := by
  induction h generalizing n p with
  | nil => cases hn
  | made h a ih =>
    rw [create, List.length_append]
    rcases getElem?_concat_eq_some_iff.mp hn with hn | ⟨-, rfl⟩
    · exact Nat.lt_add_right 1 (ih hn)
    · exact Nat.lt_add_one _
  | cloned h hc ih =>
    obtain ⟨q, hq, rfl, rfl⟩ := clone?_eq_some_iff.mp hc
    rcases getElem?_concat_eq_some_iff.mp hn with hn | ⟨-, rfl⟩
    · exact ih hn
    · exact ih hq
  | used h hg hp ih =>
    obtain ⟨q, hq, -⟩ := get?_eq_some_iff.mp hg
    rw [holders_modify] at hn
    rw [values_modify hq, List.length_modify]
    exact ih hn

theorem Kin.mono {es' : List (Event α X)} (h : Kin es n m) (hs : es ⊆ es') : Kin es' n m :=
  Relation.EqvGen.mono (fun _ _ hc => hs hc) _ _ h

/-- Handles of one family stand for one value. -/
theorem Kin.holders_eq (hk : Kin es n m) (h : Logged play es s) :
    s.holders[n]? = s.holders[m]? := by
  induction hk with
  | rel n m hc =>
    cases h.placed _ hc with
    | cloned hn hm => rw [hn, hm]
  | refl n => rfl
  | symm n m _ ih => exact ih.symm
  | trans n m k _ _ ih ih' => exact ih.trans ih'

theorem Kin.get?_eq (hk : Kin es n m) (h : Logged play es s) : s.get? n = s.get? m := by
  rw [get?, get?, hk.holders_eq h]

theorem Logged.exists_get? (h : Logged play es s) (hn : n < s.holders.length) :
    ∃ b, s.get? n = some b := by
  have hp := List.getElem?_eq_getElem hn
  exact ⟨_, get?_eq_some_iff.mpr ⟨_, hp, List.getElem?_eq_getElem (h.place_lt hp)⟩⟩

theorem Logged.kin_of_place (h : Logged play es s) (hn : s.holders[n]? = some p)
    (hm : s.holders[m]? = some p) : Kin es n m := by
  induction h generalizing n m p with
  | nil => cases hn
  | made h a ih =>
    -- no other handle stands for the new value
    rcases getElem?_concat_eq_some_iff.mp hn with hn | ⟨rfl, rfl⟩
    · rcases getElem?_concat_eq_some_iff.mp hm with hm | ⟨-, rfl⟩
      · exact (ih hn hm).mono (List.subset_append_left _ _)
      · exact absurd (h.place_lt hn) (Nat.lt_irrefl _)
    · rcases getElem?_concat_eq_some_iff.mp hm with hm | ⟨rfl, -⟩
      · exact absurd (h.place_lt hm) (Nat.lt_irrefl _)
      · exact .refl _
  | @cloned es s s' k m' h hc ih =>
    obtain ⟨q, hq, rfl, rfl⟩ := clone?_eq_some_iff.mp hc
    have hcopy {i : Nat} (hi : s.holders[i]? = some q) :
        Kin (es ++ [.cloned k s.holders.length]) i s.holders.length :=
      .trans _ _ _ ((ih hi hq).mono (List.subset_append_left _ _)) (.rel _ _ (by simp))
    rcases getElem?_concat_eq_some_iff.mp hn with hn | ⟨rfl, rfl⟩
    · rcases getElem?_concat_eq_some_iff.mp hm with hm | ⟨rfl, rfl⟩
      · exact (ih hn hm).mono (List.subset_append_left _ _)
      · exact hcopy hn
    · rcases getElem?_concat_eq_some_iff.mp hm with hm | ⟨rfl, -⟩
      · exact .symm _ _ (hcopy hm)
      · exact .refl _
  | used h hg hp ih =>
    rw [holders_modify] at hn hm
    exact (ih hn hm).mono (List.subset_append_left _ _)

theorem Logged.kin_iff (h : Logged play es s) (hn : s.holders[n]? = some p) :
    Kin es n m ↔ s.holders[m]? = some p :=
  ⟨fun hk => (hk.holders_eq h).symm.trans hn, fun hm => h.kin_of_place hn hm⟩

theorem Logged.lookup_made (h : Logged play es s) (hn : .made n a ∈ es) (q : Nat) :
    (s.holders ++ [q])[n]? = s.holders[n]? := by
  cases h.placed _ hn with
  | made hp => rw [hp, getElem?_concat_eq_some_iff.mpr (.inl hp)]

theorem Logged.get?_modify_of_not_kin (h : Logged play es s) (hg : s.get? n = some b)
    (hk : ¬Kin es n m) (f : α → α) : (s.modify m f).get? n = some b := by
  obtain ⟨p, hn, -⟩ := get?_eq_some_iff.mp hg
  rw [h.kin_iff hn] at hk
  rw [get?_modify, hn, if_neg hk, hg]

theorem Logged.asked {x : X} (h : Logged play es s) (hg : s.get? n = some a) (hp : play a x a) :
    Logged play (es ++ [.used n x]) s := by
  have hs := h.used (f := id) hg hp
  rwa [modify_eq_self (f := id) fun _ _ => rfl] at hs

theorem Logged.origin_unique (h : Logged play es s) (hn : .made n a ∈ es) (hm : .made m b ∈ es)
    (he : s.holders[n]? = s.holders[m]?) : n = m := by
  induction h generalizing n m a b with
  | nil => cases hn
  | @made es s h c ih =>
    have hlast : (s.holders ++ [s.values.length])[s.holders.length]? = some s.values.length :=
      List.getElem?_concat_length
    rw [create] at he
    rcases List.mem_append.mp hn with hn | hn
    · rw [h.lookup_made hn] at he
      rcases List.mem_append.mp hm with hm | hm
      · exact ih hn hm (he.trans (h.lookup_made hm _))
      · obtain ⟨rfl, rfl⟩ : m = s.holders.length ∧ b = c := by simpa using hm
        exact absurd (h.place_lt (he.trans hlast)) (Nat.lt_irrefl _)
    · obtain ⟨rfl, rfl⟩ : n = s.holders.length ∧ a = c := by simpa using hn
      rcases List.mem_append.mp hm with hm | hm
      · rw [h.lookup_made hm] at he
        exact absurd (h.place_lt (he.symm.trans hlast)) (Nat.lt_irrefl _)
      · obtain ⟨rfl, -⟩ : m = s.holders.length ∧ b = a := by simpa using hm
        rfl
  | cloned h hc ih =>
    obtain ⟨q, -, rfl, rfl⟩ := clone?_eq_some_iff.mp hc
    have hn := (List.mem_append.mp hn).resolve_right (by simp)
    have hm := (List.mem_append.mp hm).resolve_right (by simp)
    rw [h.lookup_made hn, h.lookup_made hm] at he
    exact ih hn hm he
  | used h hg hp ih =>
    rw [holders_modify] at he
    exact ih ((List.mem_append.mp hn).resolve_right (by simp))
      ((List.mem_append.mp hm).resolve_right (by simp)) he

def usesAt (holders : List Nat) (p : Nat) (es : List (Event α X)) : List X :=
  es.filterMap (Event.use? fun n => holders[n]? = some p)

theorem Placed.use?_concat {e : Event α X} (h : Placed holders e) (p q : Nat) :
    e.use? (fun n => (holders ++ [q])[n]? = some p) = e.use? fun n => holders[n]? = some p := by
  cases h with
  | made | cloned => rfl
  | used hn => simp only [Event.use?, hn, getElem?_concat_eq_some_iff.mpr (.inl hn)]

theorem usesAt_concat_holder (h : ∀ e ∈ es, Placed holders e) (p q : Nat) :
    usesAt (holders ++ [q]) p es = usesAt holders p es :=
  List.filterMap_congr fun e he => (h e he).use?_concat p q

theorem usesAt_concat (holders : List Nat) (p : Nat) (es : List (Event α X)) (e : Event α X) :
    usesAt holders p (es ++ [e]) =
      usesAt holders p es ++ (e.use? fun n => holders[n]? = some p).toList := by
  rw [usesAt, List.filterMap_append, ← usesAt]
  cases h : e.use? (fun n : Nat => holders[n]? = some p) <;> simp [h]

theorem usesAt_grown (h : ∀ e ∈ es, Placed holders e) {e : Event α X}
    (he : ∀ n x, e ≠ .used n x) (p q : Nat) :
    usesAt (holders ++ [q]) p (es ++ [e]) = usesAt holders p es := by
  rw [usesAt_concat, usesAt_concat_holder h]
  cases e with
  | made | cloned => exact List.append_nil _
  | used n x => exact absurd rfl (he n x)

theorem usesAt_eq_nil (h : ∀ n : Nat, holders[n]? ≠ some p) : usesAt holders p es = [] := by
  apply List.filterMap_eq_nil_iff.mpr
  intro e _
  cases e with
  | made | cloned => rfl
  | used n x => exact if_neg (h n)

/-- The induction goes by places, of which a clone makes none. -/
theorem Logged.plays_at (h : Logged play es s) (hp : s.values[p]? = some b) :
    ∃ origin a, s.holders[origin]? = some p ∧ .made origin a ∈ es ∧
      Plays play a (usesAt s.holders p es) b := by
  induction h generalizing p b with
  | nil => cases hp
  | @made es s h a ih =>
    rw [create, usesAt_grown (e := .made _ a) h.placed nofun]
    rcases getElem?_concat_eq_some_iff.mp hp with hp | ⟨rfl, rfl⟩
    · obtain ⟨origin, a', ho, hm, hplays⟩ := ih hp
      exact ⟨origin, a', getElem?_concat_eq_some_iff.mpr (.inl ho),
        List.mem_append_left _ hm, hplays⟩
    · refine ⟨s.holders.length, a, List.getElem?_concat_length, by simp, ?_⟩
      rw [usesAt_eq_nil fun n hn => Nat.lt_irrefl _ (h.place_lt hn)]
      exact .nil
  | @cloned es s s' n m h hc ih =>
    obtain ⟨q, -, rfl, rfl⟩ := clone?_eq_some_iff.mp hc
    rw [usesAt_grown (e := .cloned n _) h.placed nofun]
    obtain ⟨origin, a, ho, hm, hplays⟩ := ih hp
    exact ⟨origin, a, getElem?_concat_eq_some_iff.mpr (.inl ho), List.mem_append_left _ hm, hplays⟩
  | @used es s n x a f h hg hplay ih =>
    obtain ⟨q, hn, hq⟩ := get?_eq_some_iff.mp hg
    rw [values_modify hn, List.getElem?_modify] at hp
    rw [holders_modify, usesAt_concat]
    by_cases he : q = p
    · subst he
      obtain ⟨origin, a', ho, hm, hplays⟩ := ih hq
      obtain rfl : f a = b := by simpa [hq] using hp
      refine ⟨origin, a', ho, List.mem_append_left _ hm, ?_⟩
      simpa [Event.use?, hn] using hplays.concat hplay
    · obtain ⟨origin, a', ho, hm, hplays⟩ := ih (by simpa [he] using hp)
      refine ⟨origin, a', ho, List.mem_append_left _ hm, ?_⟩
      simpa [Event.use?, hn, he] using hplays

theorem Logged.uses_eq (h : Logged play es s) (hn : s.holders[n]? = some p) :
    uses es n = usesAt s.holders p es := by
  apply List.filterMap_congr
  intro e _
  cases e with
  | made | cloned => rfl
  | used m x => simp only [Event.use?, h.kin_iff hn]

theorem Logged.plays (h : Logged play es s) (hg : s.get? n = some b) :
    ∃ origin a, Kin es n origin ∧ .made origin a ∈ es ∧
      (∀ m c, Kin es n m → .made m c ∈ es → m = origin) ∧ Plays play a (uses es n) b := by
  obtain ⟨p, hn, hp⟩ := get?_eq_some_iff.mp hg
  obtain ⟨origin, a, ho, hm, hplays⟩ := h.plays_at hp
  refine ⟨origin, a, h.kin_of_place hn ho, hm, fun m c hk hc => ?_, h.uses_eq hn ▸ hplays⟩
  exact h.origin_unique hc hm ((hk.holders_eq h).symm.trans (hn.trans ho.symm))

theorem mem_uses {x : X} : x ∈ uses es n ↔ ∃ m, Kin es n m ∧ .used m x ∈ es := by
  rw [uses, List.mem_filterMap]
  constructor
  · rintro ⟨e, he, hx⟩
    cases e with
    | made | cloned => cases hx
    | used m y =>
      obtain ⟨hk, rfl⟩ : Kin es n m ∧ y = x := by simpa [Event.use?] using hx
      exact ⟨m, hk, he⟩
  · rintro ⟨m, hk, he⟩
    exact ⟨_, he, if_pos hk⟩

end Places

section Requests

variable {S R A : Type} {serve : S → R → S × A} {serveAll : S → List R → S × List A}

/-- Of many requests, each is answered on what the ones before it leave. -/
structure Serves (serve : S → R → S × A) (serveAll : S → List R → S × List A) : Prop where
  nil s : serveAll s [] = (s, [])
  cons s r rs : serveAll s (r :: rs) =
    ((serveAll (serve s r).1 rs).1, (serve s r).2 :: (serveAll (serve s r).1 rs).2)

theorem Serves.append (h : Serves serve serveAll) (s : S) (rs more : List R) :
    serveAll s (rs ++ more) = ((serveAll (serveAll s rs).1 more).1,
      (serveAll s rs).2 ++ (serveAll (serveAll s rs).1 more).2) := by
  induction rs generalizing s with
  | nil => simp [h.nil]
  | cons r rs ih => simp [h.cons, ih]

theorem Serves.length_answers (h : Serves serve serveAll) (s : S) (rs : List R) :
    (serveAll s rs).2.length = rs.length := by
  induction rs generalizing s with
  | nil => simp [h.nil]
  | cons r rs ih => simp [h.cons, ih]

theorem Serves.zip_append (h : Serves serve serveAll) (s : S) (rs more : List R) :
    (rs ++ more).zip (serveAll s (rs ++ more)).2 =
      rs.zip (serveAll s rs).2 ++ more.zip (serveAll (serveAll s rs).1 more).2 := by
  rw [h.append, List.zip_append (h.length_answers s rs).symm]

theorem Serves.concat (h : Serves serve serveAll) (s : S) (rs : List R) (r : R) :
    serveAll s (rs ++ [r]) =
      ((serve (serveAll s rs).1 r).1, (serveAll s rs).2 ++ [(serve (serveAll s rs).1 r).2]) := by
  simp [h.append, h.cons, h.nil]

theorem Serves.zip_concat (h : Serves serve serveAll) (s : S) (rs : List R) (r : R) :
    (rs ++ [r]).zip (serveAll s (rs ++ [r])).2 =
      rs.zip (serveAll s rs).2 ++ [(r, (serve (serveAll s rs).1 r).2)] := by
  rw [h.zip_append, h.cons, h.nil]
  rfl

theorem Serves.keeps (h : Serves serve serveAll) {P : List (R × A) → S → Prop} {s : S} (hs : P [] s)
    (hstep : ∀ entries s r, P entries s → P (entries ++ [(r, (serve s r).2)]) (serve s r).1)
    (rs : List R) : P (rs.zip (serveAll s rs).2) (serveAll s rs).1 := by
  induction rs using List.reverseRecOn with
  | nil =>
    rw [h.nil]
    exact hs
  | append_singleton rs r ih =>
    rw [h.zip_concat, h.concat]
    exact hstep _ _ r ih

theorem Serves.logged {P : List (Event α X) → S → Prop} {event? : R × A → Option (Event α X)}
    {s : S} (h : Serves serve serveAll) (hs : P [] s)
    (hstep : ∀ es s r, P es s → P (es ++ (event? (r, (serve s r).2)).toList) (serve s r).1)
    (rs : List R) : P ((rs.zip (serveAll s rs).2).filterMap event?) (serveAll s rs).1 := by
  refine h.keeps (P := fun entries s => P (entries.filterMap event?) s) hs (fun entries s r ih => ?_) rs
  have hlog := hstep _ _ r ih
  rw [List.filterMap_append]
  cases he : event? (r, (serve s r).2) <;> simpa [he] using hlog

end Requests

end CommentBlocks.Shared
