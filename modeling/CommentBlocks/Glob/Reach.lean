import CommentBlocks.Bytes

namespace CommentBlocks.Glob

/-- The bytes of a path with a mark in front of each of them, and one behind the last. -/
inductive Reach
  | last (here : Bool)
  | cons (here : Bool) (b : UInt8) (rest : Reach)

namespace Reach

def bytes : Reach → Bytes
  | last _ => []
  | cons _ b r => b :: r.bytes

def rests : Reach → List Bytes
  | last here => if here then [[]] else []
  | cons here b r => if here then (b :: r.bytes) :: r.rests else r.rests

def stepFrom (ok : UInt8 → Bool) (front : Bool) : Reach → Reach
  | last _ => last front
  | cons here b r => cons front b (r.stepFrom ok (here && ok b))

def spreadFrom (ok : UInt8 → Bool) (front : Bool) : Reach → Reach
  | last here => last (front || here)
  | cons here b r => cons (front || here) b (r.spreadFrom ok ((front || here) && ok b))

def step (ok : UInt8 → Bool) (r : Reach) : Reach := r.stepFrom ok false

def spread (ok : UInt8 → Bool) (r : Reach) : Reach := r.spreadFrom ok false

def unmarked : Bytes → Reach
  | [] => last false
  | b :: bs => cons false b (unmarked bs)

def union : Reach → Reach → Reach
  | last here, last there => last (here || there)
  | cons here b r, cons there _ q => cons (here || there) b (r.union q)
  | r, _ => r

def start : Bytes → Reach
  | [] => last true
  | b :: bs => cons true b (unmarked bs)

def isComplete : Reach → Bool
  | last here => here
  | cons _ _ r => r.isComplete

@[simp]
theorem bytes_stepFrom (ok : UInt8 → Bool) (front : Bool) (r : Reach) :
    (r.stepFrom ok front).bytes = r.bytes := by
  induction r generalizing front with
  | last => rfl
  | cons here b r ih => simp only [stepFrom, bytes, ih]

@[simp]
theorem bytes_spreadFrom (ok : UInt8 → Bool) (front : Bool) (r : Reach) :
    (r.spreadFrom ok front).bytes = r.bytes := by
  induction r generalizing front with
  | last => rfl
  | cons here b r ih => simp only [spreadFrom, bytes, ih]

@[simp]
theorem bytes_union (r q : Reach) : (r.union q).bytes = r.bytes := by
  induction r generalizing q with
  | last => cases q <;> rfl
  | cons here b r ih =>
    cases q with
    | last => rfl
    | cons there c q => simp only [union, bytes, ih]

@[simp]
theorem bytes_unmarked (s : Bytes) : (unmarked s).bytes = s := by
  induction s with
  | nil => rfl
  | cons b s ih => rw [unmarked, bytes, ih]

@[simp]
theorem rests_unmarked (s : Bytes) : (unmarked s).rests = [] := by
  induction s with
  | nil => rfl
  | cons b s ih => simp [unmarked, rests, ih]

@[simp]
theorem bytes_start (s : Bytes) : (start s).bytes = s := by
  cases s with
  | nil => rfl
  | cons b s => rw [start, bytes, bytes_unmarked]

theorem mem_rests_cons {here : Bool} {b : UInt8} {r : Reach} {s : Bytes} :
    s ∈ (cons here b r).rests ↔ (here = true ∧ s = b :: r.bytes) ∨ s ∈ r.rests := by
  cases here <;> simp [rests]

theorem mem_rests_stepFrom {ok : UInt8 → Bool} {front : Bool} {r : Reach} {s : Bytes} :
    s ∈ (r.stepFrom ok front).rests ↔
      (front = true ∧ s = r.bytes) ∨ ∃ b, ok b = true ∧ b :: s ∈ r.rests := by
  induction r generalizing front with
  | last here => cases front <;> cases here <;> simp [stepFrom, rests, bytes]
  | cons here b r ih =>
    rw [stepFrom, mem_rests_cons, ih, bytes_stepFrom]
    simp only [mem_rests_cons, bytes, List.cons.injEq, Bool.and_eq_true]
    grind

theorem mem_rests_spreadFrom {ok : UInt8 → Bool} {front : Bool} {r : Reach} {s : Bytes} :
    s ∈ (r.spreadFrom ok front).rests ↔
      ∃ w, w.all ok = true ∧ ((front = true ∧ r.bytes = w ++ s) ∨ w ++ s ∈ r.rests) := by
  induction r generalizing front with
  | last here =>
    rw [spreadFrom, rests, rests, bytes]
    constructor
    · intro hs
      refine ⟨[], rfl, ?_⟩
      cases front <;> cases here <;> simp_all
    · rintro ⟨w, -, ⟨rfl, hw⟩ | hw⟩
      · obtain ⟨-, rfl⟩ := List.append_eq_nil_iff.mp hw.symm
        simp
      · cases here with
        | false => simp at hw
        | true =>
          obtain ⟨-, rfl⟩ : w = [] ∧ s = [] := by simpa using hw
          simp
  | cons here b r ih =>
    rw [spreadFrom, mem_rests_cons, ih, bytes_spreadFrom]
    simp only [mem_rests_cons, bytes, Bool.and_eq_true, Bool.or_eq_true]
    constructor
    · rintro (⟨hf | hf, rfl⟩ | ⟨w, hw, ⟨⟨hf | hf, hb⟩, hr⟩ | hr⟩)
      · exact ⟨[], rfl, .inl ⟨hf, rfl⟩⟩
      · exact ⟨[], rfl, .inr (.inl ⟨hf, rfl⟩)⟩
      · exact ⟨b :: w, by simpa [hb] using hw, .inl ⟨hf, by rw [hr, List.cons_append]⟩⟩
      · exact ⟨b :: w, by simpa [hb] using hw, .inr (.inl ⟨hf, by rw [hr, List.cons_append]⟩)⟩
      · exact ⟨w, hw, .inr (.inr hr)⟩
    · rintro ⟨w, hw, ⟨hf, hr⟩ | ⟨hf, hr⟩ | hr⟩
      · cases w with
        | nil => exact .inl ⟨.inl hf, hr.symm⟩
        | cons c w =>
          obtain ⟨rfl, ht⟩ := List.cons.inj hr
          rw [List.all_cons, Bool.and_eq_true] at hw
          exact .inr ⟨w, hw.2, .inl ⟨⟨.inl hf, hw.1⟩, ht⟩⟩
      · cases w with
        | nil => exact .inl ⟨.inr hf, hr⟩
        | cons c w =>
          obtain ⟨rfl, ht⟩ := List.cons.inj hr
          rw [List.all_cons, Bool.and_eq_true] at hw
          exact .inr ⟨w, hw.2, .inl ⟨⟨.inr hf, hw.1⟩, ht.symm⟩⟩
      · exact .inr ⟨w, hw, .inr hr⟩

theorem mem_rests_step {ok : UInt8 → Bool} {r : Reach} {s : Bytes} :
    s ∈ (r.step ok).rests ↔ ∃ b, ok b = true ∧ b :: s ∈ r.rests := by
  simp [step, mem_rests_stepFrom]

theorem mem_rests_spread {ok : UInt8 → Bool} {r : Reach} {s : Bytes} :
    s ∈ (r.spread ok).rests ↔ ∃ w, w.all ok = true ∧ w ++ s ∈ r.rests := by
  simp [spread, mem_rests_spreadFrom]

theorem mem_rests_union {r q : Reach} (h : r.bytes = q.bytes) {s : Bytes} :
    s ∈ (r.union q).rests ↔ s ∈ r.rests ∨ s ∈ q.rests := by
  induction r generalizing q with
  | last here =>
    cases q with
    | last there => cases here <;> cases there <;> simp [union, rests]
    | cons => simp [bytes] at h
  | cons here b r ih =>
    cases q with
    | last => simp [bytes] at h
    | cons there c q =>
      obtain ⟨rfl, ht⟩ := List.cons.inj h
      rw [union, mem_rests_cons, mem_rests_cons, mem_rests_cons, ih ht, bytes_union, ht,
        Bool.or_eq_true]
      grind

@[simp]
theorem rests_start (s : Bytes) : (start s).rests = [s] := by
  cases s with
  | nil => rfl
  | cons b s => simp [start, rests]

theorem isComplete_iff {r : Reach} : r.isComplete = true ↔ [] ∈ r.rests := by
  induction r with
  | last here => cases here <;> simp [isComplete, rests]
  | cons here b r ih => simp [isComplete, mem_rests_cons, ih]

end Reach

end CommentBlocks.Glob
