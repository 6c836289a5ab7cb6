import CommentBlocks.Glob.Match

namespace CommentBlocks.Glob

open Bytes

mutual

/-- The part stands for these bytes. -/
def Part.Takes : Part → Bytes → Prop
  | .literal c, w => w = ofChars [c]
  | .any, w => ∃ b, b ≠ slash ∧ w = [b]
  | .star, w => slash ∉ w
  | .leading, w => w = [] ∨ ∃ v, w = v ++ [slash]
  | .between, w => w = [slash] ∨ ∃ v, w = slash :: (v ++ [slash])
  | .trailing, w => ∃ v, w = slash :: v
  | .oneOf negated ranges, w => ∃ b, (ranges.any (rangeHas b) != negated) = true ∧ w = [b]
  | .choice alternatives, w =>
    if allVoid alternatives then w = [] else TakesAny alternatives w

def TakesAll : List Part → Bytes → Prop
  | [], w => w = []
  | p :: ps, w => ∃ u v, w = u ++ v ∧ p.Takes u ∧ TakesAll ps v

def TakesAny : List (List Part) → Bytes → Prop
  | [], _ => False
  | ps :: alternatives, w => (areVoid ps = false ∧ TakesAll ps w) ∨ TakesAny alternatives w

end

namespace Reach

@[simp]
theorem bytes_step (ok : UInt8 → Bool) (r : Reach) : (r.step ok).bytes = r.bytes :=
  bytes_stepFrom ok false r

@[simp]
theorem bytes_spread (ok : UInt8 → Bool) (r : Reach) : (r.spread ok).bytes = r.bytes :=
  bytes_spreadFrom ok false r

@[simp]
theorem bytes_literal (bs : Bytes) (r : Reach) : (r.literal bs).bytes = r.bytes := by
  induction bs generalizing r with
  | nil => rfl
  | cons b bs ih => exact (ih _).trans (bytes_step _ r)

@[simp]
theorem bytes_upToSlash (r : Reach) : r.upToSlash.bytes = r.bytes := bytes_union _ _

@[simp]
theorem bytes_oneSlash (r : Reach) : r.oneSlash.bytes = r.bytes := bytes_step _ r

theorem mem_rests_literal {bs : Bytes} {r : Reach} {s : Bytes} :
    s ∈ (r.literal bs).rests ↔ bs ++ s ∈ r.rests := by
  induction bs generalizing r with
  | nil => rfl
  | cons b bs ih =>
    have hl : r.literal (b :: bs) = (r.step (· == b)).literal bs := rfl
    rw [hl, ih, mem_rests_step]
    simp

theorem mem_rests_oneSlash {r : Reach} {s : Bytes} :
    s ∈ r.oneSlash.rests ↔ slash :: s ∈ r.rests := by
  simp [oneSlash, mem_rests_step]

theorem mem_rests_upToSlash {r : Reach} {s : Bytes} :
    s ∈ r.upToSlash.rests ↔ s ∈ r.rests ∨ ∃ v, v ++ slash :: s ∈ r.rests := by
  rw [upToSlash, mem_rests_union (by simp), mem_rests_oneSlash, mem_rests_spread]
  simp

end Reach

mutual

@[simp]
theorem Part.bytes_advance (p : Part) (r : Reach) : (p.advance r).bytes = r.bytes := by
  match p with
  | .literal c => simp [Part.advance]
  | .any | .star | .oneOf _ _ => simp [Part.advance, Reach.inName]
  | .leading | .between | .trailing => simp [Part.advance]
  | .choice alternatives =>
    rw [Part.advance]
    split
    · rfl
    · exact bytes_advanceAny alternatives r

@[simp]
theorem bytes_advanceAll (ps : List Part) (r : Reach) : (advanceAll ps r).bytes = r.bytes := by
  match ps with
  | [] => rfl
  | p :: ps => rw [advanceAll, bytes_advanceAll ps, Part.bytes_advance p]

@[simp]
theorem bytes_advanceAny (alternatives : List (List Part)) (r : Reach) :
    (advanceAny alternatives r).bytes = r.bytes := by
  match alternatives with
  | [] => simp [advanceAny]
  | ps :: alternatives =>
    rw [advanceAny]
    split
    · exact bytes_advanceAny alternatives r
    · rw [Reach.bytes_union, bytes_advanceAll ps]

end

mutual

theorem Part.mem_rests_advance (p : Part) (r : Reach) (s : Bytes) :
    s ∈ (p.advance r).rests ↔ ∃ w, p.Takes w ∧ w ++ s ∈ r.rests := by
  match p with
  | .literal c => simp [Part.advance, Part.Takes, Reach.mem_rests_literal]
  | .any =>
    simp only [Part.advance, Part.Takes, Reach.inName, Reach.mem_rests_step, bne_iff_ne]
    constructor
    · rintro ⟨b, hb, hm⟩
      exact ⟨[b], ⟨b, hb, rfl⟩, hm⟩
    · rintro ⟨_, ⟨b, hb, rfl⟩, hm⟩
      exact ⟨b, hb, hm⟩
  | .star =>
    simp only [Part.advance, Part.Takes, Reach.mem_rests_spread]
    grind
  | .leading =>
    simp only [Part.advance, Part.Takes, Reach.mem_rests_upToSlash]
    grind
  | .between =>
    simp only [Part.advance, Part.Takes, Reach.mem_rests_upToSlash, Reach.mem_rests_oneSlash]
    grind
  | .trailing =>
    simp only [Part.advance, Part.Takes, Reach.mem_rests_spread, Reach.mem_rests_oneSlash]
    grind
  | .oneOf negated ranges =>
    simp only [Part.advance, Part.Takes, Reach.mem_rests_step]
    constructor
    · rintro ⟨b, hb, hm⟩
      exact ⟨[b], ⟨b, hb, rfl⟩, hm⟩
    · rintro ⟨_, ⟨b, hb, rfl⟩, hm⟩
      exact ⟨b, hb, hm⟩
  | .choice alternatives =>
    simp only [Part.advance, Part.Takes]
    split
    · simp
    · exact mem_rests_advanceAny alternatives r s

theorem mem_rests_advanceAll (ps : List Part) (r : Reach) (s : Bytes) :
    s ∈ (advanceAll ps r).rests ↔ ∃ w, TakesAll ps w ∧ w ++ s ∈ r.rests := by
  match ps with
  | [] => simp [advanceAll, TakesAll]
  | p :: ps =>
    rw [advanceAll, mem_rests_advanceAll ps]
    simp only [Part.mem_rests_advance p, TakesAll]
    constructor
    · rintro ⟨v, hv, u, hu, hm⟩
      exact ⟨u ++ v, ⟨u, v, rfl, hu, hv⟩, by rwa [List.append_assoc]⟩
    · rintro ⟨_, ⟨u, v, rfl, hu, hv⟩, hm⟩
      exact ⟨v, hv, u, hu, by rwa [← List.append_assoc]⟩

theorem mem_rests_advanceAny (alternatives : List (List Part)) (r : Reach) (s : Bytes) :
    s ∈ (advanceAny alternatives r).rests ↔
      ∃ w, TakesAny alternatives w ∧ w ++ s ∈ r.rests := by
  match alternatives with
  | [] => simp [advanceAny, TakesAny]
  | ps :: alternatives =>
    rw [advanceAny]
    simp only [TakesAny]
    split
    · rename_i hv
      rw [mem_rests_advanceAny alternatives]
      simp [hv]
    · rename_i hv
      rw [Reach.mem_rests_union (by simp), mem_rests_advanceAll ps,
        mem_rests_advanceAny alternatives]
      simp only [hv]
      grind

end

/-- A glob accepts the paths that its parts stand for as a whole. -/
theorem accepts_iff {g : Glob} {path : Bytes} :
    g.accepts path = true ↔ g.parts = [.leading] ∨ TakesAll g.parts path := by
  have hall : (advanceAll g.parts (.start path)).isComplete = true ↔ TakesAll g.parts path := by
    rw [Reach.isComplete_iff, mem_rests_advanceAll]
    simp
  rw [accepts]
  split
  · rename_i h
    simp [h]
  · rename_i h
    rw [hall]
    exact ⟨.inr, fun ht => ht.resolve_left fun hp => h hp⟩

end CommentBlocks.Glob
