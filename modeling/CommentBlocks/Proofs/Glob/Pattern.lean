import CommentBlocks.Proofs.Glob.Fits
import CommentBlocks.Proofs.Glob.Takes
import Mathlib.Data.List.Forall2

namespace CommentBlocks

open Bytes

def separated {α : Type} (sep : α) (w : List α) (ws : List (List α)) : List α :=
  w ++ ws.flatMap (sep :: ·)

theorem separated_nil {α : Type} (sep : α) (w : List α) : separated sep w [] = w := List.append_nil w

theorem separated_cons {α : Type} (sep : α) (w v : List α) (ws : List (List α)) :
    separated sep w (v :: ws) = w ++ sep :: separated sep v ws := by
  simp [separated]

theorem intercalate_eq_separated {α : Type} (sep : α) (w : List α) (ws : List (List α)) :
    [sep].intercalate (w :: ws) = separated sep w ws := by
  induction ws generalizing w with
  | nil => simp [separated]
  | cons v ws ih => simp [List.intercalate_cons_cons, ih, separated_cons]

theorem append_cons_inj {α : Type} {sep : α} {x y a b : List α} (hx : sep ∉ x) (hy : sep ∉ y) :
    x ++ sep :: a = y ++ sep :: b ↔ x = y ∧ a = b := by
  constructor
  · intro h
    rcases List.append_eq_append_iff.mp h with ⟨z, rfl, hz⟩ | ⟨z, rfl, hz⟩
    · cases z with
      | nil => simpa using hz
      | cons c z => exact absurd (by simp [(List.cons.inj hz).1]) hy
    · cases z with
      | nil => simpa using hz.symm
      | cons c z => exact absurd (by simp [(List.cons.inj hz).1]) hx
  · rintro ⟨rfl, rfl⟩
    rfl

theorem append_last_inj {α : Type} {sep : α} {front u n v : List α}
    (hf : front = [] ∨ ∃ w, front = w ++ [sep]) (hu : u = [] ∨ ∃ w, u = w ++ [sep])
    (hn : sep ∉ n) (hv : sep ∉ v) (h : front ++ n = u ++ v) : front = u ∧ n = v := by
  rcases List.append_eq_append_iff.mp h with ⟨z, rfl, rfl⟩ | ⟨z, rfl, rfl⟩
  · rcases List.eq_nil_or_concat z with rfl | ⟨y, c, rfl⟩
    · simp
    · rcases hu with hu | ⟨w, hw⟩
      · simp at hu
      · rw [List.concat_eq_append, ← List.append_assoc] at hw
        obtain ⟨-, rfl⟩ := List.append_singleton_inj.mp hw
        exact absurd (by simp) hn
  · rcases List.eq_nil_or_concat z with rfl | ⟨y, c, rfl⟩
    · simp
    · rcases hf with hf | ⟨w, hw⟩
      · simp at hf
      · rw [List.concat_eq_append, ← List.append_assoc] at hw
        obtain ⟨-, rfl⟩ := List.append_singleton_inj.mp hw
        exact absurd (by simp) hv

theorem intercalate_concat {α : Type} (sep : α) (ws : List (List α)) (w : List α) :
    [sep].intercalate (ws ++ [w]) = ws.flatMap (· ++ [sep]) ++ w := by
  induction ws with
  | nil => simp
  | cons v ws ih =>
    cases ws with
    | nil => simp [List.intercalate_cons_cons]
    | cons u ws =>
      rw [List.cons_append, List.cons_append, List.intercalate_cons_cons, ← List.cons_append, ih]
      simp

theorem flatMap_concat_eq_nil_or {α : Type} (sep : α) (ws : List (List α)) :
    ws.flatMap (· ++ [sep]) = [] ∨ ∃ v, ws.flatMap (· ++ [sep]) = v ++ [sep] := by
  rcases List.eq_nil_or_concat ws with rfl | ⟨front, w, rfl⟩
  · exact .inl rfl
  · exact .inr ⟨front.flatMap (· ++ [sep]) ++ w, by simp⟩

namespace Glob

/-- Characters that a glob takes for more than themselves, the wildcards of names apart. A comma and
a closing bracket mean something only behind an opening one. -/
def reserved : List Char := ['[', '\x7b', '\x7d', '\\', '/']

/-- A pattern for one name, in which only stars and question marks stand for something else. -/
structure IsPattern (p : String) : Prop where
  ne_empty : p ≠ ""
  ne_here : p ≠ "."
  ne_up : p ≠ ".."
  ne_deep : p ≠ "**"
  plain : ∀ c ∈ p.toList, c ∉ reserved

theorem isPattern_iff {p : String} : IsPattern p ↔
    p ≠ "" ∧ p ≠ "." ∧ p ≠ ".." ∧ p ≠ "**" ∧ p.toList.all (· ∉ reserved) := by
  rw [List.all_eq_true]
  simp only [decide_eq_true_eq]
  exact ⟨fun ⟨a, b, c, d, e⟩ => ⟨a, b, c, d, e⟩, fun ⟨a, b, c, d, e⟩ => ⟨a, b, c, d, e⟩⟩

instance (p : String) : Decidable (IsPattern p) := decidable_of_iff _ isPattern_iff.symm

theorem IsPattern.slashless {p : String} (h : IsPattern p) : '/' ∉ p.toList :=
  fun hs => h.plain '/' hs (by decide)

def partOf (c : Char) : Part :=
  if c = '*' then .star else if c = '?' then .any else .literal c

def partsOf (p : List Char) (ps : List (List Char)) : List Part :=
  separated (.literal '/') (p.map partOf) (ps.map (·.map partOf))

theorem partsOf_cons (p q : List Char) (ps : List (List Char)) :
    partsOf p (q :: ps) = p.map partOf ++ .literal '/' :: partsOf q ps := by
  rw [partsOf, List.map_cons, separated_cons, partsOf]

def Draft.pushAll (d : Draft) (ps : List Part) : Draft := { d with branch := ps.reverse ++ d.branch }

variable {d : Draft} {last : Option Char} {c : Char} {p s : List Char}

theorem Draft.pushAll_cons (q : Part) (ps : List Part) :
    d.pushAll (q :: ps) = (d.push q).pushAll ps := by
  simp [pushAll, push]

theorem Draft.pushAll_append (ps qs : List Part) :
    d.pushAll (ps ++ qs) = (d.pushAll ps).pushAll qs := by
  simp [pushAll]

def Inside (last : Option Char) (d : Draft) : Prop := d.branch ≠ [] ∧ last ≠ some '/'

theorem deepStar_inside (hg : d.groups = []) (hi : Inside last d) (s : List Char) :
    deepStar last d s = (d.twoStars, '*', s) := by
  simp [deepStar, hi.1, hi.2, hg]

theorem deepStar_cons (hg : d.groups = []) (hc : c ≠ '/') (s : List Char) :
    deepStar last d (c :: s) = (d.twoStars, '*', c :: s) := by
  simp [deepStar, hg, hc]

theorem readParts_twoStars (hd : deepStar last d s = (d.twoStars, '*', s)) :
    readParts last d ('*' :: '*' :: s) = readParts (some '*') d.twoStars s := by
  rw [readParts, hd]

theorem readParts_cons (hc : c ∉ reserved) (hg : d.groups = [])
    (hs : c = '*' → ∀ t, s ≠ '*' :: t) :
    readParts last d (c :: s) = readParts (some c) (d.push (partOf c)) s := by
  by_cases hstar : c = '*'
  · subst hstar
    rw [readParts]
    · rfl
    · exact hs rfl
  · by_cases hany : c = '?'
    · subst hany
      rw [readParts]
      rfl
    · have hpart : partOf c = .literal c := by simp [partOf, hstar, hany]
      have hcomma : d.comma = d.push (.literal ',') := by rw [Draft.comma, hg]
      rw [readParts] <;> simp_all [reserved]

theorem readParts_slash : readParts last d ('/' :: s) =
    readParts (some '/') (d.push (.literal '/')) s := by
  rw [readParts] <;> simp

theorem ne_slash_of_notMem_reserved (h : c ∉ reserved) : c ≠ '/' := by
  rintro rfl
  exact h (by decide)

theorem inside_push (h : c ∉ reserved) (q : Part) : Inside (some c) (d.push q) :=
  ⟨List.cons_ne_nil _ _, fun hc => ne_slash_of_notMem_reserved h (Option.some.inj hc)⟩

/-- A pattern for a name is read character by character. Two stars are no exception, unless they are
the whole of it and stand where a name begins. -/
theorem readParts_append {last : Option Char} {d : Draft} {p rest : List Char}
    (hp : ∀ c ∈ p, c ∉ reserved) (hg : d.groups = []) (hr : ∀ t, rest ≠ '*' :: t)
    (hs : p = ['*', '*'] → Inside last d) :
    readParts last d (p ++ rest) =
      readParts (p.getLast?.or last) (d.pushAll (p.map partOf)) rest := by
  match p with
  | [] => rfl
  | c :: p =>
    obtain ⟨hc, htail⟩ := List.forall_mem_cons.mp hp
    by_cases htwo : c = '*' ∧ ∃ q, p = '*' :: q
    · obtain ⟨rfl, q, rfl⟩ := htwo
      have hq : ∀ c ∈ q, c ∉ reserved := (List.forall_mem_cons.mp htail).2
      have hdeep : deepStar last d (q ++ rest) = (d.twoStars, '*', q ++ rest) := by
        cases q with
        | nil => exact deepStar_inside hg (hs rfl) rest
        | cons c q => exact deepStar_cons hg (ne_slash_of_notMem_reserved (hq c (by simp))) _
      rw [List.cons_append, List.cons_append, readParts_twoStars hdeep,
        readParts_append (d := d.twoStars) hq hg hr fun _ => inside_push hc _]
      simp [List.getLast?_cons, Draft.pushAll_cons, Draft.twoStars, partOf]
    · have hone : c = '*' → ∀ t, p ++ rest ≠ '*' :: t := by
        rintro rfl t ht
        cases p with
        | nil => exact hr t ht
        | cons b q =>
          obtain rfl : b = '*' := (List.cons.inj ht).1
          exact htwo ⟨rfl, q, rfl⟩
      rw [List.cons_append, readParts_cons hc hg hone,
        readParts_append (d := d.push (partOf c)) htail hg hr fun _ => inside_push hc _]
      simp [List.getLast?_cons, Draft.pushAll_cons]
termination_by p.length

theorem readParts_separated (hp : ∀ c ∈ p, c ∉ reserved) (hd : p ≠ ['*', '*'])
    {ps : List (List Char)} (hps : ∀ q ∈ ps, q ≠ ['*', '*'] ∧ ∀ c ∈ q, c ∉ reserved)
    (hg : d.groups = []) :
    readParts last d (separated '/' p ps) = .ok (d.pushAll (partsOf p ps)) := by
  induction ps generalizing p last d with
  | nil =>
    have hread : readParts last d (p ++ []) =
        readParts (p.getLast?.or last) (d.pushAll (p.map partOf)) [] :=
      readParts_append hp hg (by simp) (absurd · hd)
    rw [List.append_nil] at hread
    rw [separated_nil, hread, readParts, partsOf, List.map_nil, separated_nil]
  | cons q ps ih =>
    obtain ⟨⟨hqd, hq⟩, hps⟩ := List.forall_mem_cons.mp hps
    rw [separated_cons, readParts_append hp hg (by simp) (absurd · hd), readParts_slash,
      ih (d := (d.pushAll (p.map partOf)).push _) hq hqd hps hg, partsOf_cons,
      Draft.pushAll_append, Draft.pushAll_cons]

theorem readParts_leading (s : List Char) :
    readParts none ⟨[], []⟩ ('*' :: '*' :: '/' :: s) = readParts (some '/') ⟨[.leading], []⟩ s := by
  rw [readParts]
  rfl

theorem readParts_class {d : Draft} {s rest : List Char} {part : Part}
    (h : charClass s = .ok (part, rest)) :
    readParts last d ('[' :: s) = readParts (some ']') (d.push part) rest := by
  rw [readParts]
  split <;> simp_all

theorem parse_separated (hp : ∀ c ∈ p, c ∉ reserved) (hd : p ≠ ['*', '*']) {ps : List (List Char)}
    (hps : ∀ q ∈ ps, q ≠ ['*', '*'] ∧ ∀ c ∈ q, c ∉ reserved) :
    Glob.parse (String.ofList (separated '/' p ps)) = .ok ⟨partsOf p ps⟩ := by
  simp [parse, readParts_separated hp hd hps, Draft.pushAll]

theorem parse_leading (hp : ∀ c ∈ p, c ∉ reserved) (hd : p ≠ ['*', '*']) :
    Glob.parse (String.ofList ('*' :: '*' :: '/' :: p)) = .ok ⟨.leading :: p.map partOf⟩ := by
  have hread : readParts (some '/') ⟨[.leading], []⟩ (separated '/' p []) =
      .ok (Draft.pushAll ⟨[.leading], []⟩ (partsOf p [])) :=
    readParts_separated hp hd (by simp) rfl
  rw [separated_nil, partsOf, List.map_nil, separated_nil] at hread
  simp [parse, readParts_leading, hread, Draft.pushAll]

variable {w u v n front : Bytes}

theorem takesAll_append {ps qs : List Part} :
    TakesAll (ps ++ qs) w ↔ ∃ u v, w = u ++ v ∧ TakesAll ps u ∧ TakesAll qs v := by
  induction ps generalizing w with
  | nil => simp [TakesAll]
  | cons q ps ih =>
    simp only [List.cons_append, TakesAll, ih]
    constructor
    · rintro ⟨a, _, rfl, ha, b, c, rfl, hb, hc⟩
      exact ⟨a ++ b, c, by rw [List.append_assoc], ⟨a, b, rfl, ha, hb⟩, hc⟩
    · rintro ⟨_, c, rfl, ⟨a, b, rfl, ha, hb⟩, hc⟩
      exact ⟨a, b ++ c, by rw [List.append_assoc], ha, b, c, rfl, hb, hc⟩

theorem notMem_of_takes_partOf (hc : c ≠ '/') (h : (partOf c).Takes w) : slash ∉ w := by
  rw [partOf] at h
  split at h
  · simpa [Part.Takes] using h
  · split at h
    · obtain ⟨b, hb, rfl⟩ := by simpa [Part.Takes] using h
      simpa using Ne.symm hb
    · rw [Part.Takes, ofChars_singleton] at h
      exact h ▸ slash_notMem_utf8EncodeChar hc

theorem takesAll_map_partOf (hp : '/' ∉ p) :
    TakesAll (p.map partOf) w ↔ slash ∉ w ∧ Fits String.utf8EncodeChar p w := by
  constructor
  · intro h
    induction p generalizing w with
    | nil =>
      obtain rfl : w = [] := by simpa [TakesAll] using h
      exact ⟨List.not_mem_nil, .nil⟩
    | cons c p ih =>
      rw [List.mem_cons, not_or] at hp
      obtain ⟨u, v, rfl, hu, hv⟩ := by simpa only [List.map_cons, TakesAll] using h
      obtain ⟨hs, hf⟩ := ih hp.2 hv
      refine ⟨by simp [notMem_of_takes_partOf (Ne.symm hp.1) hu, hs], ?_⟩
      rw [partOf] at hu
      split at hu
      · rename_i hc
        exact hc ▸ .star u hf
      · split at hu
        · rename_i hc
          obtain ⟨b, -, rfl⟩ := by simpa [Part.Takes] using hu
          exact hc ▸ .one b hf
        · rw [Part.Takes, ofChars_singleton] at hu
          exact hu ▸ .same c hf
  · rintro ⟨hs, h⟩
    induction h with
    | nil => rfl
    | @star p w v _ ih =>
      rw [List.mem_append, not_or] at hs
      rw [List.mem_cons, not_or] at hp
      exact ⟨v, w, rfl, hs.1, ih hp.2 hs.2⟩
    | @one p w b _ ih =>
      rw [List.mem_cons, not_or] at hs hp
      exact ⟨[b], w, rfl, ⟨b, Ne.symm hs.1, rfl⟩, ih hp.2 hs.2⟩
    | @same p w c _ ih =>
      rw [List.mem_append, not_or] at hs
      rw [List.mem_cons, not_or] at hp
      refine ⟨_, w, rfl, ?_, ih hp.2 hs.2⟩
      rw [partOf]
      split
      · exact hs.1
      · split
        · rename_i hc
          exact hc ▸ ⟨_, by decide, rfl⟩
        · exact (ofChars_singleton c).symm

theorem takesAll_partsOf {ps : List (List Char)} {ns : List Bytes} (hp : '/' ∉ p)
    (hps : ∀ q ∈ ps, '/' ∉ q) (hn : slash ∉ n) (hns : ∀ m ∈ ns, slash ∉ m) :
    TakesAll (partsOf p ps) (separated slash n ns) ↔
      List.Forall₂ (Fits String.utf8EncodeChar) (p :: ps) (n :: ns) := by
  induction ps generalizing p n ns with
  | nil =>
    rw [partsOf, List.map_nil, separated_nil, takesAll_map_partOf hp, List.forall₂_cons,
      List.forall₂_nil_left_iff]
    cases ns with
    | nil => simp [separated_nil, hn]
    | cons m ns => simp [separated_cons]
  | cons q ps ih =>
    obtain ⟨hq, hps⟩ := List.forall_mem_cons.mp hps
    have hslash : ofChars ['/'] = [slash] := rfl
    have hsplit : TakesAll (partsOf p (q :: ps)) (separated slash n ns) ↔
        ∃ u v, separated slash n ns = u ++ slash :: v ∧
          (slash ∉ u ∧ Fits String.utf8EncodeChar p u) ∧ TakesAll (partsOf q ps) v := by
      rw [partsOf_cons, takesAll_append]
      simp only [TakesAll, Part.Takes, takesAll_map_partOf hp, hslash]
      constructor
      · rintro ⟨u, _, he, hu, _, v, rfl, rfl, hv⟩
        exact ⟨u, v, he, hu, hv⟩
      · rintro ⟨u, v, he, hu, hv⟩
        exact ⟨u, _, he, hu, [slash], v, rfl, rfl, hv⟩
    rw [hsplit, List.forall₂_cons]
    cases ns with
    | nil =>
      rw [separated_nil]
      constructor
      · rintro ⟨u, v, rfl, -, -⟩
        exact absurd (by simp) hn
      · rintro ⟨-, h⟩
        cases h
    | cons m ns =>
      obtain ⟨hm, hns⟩ := List.forall_mem_cons.mp hns
      rw [separated_cons, ← ih hq hps hm hns]
      constructor
      · rintro ⟨u, v, he, ⟨hu, hf⟩, hv⟩
        obtain ⟨rfl, rfl⟩ := (append_cons_inj hn hu).mp he
        exact ⟨hf, hv⟩
      · rintro ⟨hf, hv⟩
        exact ⟨n, _, rfl, ⟨hn, hf⟩, hv⟩

theorem takesAll_leading (hp : '/' ∉ p) (hf : front = [] ∨ ∃ v, front = v ++ [slash])
    (hn : slash ∉ n) : TakesAll (.leading :: p.map partOf) (front ++ n) ↔
      Fits String.utf8EncodeChar p n := by
  simp only [TakesAll, Part.Takes, takesAll_map_partOf hp]
  constructor
  · rintro ⟨u, v, he, hu, hv, hfit⟩
    obtain ⟨-, rfl⟩ := append_last_inj hf hu hn hv he
    exact hfit
  · exact fun hfit => ⟨front, n, rfl, hf, hn, hfit⟩

end Glob

end CommentBlocks
