import CommentBlocks.Json.Form
import CommentBlocks.Proofs.Json.Spaced

namespace CommentBlocks.Json

variable {σ α : Type} {f : Form σ α} {first : Bool} {s : List Char}

def objectOf (ms : List Lexemes) : Lexemes := ['\x7b'] :: row true ms ++ [['\x7d']]

def memberOf (name : String) (ls : Lexemes) : Lexemes := writeText name :: [':'] :: ls

theorem flatten_objectOf (ms : List (String × Lexemes)) :
    (objectOf (ms.map fun m => memberOf m.1 m.2)).flatten =
      writeObject (ms.map fun m => (m.1, m.2.flatten)) := by
  have hm : (ms.map fun m => memberOf m.1 m.2).map List.flatten =
      (ms.map fun m => (m.1, m.2.flatten)).map fun m => writeText m.1 ++ ':' :: m.2 := by
    rw [List.map_map, List.map_map]
    exact List.map_congr_left fun m _ => by simp [memberOf]
  calc (objectOf (ms.map fun m => memberOf m.1 m.2)).flatten
    _ = '\x7b' :: separated ((ms.map fun m => memberOf m.1 m.2).map List.flatten) ++ ['\x7d'] := by
        simp [objectOf, flatten_row]
    _ = writeObject (ms.map fun m => (m.1, m.2.flatten)) := by
        rw [hm]
        rfl

theorem nextKey_row {k : List Char} {ls after : Lexemes} {ms : List Lexemes}
    (h : Spaced (row first ((('"' :: k) :: ls) :: ms) ++ after) s) (rest : List Char) :
    ∃ t, nextKey first (s ++ rest) = .ok (some (k ++ (t ++ rest))) ∧
      Spaced (ls ++ (row false ms ++ after)) t := by
  obtain ⟨rfl, hs⟩ | ⟨rfl, t, hs, ht⟩ := h.row_cons
  · obtain ⟨u, hu, he⟩ := hs.skipBlanks_eq (c := '"') (by decide) rest
    refine ⟨u, ?_, hu⟩
    simp [nextKey, he]
  · obtain ⟨u, hu, he⟩ := hs.skipBlanks_eq (c := '"') (by decide) rest
    refine ⟨u, ?_, hu⟩
    simp [nextKey, ht, he]

theorem nextKey_end (first : Bool) (h : Spaced [['\x7d']] s) (rest : List Char) :
    nextKey first (s ++ rest) = .ok none ∧ endObject (s ++ rest) = .ok rest := by
  obtain ⟨t, ht, he⟩ := h.skipBlanks_eq (by decide) rest
  cases ht
  simp [nextKey, endObject, he]

namespace Form

inductive Gathers (f : Form σ α) : σ → List Lexemes → σ → Prop
  | nil (d : σ) : f.Gathers d [] d
  | cons {d d' d'' : σ} {k key : List Char} {ls : Lexemes} {ms : List Lexemes}
      (hk : ∀ rest, chars (k ++ rest) = .ok (key, rest)) (hm : Reads (f.member key d) ls d')
      (ht : f.Gathers d' ms d'') : f.Gathers d ((('"' :: k) :: ls) :: ms) d''

theorem reads_member {slot : Slot σ} {key : List Char} {d d' : σ} {ls : Lexemes}
    (hs : f.slots.find? (·.name.toList == key) = some slot) (hf : slot.isFilled d = false)
    (hr : Reads (slot.fill d) ls d') : Reads (f.member key d) ([':'] :: ls) d' where
  opens := ⟨':', [], ls, rfl, by decide, by decide⟩
  read s h rest hrest := by
    obtain ⟨t, ht, he⟩ := h.skipBlanks_eq (by decide) rest
    have hc : colon (s ++ rest) = .ok (t ++ rest) := by simp [colon, he]
    simp [member, hs, hf, hc, hr.read t ht rest hrest]

theorem Gathers.opens {d d' : σ} {ms : List Lexemes} (h : f.Gathers d ms d') :
    ∀ m ∈ ms, Opens m := by
  induction h with
  | nil d => exact List.forall_mem_nil _
  | cons _ _ _ ih => exact List.forall_mem_cons.mpr ⟨⟨'"', _, _, rfl, by decide, by decide⟩, ih⟩

theorem members_append {d d' : σ} {ms after : List Lexemes} (h : f.Gathers d ms d')
    (hs : Spaced (row first (ms ++ after) ++ [['\x7d']]) s) (fuel : Nat) (rest : List Char) :
    ∃ first' t, f.members (ms.length + fuel) first d (s ++ rest) =
        f.members fuel first' d' (t ++ rest) ∧
      Spaced (row first' after ++ [['\x7d']]) t := by
  induction h generalizing first s with
  | nil d =>
    refine ⟨first, s, ?_, hs⟩
    rw [List.length_nil, Nat.zero_add]
  | @cons d d₁ d₂ k key ls ms hk hm _ ih =>
    obtain ⟨t, hn, ht⟩ := nextKey_row hs rest
    obtain ⟨u, v, rfl, hu, hv⟩ := ht.exists_append
    have hr := hm.read u hu (v ++ rest) (ends_row (by decide) hv rest)
    obtain ⟨first', w, hw, he⟩ := ih hv
    refine ⟨first', w, ?_, he⟩
    rw [List.append_assoc] at hn
    rw [List.length_cons, Nat.add_right_comm]
    simp only [members, hn, hk, hr, hw]

theorem members_row {d d' : σ} {ms : List Lexemes} {fuel : Nat} (h : f.Gathers d ms d')
    (hs : Spaced (row first ms ++ [['\x7d']]) s) (hf : ms.length < fuel) (rest : List Char) :
    ∃ t, f.members fuel first d (s ++ rest) = .ok (d', t ++ rest) ∧ Spaced [['\x7d']] t := by
  obtain ⟨n, rfl⟩ := Nat.exists_eq_add_of_lt hf
  rw [← List.append_nil ms] at hs
  obtain ⟨first', t, hm, ht⟩ := members_append h hs (n + 1) rest
  refine ⟨t, ?_, ht⟩
  rw [Nat.add_assoc, hm, members, (nextKey_end first' ht rest).1]

theorem read_object {d : σ} {ms : List Lexemes} (h : f.Gathers f.blank ms d)
    (hs : Spaced (objectOf ms) s) (rest : List Char) :
    f.read (s ++ rest) =
      match f.finish d with
      | none => .error .mistyped
      | some a => .ok (a, rest) := by
  obtain ⟨t, ht, he⟩ := hs.skipBlanks_eq (c := '\x7b') (by decide) rest
  have hl := length_le_of_row h.opens ht
  have hf : ms.length < (t ++ rest).length + 1 := by
    rw [List.length_append]
    omega
  obtain ⟨u, hm, hu⟩ := members_row h ht hf rest
  have hend := (nextKey_end true hu rest).2
  cases hd : f.finish d <;> simp only [read, he, List.nil_append, hm, close, hd, hend, Except.map]

theorem reads_object {d : σ} {ms : List Lexemes} {a : α} (h : f.Gathers f.blank ms d)
    (ha : f.finish d = some a) : Reads f.read (objectOf ms) a where
  opens := ⟨'\x7b', [], _, rfl, by decide, by decide⟩
  read s hs rest _ := by rw [read_object h hs rest, ha]

/-- Fields in their order bring one draft to another. The last slots may be left over. -/
inductive Fills : List (Slot σ) → σ → List Lexemes → σ → Prop
  | stop (slots : List (Slot σ)) (d : σ) : Fills slots d [] d
  | cons {slot : Slot σ} {slots : List (Slot σ)} {d d' d'' : σ} {p : Lexemes} {ps : List Lexemes}
      (hr : Reads (slot.fill d) p d') (ht : Fills slots d' ps d'') :
      Fills (slot :: slots) d (p :: ps) d''

theorem fields_row {slots : List (Slot σ)} {d d' : σ} {ps : List Lexemes} (h : Fills slots d ps d')
    (hs : Spaced (row first ps ++ [[']']]) s) (rest : List Char) :
    ∃ t, fields slots first d (s ++ rest) = .ok (d', t ++ rest) ∧ Spaced [[']']] t := by
  induction h generalizing first s with
  | stop slots d =>
    refine ⟨s, ?_, hs⟩
    cases slots with
    | nil => rfl
    | cons slot slots => simp only [fields, (nextElement_end first hs rest).1]
  | cons hr _ ih =>
    obtain ⟨c, l, ls, rfl, hb, hc⟩ := hr.opens
    obtain ⟨t, hn, ht⟩ := nextElement_row hs hb hc rest
    obtain ⟨u, v, rfl, hu, hv⟩ := ht.exists_append
    have hf := hr.read u hu (v ++ rest) (ends_row (by decide) hv rest)
    obtain ⟨w, hw, he⟩ := ih hv
    refine ⟨w, ?_, he⟩
    rw [List.append_assoc] at hn
    simp only [fields, hn, hf, hw]

theorem reads_fields {d : σ} {ps : List Lexemes} {a : α} (h : Fills f.slots f.blank ps d)
    (ha : f.finish d = some a) : Reads f.read (listOf ps) a where
  opens := ⟨'[', [], _, rfl, by decide, by decide⟩
  read s hs rest _ := by
    obtain ⟨t, ht, he⟩ := hs.skipBlanks_eq (c := '[') (by decide) rest
    obtain ⟨u, hf, hu⟩ := fields_row h ht rest
    simp only [read, he, List.nil_append, hf, close, ha, (nextElement_end true hu rest).2,
      Except.map]

theorem parse_of_reads {ls : Lexemes} {a : α} (h : Reads f.read ls a) (hs : Spaced ls s) :
    f.parse (String.ofList s) = .ok a := by
  have hr := h.read s hs [] ends_nil
  rw [List.append_nil] at hr
  simp only [parse, String.toList_ofList, hr]
  rfl

end Form

structure Entry (σ : Type) where
  slot : Slot σ
  lexemes : Lexemes
  update : σ → σ

namespace Entry

def zip : List (Slot σ) → List Lexemes → List (σ → σ) → List (Entry σ)
  | slot :: slots, ls :: lss, u :: us => ⟨slot, ls, u⟩ :: zip slots lss us
  | _, _, _ => []

def Taken (e : Entry σ) : Prop := ∀ d, Reads (e.slot.fill d) e.lexemes (e.update d)

def member (e : Entry σ) : Lexemes := memberOf e.slot.name e.lexemes

def updateAll (es : List (Entry σ)) (d : σ) : σ := es.foldl (fun d e => e.update d) d

end Entry

namespace Form

/-- The entries are for slots of the form that the draft has not filled, and that no other of them
fills. -/
structure Admits (f : Form σ α) (d : σ) (es : List (Entry σ)) : Prop where
  taken : ∀ e ∈ es, e.Taken
  found : ∀ e ∈ es, f.slots.find? (·.name.toList == e.slot.name.toList) = some e.slot
  apart : es.Pairwise fun e e' => ∀ d, e'.slot.isFilled (e.update d) = e'.slot.isFilled d
  free : ∀ e ∈ es, e.slot.isFilled d = false

section Admits

variable {d : σ} {e : Entry σ} {es es' : List (Entry σ)}

theorem Admits.sublist (h : f.Admits d es) (hs : es'.Sublist es) : f.Admits d es' where
  taken e he := h.taken e (hs.mem he)
  found e he := h.found e (hs.mem he)
  apart := h.apart.sublist hs
  free e he := h.free e (hs.mem he)

theorem Admits.tail (h : f.Admits d (e :: es)) : f.Admits (e.update d) es where
  taken e' he := h.taken e' (List.mem_cons_of_mem _ he)
  found e' he := h.found e' (List.mem_cons_of_mem _ he)
  apart := (List.pairwise_cons.mp h.apart).2
  free e' he := by
    rw [(List.pairwise_cons.mp h.apart).1 e' he d]
    exact h.free e' (List.mem_cons_of_mem _ he)

theorem chars_name (name : String) (rest : List Char) :
    chars (name.toList.flatMap writeChar ++ ['"'] ++ rest) = .ok (name.toList, rest) := by
  rw [List.append_assoc]
  exact chars_flatMap_writeChar name.toList rest

theorem Admits.gathers (h : f.Admits d es) :
    f.Gathers d (es.map Entry.member) (Entry.updateAll es d) := by
  induction es generalizing d with
  | nil => exact .nil d
  | cons e es ih =>
    have hm := reads_member (h.found e List.mem_cons_self) (h.free e List.mem_cons_self)
      (h.taken e List.mem_cons_self d)
    exact .cons (chars_name e.slot.name) hm (ih h.tail)

theorem fills_entries (ht : ∀ e ∈ es, e.Taken) (d : σ) :
    Fills (es.map (·.slot)) d (es.map (·.lexemes)) (Entry.updateAll es d) := by
  induction es generalizing d with
  | nil => exact .stop [] d
  | cons e es ih =>
    obtain ⟨hte, ht⟩ := List.forall_mem_cons.mp ht
    exact .cons (hte d) (ih ht _)

theorem parse_writeObject {a : α} (h : f.Admits f.blank es)
    (ha : f.finish (Entry.updateAll es f.blank) = some a) :
    f.parse (String.ofList (writeObject (es.map fun e => (e.slot.name, e.lexemes.flatten)))) =
      .ok a := by
  have hw := spaced_flatten (objectOf (es.map Entry.member))
  have hm : es.map Entry.member =
      (es.map fun e => (e.slot.name, e.lexemes)).map fun m => memberOf m.1 m.2 := by
    rw [List.map_map]
    rfl
  have hp := parse_of_reads (reads_object h.gathers ha) hw
  rw [hm, flatten_objectOf, List.map_map] at hp
  exact hp

theorem parse_listOf {a : α} (ht : ∀ e ∈ es, e.Taken)
    (hs : es.map (·.slot) = f.slots) (ha : f.finish (Entry.updateAll es f.blank) = some a)
    {s : List Char} (hl : Spaced (listOf (es.map (·.lexemes))) s) :
    f.parse (String.ofList s) = .ok a := by
  have hf := fills_entries ht f.blank
  rw [hs] at hf
  exact parse_of_reads (reads_fields hf ha) hl

end Admits

section Keeps

variable {P : σ → Prop} {d d' : σ} {rest : List Char}
  (hs : ∀ slot ∈ f.slots, ∀ d s d' rest, slot.fill d s = .ok (d', rest) → P d → P d')

include hs

theorem member_keeps {key : List Char} (h : f.member key d s = .ok (d', rest)) (hd : P d) :
    P d' := by
  unfold member at h
  split at h
  · next slot hslot =>
    split at h
    · cases h
    · split at h
      · cases h
      · exact hs slot (List.mem_of_find?_eq_some hslot) _ _ _ _ h hd
  · cases hv : (colon s).bind skip with
    | error e => simp [hv, Except.map] at h
    | ok after =>
      rw [hv] at h
      obtain ⟨rfl, -⟩ := Prod.mk.inj (Except.ok.inj h)
      exact hd

theorem members_keeps {fuel : Nat} (h : f.members fuel first d s = .ok (d', rest)) (hd : P d) :
    P d' := by
  induction fuel generalizing first d s with
  | zero => cases h
  | succ fuel ih =>
    unfold members at h
    split at h
    · cases h
    · obtain ⟨rfl, -⟩ := Prod.mk.inj (Except.ok.inj h)
      exact hd
    · split at h
      · cases h
      · split at h
        · cases h
        · next hm => exact ih h (member_keeps hs hm hd)

omit hs in
theorem fields_keeps {slots : List (Slot σ)}
    (hs : ∀ slot ∈ slots, ∀ d s d' rest, slot.fill d s = .ok (d', rest) → P d → P d')
    (h : fields slots first d s = .ok (d', rest)) (hd : P d) : P d' := by
  induction slots generalizing first d s with
  | nil =>
    obtain ⟨rfl, -⟩ := Prod.mk.inj (Except.ok.inj h)
    exact hd
  | cons slot slots ih =>
    obtain ⟨hslot, hrest⟩ := List.forall_mem_cons.mp hs
    unfold fields at h
    split at h
    · cases h
    · obtain ⟨rfl, -⟩ := Prod.mk.inj (Except.ok.inj h)
      exact hd
    · split at h
      · cases h
      · next hf => exact ih hrest h (hslot _ _ _ _ hf hd)

omit hs in
theorem exists_draft_of_close {stop : List Char → Except Fault (List Char)} {r : Reading σ} {a : α}
    (h : f.close stop r = .ok (a, rest)) : ∃ d s, r = .ok (d, s) ∧ f.finish d = some a := by
  unfold close at h
  split at h
  · cases h
  · next d s =>
    split at h
    · cases h
    · next b hb =>
      cases ht : stop s with
      | error e => simp [ht, Except.map] at h
      | ok after =>
        rw [ht] at h
        obtain ⟨rfl, -⟩ := Prod.mk.inj (Except.ok.inj h)
        exact ⟨d, s, rfl, hb⟩

/-- What is parsed was finished from a draft of which everything is true that the blank draft has
and every field keeps. -/
theorem exists_draft (hb : P f.blank) {t : String} {a : α} (h : f.parse t = .ok a) :
    ∃ d, P d ∧ f.finish d = some a := by
  unfold parse at h
  split at h
  · cases h
  · next a' rest hr =>
    split at h
    · obtain rfl := Except.ok.inj h
      unfold read at hr
      split at hr
      · obtain ⟨d, _, hm, hd⟩ := exists_draft_of_close hr
        exact ⟨d, members_keeps hs hm hb, hd⟩
      · obtain ⟨d, _, hf, hd⟩ := exists_draft_of_close hr
        exact ⟨d, fields_keeps hs hf hb, hd⟩
      · cases hr
    · cases h

end Keeps

end Form

end CommentBlocks.Json
