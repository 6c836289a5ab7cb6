import CommentBlocks.Disk.Path

namespace CommentBlocks

open CommentBlocks.Path

/-- A tree of files, directories and links. Names are texts: one that is not Unicode is not on any
disk here, and so what a listing does with the extension or the spelling of such a name is left
out. -/
inductive Node
  | file (data : Bytes)
  | directory (entries : List (String × Node))
  | link (target : String)

abbrev Location := List String

namespace Node

def child? (name : String) (entries : List (String × Node)) : Option Node :=
  (entries.find? (·.1 == name)).map (·.2)

def get? : Node → Location → Option Node
  | n, [] => some n
  | directory entries, name :: rest => (child? name entries).bind (get? · rest)
  | _, _ :: _ => none

def putEntry (name : String) (new : Node) : List (String × Node) → List (String × Node)
  | [] => [(name, new)]
  | (s, n) :: rest => if s = name then (s, new) :: rest else (s, n) :: putEntry name new rest

/-- Puts a node at a location in a directory that is there. -/
def put (new : Node) : Node → Location → Node
  | _, [] => new
  | directory entries, name :: rest =>
    match child? name entries with
    | some n => directory (putEntry name (put new n rest) entries)
    | none => if rest.isEmpty then directory (putEntry name new entries) else directory entries
  | n, _ :: _ => n

mutual

def weight : Node → Nat
  | file _ => 1
  | link _ => 1
  | directory entries => 1 + entriesWeight entries

def entriesWeight : List (String × Node) → Nat
  | [] => 0
  | (_, n) :: rest => 1 + weight n + entriesWeight rest

end

mutual

def directories : Node → List Location
  | directory entries => [] :: entriesDirectories entries
  | file _ => []
  | link _ => []

def entriesDirectories : List (String × Node) → List Location
  | [] => []
  | (name, n) :: rest => (directories n).map (name :: ·) ++ entriesDirectories rest

end

def isBefore (a b : String × Node) : Bool := !decide (b.1 < a.1)

def inOrder (entries : List (String × Node)) : List (String × Node) := entries.mergeSort isBefore

theorem entriesWeight_eq_of_perm {a b : List (String × Node)} (h : a.Perm b) :
    entriesWeight a = entriesWeight b := by
  induction h with
  | nil => rfl
  | cons x _ ih => simp only [entriesWeight, ih]
  | swap x y _ =>
    simp only [entriesWeight]
    omega
  | trans _ _ ih₁ ih₂ => exact ih₁.trans ih₂

theorem entriesWeight_inOrder (entries : List (String × Node)) :
    entriesWeight (inOrder entries) = entriesWeight entries :=
  entriesWeight_eq_of_perm (List.mergeSort_perm entries isBefore)

theorem mem_of_child? {name : String} {entries : List (String × Node)} {n : Node}
    (h : child? name entries = some n) : (name, n) ∈ entries := by
  obtain ⟨⟨s, m⟩, hf, rfl⟩ := Option.map_eq_some_iff.mp h
  have hs : s = name := by simpa using List.find?_some hf
  exact hs ▸ List.mem_of_find?_eq_some hf

theorem cons_mem_entriesDirectories {name : String} {entries : List (String × Node)} {n : Node}
    {loc : Location} (hn : (name, n) ∈ entries) (hl : loc ∈ n.directories) :
    name :: loc ∈ entriesDirectories entries := by
  induction entries with
  | nil => simp at hn
  | cons e rest ih =>
    rw [entriesDirectories, List.mem_append]
    rcases List.mem_cons.mp hn with rfl | hr
    · exact .inl (List.mem_map_of_mem hl)
    · exact .inr (ih hr)

theorem mem_directories_of_get? {n : Node} {loc : Location} {entries : List (String × Node)}
    (h : n.get? loc = some (directory entries)) : loc ∈ n.directories := by
  induction loc generalizing n with
  | nil =>
    obtain rfl : n = directory entries := by simpa [get?] using h
    simp [directories]
  | cons name rest ih =>
    cases n with
    | file => simp [get?] at h
    | link => simp [get?] at h
    | directory es =>
      obtain ⟨m, hm, hr⟩ := Option.bind_eq_some_iff.mp (by simpa [get?] using h)
      rw [directories]
      exact List.mem_cons_of_mem _ (cons_mem_entriesDirectories (mem_of_child? hm) (ih hr))

def WellNamed (n : Node) : Prop :=
  ∀ loc entries, n.get? loc = some (.directory entries) →
    (entries.map Prod.fst).Nodup ∧ ∀ name ∈ entries.map Prod.fst, IsName name

theorem child?_eq_some_iff {entries : List (String × Node)} (h : (entries.map Prod.fst).Nodup)
    {name : String} {n : Node} : child? name entries = some n ↔ (name, n) ∈ entries := by
  refine ⟨mem_of_child?, fun hm => ?_⟩
  induction entries with
  | nil => cases hm
  | cons e rest ih =>
    rw [List.map_cons, List.nodup_cons] at h
    rcases List.mem_cons.mp hm with rfl | hm
    · simp [child?]
    · have hne : e.1 ≠ name := fun he => h.1 (he ▸ List.mem_map_of_mem hm)
      simpa [child?, hne] using ih h.2 hm

theorem wellNamed_file (data : Bytes) : (file data).WellNamed := by
  intro loc entries h
  cases loc <;> simp [get?] at h

theorem wellNamed_link (target : String) : (link target).WellNamed := by
  intro loc entries h
  cases loc <;> simp [get?] at h

theorem wellNamed_directory_iff {entries : List (String × Node)} :
    (directory entries).WellNamed ↔ (entries.map Prod.fst).Nodup ∧
      ∀ e ∈ entries, IsName e.1 ∧ e.2.WellNamed := by
  constructor
  · intro h
    obtain ⟨hd, hn⟩ := h [] entries rfl
    refine ⟨hd, fun e he => ⟨hn e.1 (List.mem_map_of_mem he), fun loc inner hg => ?_⟩⟩
    apply h (e.1 :: loc)
    simpa [get?, (child?_eq_some_iff hd).mpr he] using hg
  · rintro ⟨hd, he⟩ loc inner hg
    cases loc with
    | nil =>
      obtain rfl : entries = inner := by simpa [get?] using hg
      exact ⟨hd, by simpa using fun name n hm => (he (name, n) hm).1⟩
    | cons name loc =>
      obtain ⟨n, hc, hg⟩ := Option.bind_eq_some_iff.mp (by simpa [get?] using hg)
      exact (he _ (mem_of_child? hc)).2 loc inner hg

theorem map_fst_putEntry (name : String) (new : Node) (entries : List (String × Node)) :
    (putEntry name new entries).map Prod.fst =
      if name ∈ entries.map Prod.fst then entries.map Prod.fst
      else entries.map Prod.fst ++ [name] := by
  induction entries with
  | nil => rfl
  | cons e rest ih =>
    obtain ⟨s, n⟩ := e
    rw [putEntry]
    by_cases hs : s = name
    · simp [hs]
    · have hs' : name ≠ s := Ne.symm hs
      by_cases hm : name ∈ rest.map Prod.fst <;> simp_all

theorem mem_putEntry {name : String} {new : Node} {entries : List (String × Node)}
    {e : String × Node} (h : e ∈ putEntry name new entries) : e = (name, new) ∨ e ∈ entries := by
  induction entries with
  | nil => simpa [putEntry] using h
  | cons d rest ih =>
    obtain ⟨s, n⟩ := d
    rw [putEntry] at h
    split at h
    · rename_i hs
      rcases List.mem_cons.mp h with rfl | h
      · exact .inl (by rw [hs])
      · exact .inr (List.mem_cons_of_mem _ h)
    · rcases List.mem_cons.mp h with rfl | h
      · exact .inr List.mem_cons_self
      · exact (ih h).imp_right (List.mem_cons_of_mem _)

theorem WellNamed.putEntry {name : String} {new : Node} {entries : List (String × Node)}
    (h : (directory entries).WellNamed) (hn : IsName name) (hw : new.WellNamed) :
    (directory (putEntry name new entries)).WellNamed := by
  obtain ⟨hd, he⟩ := wellNamed_directory_iff.mp h
  refine wellNamed_directory_iff.mpr ⟨?_, fun e hm => ?_⟩
  · rw [map_fst_putEntry]
    split
    · exact hd
    · rename_i hnm
      refine List.nodup_append.mpr ⟨hd, by simp, fun a ha b hb => ?_⟩
      obtain rfl := List.mem_singleton.mp hb
      exact ne_of_mem_of_not_mem ha hnm
  · rcases mem_putEntry hm with rfl | hm
    · exact ⟨hn, hw⟩
    · exact he e hm

theorem WellNamed.put {n new : Node} {loc : Location} (h : n.WellNamed) (hw : new.WellNamed)
    (hn : ∀ name ∈ loc, IsName name) : (Node.put new n loc).WellNamed := by
  induction loc generalizing n with
  | nil => exact hw
  | cons name loc ih =>
    obtain ⟨hname, hloc⟩ := List.forall_mem_cons.mp hn
    cases n with
    | file | link => exact h
    | directory entries =>
      rw [Node.put]
      cases hc : child? name entries with
      | none =>
        dsimp only
        split
        · exact h.putEntry hname hw
        · exact h
      | some m =>
        have hm := ((wellNamed_directory_iff.mp h).2 _ (mem_of_child? hc)).2
        exact h.putEntry hname (ih hm hloc)

end Node

end CommentBlocks
