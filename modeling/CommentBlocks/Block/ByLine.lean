import CommentBlocks.Bytes

namespace CommentBlocks

def alterLine (line : Nat) (f : Option Bytes → Bytes) : List (Nat × Bytes) → List (Nat × Bytes)
  | [] => [(line, f none)]
  | (n, data) :: rest =>
    if line < n then (line, f none) :: (n, data) :: rest
    else if line = n then (n, f (some data)) :: rest
    else (n, data) :: alterLine line f rest

theorem mem_alterLine_fst {line : Nat} {f : Option Bytes → Bytes} {entries : List (Nat × Bytes)}
    {e : Nat × Bytes} (h : e ∈ alterLine line f entries) :
    e.1 = line ∨ ∃ d, (e.1, d) ∈ entries := by
  fun_induction alterLine line f entries with
  | case1 => simp_all
  | case2 n data rest hlt =>
    rcases List.mem_cons.mp h with rfl | hm
    · exact .inl rfl
    · exact .inr ⟨e.2, hm⟩
  | case3 data rest _ =>
    rcases List.mem_cons.mp h with rfl | hm
    · exact .inl rfl
    · exact .inr ⟨e.2, List.mem_cons_of_mem _ hm⟩
  | case4 n data rest _ _ ih =>
    rcases List.mem_cons.mp h with rfl | hm
    · exact .inr ⟨data, List.mem_cons_self⟩
    · rcases ih hm with hl | ⟨d, hd⟩
      · exact .inl hl
      · exact .inr ⟨d, List.mem_cons_of_mem _ hd⟩

theorem pairwise_alterLine (line : Nat) (f : Option Bytes → Bytes) {entries : List (Nat × Bytes)}
    (h : entries.Pairwise (·.1 < ·.1)) : (alterLine line f entries).Pairwise (·.1 < ·.1) := by
  fun_induction alterLine line f entries with
  | case1 => simp
  | case2 n data rest hlt =>
    refine List.pairwise_cons.mpr ⟨fun e he => ?_, h⟩
    rcases List.mem_cons.mp he with rfl | hm
    · exact hlt
    · exact Nat.lt_trans hlt ((List.pairwise_cons.mp h).1 e hm)
  | case3 data rest _ =>
    exact List.pairwise_cons.mpr (List.pairwise_cons.mp h)
  | case4 n data rest hlt hne ih =>
    obtain ⟨hn, hr⟩ := List.pairwise_cons.mp h
    refine List.pairwise_cons.mpr ⟨fun e he => ?_, ih hr⟩
    rcases mem_alterLine_fst he with hl | ⟨d, hd⟩
    · simp only
      omega
    · exact hn (e.1, d) hd

structure ByLine where
  entries : List (Nat × Bytes)
  ascending : entries.Pairwise (·.1 < ·.1)

namespace ByLine

def empty : ByLine := ⟨[], .nil⟩

/-- Puts `data` with a newline in front of the block of `line`, or begins it. -/
def prepend (line : Nat) (data : Bytes) (m : ByLine) : ByLine :=
  ⟨alterLine line (fun old => old.elim data (data ++ Bytes.newline :: ·)) m.entries,
    pairwise_alterLine _ _ m.ascending⟩

def offer (line : Nat) (data : Bytes) (m : ByLine) : ByLine :=
  ⟨alterLine line (·.getD data) m.entries, pairwise_alterLine _ _ m.ascending⟩

def lines (m : ByLine) : List Nat := m.entries.map (·.1)

/-- The blocks of texts that are found one after another, here the last of them first. Texts of one
line are joined by newlines. -/
def ofFound (found : List (Nat × Bytes)) : ByLine :=
  found.foldl (fun m e => m.prepend e.1 e.2) empty

def ofList (entries : List (Nat × Bytes)) : ByLine :=
  entries.foldr (fun e m => m.offer e.1 e.2) empty

end ByLine

end CommentBlocks
