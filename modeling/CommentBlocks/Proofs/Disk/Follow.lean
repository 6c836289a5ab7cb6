import CommentBlocks.Proofs.Disk.Walk
import CommentBlocks.Proofs.Disk.Tree

namespace CommentBlocks

open CommentBlocks.Path

def Disk.Solid (d : Disk) (loc : Location) : Prop :=
  (∃ data, d.root.get? loc = some (.file data)) ∨
    ∃ entries, d.root.get? loc = some (.directory entries)

namespace Disk

variable {d : Disk} {links left : Nat} {place loc : Location} {steps : List Component}
  {path name : String}

/-- A relative path that is not too long spells these steps. -/
def Spells (path : String) (steps : List Component) : Prop :=
  '\x00' ∉ path.toList ∧ path ≠ "" ∧ byteLength path < pathLimit ∧ isAbsolute path = false ∧
    Disk.steps path = steps

instance (path : String) (steps : List Component) : Decidable (Spells path steps) :=
  inferInstanceAs (Decidable (_ ∧ _))

@[simp]
theorem follow_nil : d.follow links place [] = .ok place := by
  rw [follow]

theorem follow_here {entries : List (String × Node)}
    (hd : d.root.get? place = some (.directory entries)) (rest : List Component) :
    d.follow links place (.here :: rest) = d.follow links place rest := by
  rw [follow, hd]

theorem follow_up {entries : List (String × Node)}
    (hd : d.root.get? place = some (.directory entries)) (rest : List Component) :
    d.follow links place (.up :: rest) = d.follow links place.dropLast rest := by
  rw [follow, hd]

theorem follow_behind_file {data : Bytes} (hd : d.root.get? place = some (.file data))
    (step : Component) (rest : List Component) :
    d.follow links place (step :: rest) = .error .notDirectory := by
  rw [follow, hd]

theorem follow_name {n : Node} (h : d.root.get? (place ++ [name]) = some n)
    (hl : ∀ target, n ≠ .link target) (rest : List Component) :
    d.follow links place (.name name :: rest) = d.follow links (place ++ [name]) rest := by
  obtain ⟨entries, hd⟩ := Node.exists_directory_of_get?_append h (List.cons_ne_nil _ _)
  have hshort := Nat.not_lt.mpr (d.named.isName_of_get? h name (by simp)).short
  rw [Node.get?_concat hd] at h
  cases n with
  | link target => exact absurd rfl (hl target)
  | file | directory => rw [follow]; simp [hd, h, hshort]

theorem follow_link {target : String} {cs : List Component}
    (h : d.root.get? (place ++ [name]) = some (.link target)) (hs : Spells target cs)
    (rest : List Component) :
    d.follow (links + 1) place (.name name :: rest) = d.follow links place (cs ++ rest) := by
  obtain ⟨entries, hd⟩ := Node.exists_directory_of_get?_append h (List.cons_ne_nil _ _)
  have hshort := Nat.not_lt.mpr (d.named.isName_of_get? h name (by simp)).short
  obtain ⟨-, -, -, hr, rfl⟩ := hs
  rw [Node.get?_concat hd] at h
  rw [follow]
  simp [hd, h, hshort, origin, hr]

theorem follow_missing {entries : List (String × Node)}
    (hd : d.root.get? place = some (.directory entries)) (hn : IsName name)
    (h : d.root.get? (place ++ [name]) = none) (rest : List Component) :
    d.follow links place (.name name :: rest) = .error .noEntry := by
  rw [Node.get?_concat hd] at h
  rw [follow]
  simp [hd, h, Nat.not_lt.mpr hn.short]

/-- Names lead on to what stands under them, if that is not a link. There is no link on the way
then: nothing stands below one. -/
theorem follow_names {n : Node} {names : List String} (h : d.root.get? (place ++ names) = some n)
    (hl : ∀ target, n ≠ .link target) (rest : List Component) :
    d.follow links place (names.map .name ++ rest) = d.follow links (place ++ names) rest := by
  induction names generalizing place with
  | nil => rw [List.map_nil, List.nil_append, List.append_nil]
  | cons name names ih =>
    have hfirst : ∃ m, d.root.get? (place ++ [name]) = some m ∧ ∀ target, m ≠ .link target := by
      cases names with
      | nil => exact ⟨n, h, hl⟩
      | cons =>
        rw [List.append_cons] at h
        obtain ⟨entries, he⟩ := Node.exists_directory_of_get?_append h (List.cons_ne_nil _ _)
        exact ⟨_, he, by simp⟩
    obtain ⟨m, hm, hlink⟩ := hfirst
    rw [List.append_cons] at h
    rw [List.map_cons, List.cons_append, follow_name hm hlink, ih h, ← List.append_cons]

theorem solid_nil {entries : List (String × Node)}
    (h : d.root.get? place = some (.directory entries)) : d.Solid [] := by
  cases hr : d.root with
  | directory es => exact .inr ⟨es, by simp [hr, Node.get?]⟩
  | file | link => cases place <;> simp [hr, Node.get?] at h

theorem solid_dropLast {entries : List (String × Node)}
    (h : d.root.get? place = some (.directory entries)) : d.Solid place.dropLast := by
  rcases List.eq_nil_or_concat place with rfl | ⟨front, name, rfl⟩
  · exact .inr ⟨entries, h⟩
  · rw [List.concat_eq_append] at h ⊢
    rw [List.dropLast_concat]
    exact .inr (Node.exists_directory_of_get?_append h (List.cons_ne_nil _ _))

theorem solid_origin {entries : List (String × Node)}
    (h : d.root.get? place = some (.directory entries)) (target : String) :
    d.Solid (origin place target) := by
  rw [origin]
  split
  · exact solid_nil h
  · exact .inr ⟨entries, h⟩

theorem solid_of_follow (h : d.follow links place steps = .ok loc) (hp : d.Solid place) :
    d.Solid loc := by
  fun_induction follow d links place steps with
  | case1 => exact Except.ok.inj h ▸ hp
  | case2 _ _ _ entries hd ih => exact ih h (solid_nil hd)
  | case3 _ _ _ _ _ ih => exact ih h hp
  | case4 _ _ _ _ hd ih => exact ih h (solid_dropLast hd)
  | case5 | case6 | case7 | case10 | case11 => cases h
  | case8 _ _ _ hd _ _ target _ _ ih => exact ih h (solid_origin hd target)
  | case9 _ place _ entries hd s _ n hn hc ih =>
    refine ih h ?_
    rw [Solid, Node.get?_concat hd, hc]
    cases n with
    | link target => exact absurd rfl (hn target)
    | file data => exact .inl ⟨data, rfl⟩
    | directory es => exact .inr ⟨es, rfl⟩

theorem exists_left_of_follow (h : d.follow links place steps = .ok loc) :
    ∃ left ≤ links, ∀ more, d.follow links place (steps ++ more) = d.follow left loc more := by
  fun_induction follow d links place steps with
  | case1 => exact ⟨_, Nat.le_refl _, fun more => by rw [Except.ok.inj h, List.nil_append]⟩
  | case2 _ _ _ _ hd ih | case3 _ _ _ _ hd ih | case4 _ _ _ _ hd ih =>
    obtain ⟨left, hle, hl⟩ := ih h
    exact ⟨left, hle, fun more => by rw [List.cons_append, follow, hd]; exact hl more⟩
  | case5 | case6 | case7 | case10 | case11 => cases h
  | case8 _ _ _ hd _ hs _ hc _ ih =>
    obtain ⟨left, hle, hl⟩ := ih h
    refine ⟨left, by omega, fun more => ?_⟩
    rw [List.cons_append, follow, hd]
    simpa [hs, hc] using hl more
  | case9 _ _ _ _ hd _ hs n hn hc ih =>
    obtain ⟨left, hle, hl⟩ := ih h
    refine ⟨left, hle, fun more => ?_⟩
    rw [List.cons_append, follow, hd]
    cases n with
    | link target => exact absurd rfl (hn target)
    | file | directory => simpa [hs, hc] using hl more

theorem follow_append_of_error {e : Errno} (h : d.follow links place steps = .error e)
    (more : List Component) : d.follow links place (steps ++ more) = .error e := by
  fun_induction follow d links place steps with
  | case1 => cases h
  | case2 _ _ _ _ hd ih | case3 _ _ _ _ hd ih | case4 _ _ _ _ hd ih =>
    rw [List.cons_append, follow, hd]
    exact ih h
  | case5 _ _ _ _ hd _ hs =>
    rw [List.cons_append, follow, hd]
    simpa [hs] using h
  | case6 _ _ _ _ hd _ hs hc | case7 _ _ _ hd _ hs _ hc =>
    rw [List.cons_append, follow, hd]
    simpa [hs, hc] using h
  | case8 _ _ _ hd _ hs _ hc _ ih =>
    rw [List.cons_append, follow, hd]
    simpa [hs, hc] using ih h
  | case9 _ _ _ _ hd _ hs n hn hc ih =>
    rw [List.cons_append, follow, hd]
    cases n with
    | link target => exact absurd rfl (hn target)
    | file | directory => simpa [hs, hc] using ih h
  | case10 _ _ _ _ n hn hd =>
    rw [List.cons_append, follow, hd]
    cases n with
    | directory entries => exact absurd rfl (hn entries)
    | file | link => exact h
  | case11 _ _ _ _ hd =>
    rw [List.cons_append, follow, hd]
    exact h

/-- With fewer links a lookup comes to the same answer, or it has to follow too many. -/
theorem follow_fewer {fewer : Nat} (h : fewer ≤ links) :
    d.follow fewer place steps = d.follow links place steps ∨
      d.follow fewer place steps = .error .tooManyLinks := by
  fun_induction follow d links place steps generalizing fewer with
  | case1 => exact .inl (by rw [follow])
  | case2 _ _ _ _ hd ih | case3 _ _ _ _ hd ih | case4 _ _ _ _ hd ih =>
    rw [follow, hd]
    exact ih h
  | case5 _ _ _ _ hd _ hs => exact .inl (by rw [follow, hd]; simp [hs])
  | case6 _ _ _ _ hd _ hs hc => exact .inl (by rw [follow, hd]; simp [hs, hc])
  | case7 _ _ _ hd _ hs _ hc =>
    obtain rfl : fewer = 0 := Nat.le_zero.mp h
    exact .inl (by rw [follow, hd]; simp [hs, hc])
  | case8 _ _ _ hd _ hs _ hc links ih =>
    rw [follow, hd]
    cases fewer with
    | zero => exact .inr (by simp [hs, hc])
    | succ fewer => simpa [hs, hc] using ih (Nat.le_of_succ_le_succ h)
  | case9 _ _ _ _ hd _ hs n hn hc ih =>
    rw [follow, hd]
    cases n with
    | link target => exact absurd rfl (hn target)
    | file | directory => simpa [hs, hc] using ih h
  | case10 _ _ _ _ n hn hd =>
    rw [follow, hd]
    cases n with
    | directory entries => exact absurd rfl (hn entries)
    | file | link => exact .inl rfl
  | case11 _ _ _ _ hd => exact .inl (by rw [follow, hd])

theorem locate_eq_ok_iff : d.locate path = .ok loc ↔ '\x00' ∉ path.toList ∧ path ≠ "" ∧
    d.follow linkLimit (origin d.working path) (Disk.steps path) = .ok loc := by
  rw [locate]
  by_cases hw : '\x00' ∈ path.toList
  · simp [hw]
  · by_cases he : path = ""
    · simp [he]
    · cases d.follow linkLimit (origin d.working path) (Disk.steps path) <;>
        simp [hw, he, Except.mapError]

theorem Spells.resolve_eq (h : Spells path steps) :
    d.resolve path = (d.follow linkLimit d.working steps).mapError .system := by
  obtain ⟨hw, hne, hl, hr, rfl⟩ := h
  simp [resolve, locate, hw, hne, Nat.not_le.mpr hl, origin, hr]

theorem Spells.resolve_eq_ok (h : Spells path steps)
    (hf : d.follow linkLimit d.working steps = .ok loc) : d.resolve path = .ok loc := by
  rw [h.resolve_eq, hf]
  rfl

theorem Spells.resolve_eq_error {e : Errno} (h : Spells path steps)
    (hf : d.follow linkLimit d.working steps = .error e) :
    d.resolve path = .error (.system e) := by
  rw [h.resolve_eq, hf]
  rfl

theorem resolve_names {n : Node} (names : List String) (h : Spells path (names.map .name))
    (hn : d.root.get? (d.working ++ names) = some n) (hl : ∀ target, n ≠ .link target) :
    d.resolve path = .ok (d.working ++ names) := by
  refine h.resolve_eq_ok ?_
  have hf : d.follow linkLimit d.working (names.map .name ++ []) = _ := follow_names hn hl []
  rwa [List.append_nil, follow_nil] at hf

theorem locate_of_resolve (h : d.resolve path = .ok loc) : d.locate path = .ok loc := by
  rw [resolve] at h
  split at h
  · cases h
  · split at h
    · cases h
    · exact h

theorem identity_of_resolve (h : d.resolve path = .ok loc) (hs : pathWidth loc < pathLimit) :
    d.identity path = .root :: loc.map .name := by
  simp [identity, canonical, locate_of_resolve h, bind, Except.bind, Nat.not_le.mpr hs]

theorem lookup_of_resolve_error {e : IoError} (h : d.resolve path = .error e) :
    d.lookup path = .error e := by
  simp [lookup, h, bind, Except.bind]

theorem lookup_eq_ok_iff {n : Node} : d.lookup path = .ok n ↔
    ∃ place, d.resolve path = .ok place ∧ d.root.get? place = some n := by
  rw [lookup]
  cases d.resolve path with
  | error e => simp [bind, Except.bind]
  | ok place => cases hn : d.root.get? place <;> simp [bind, Except.bind, hn]

theorem isDirectory_eq_true_iff : d.isDirectory path = true ↔
    ∃ place inner, d.resolve path = .ok place ∧ d.root.get? place = some (.directory inner) := by
  rw [isDirectory]
  split
  · rename_i inner h
    obtain ⟨place, hr, hd⟩ := lookup_eq_ok_iff.mp h
    exact iff_of_true rfl ⟨place, inner, hr, hd⟩
  · rename_i h
    refine iff_of_false Bool.false_ne_true ?_
    rintro ⟨place, inner, hr, hd⟩
    exact h inner (lookup_eq_ok_iff.mpr ⟨place, hr, hd⟩)

end Disk

end CommentBlocks
