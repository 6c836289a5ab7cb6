import CommentBlocks.Block.Basic
import CommentBlocks.Proofs.Json.Record
import CommentBlocks.Selection.Basic
import CommentBlocks.Selection.Limits

namespace CommentBlocks

open Json

theorem reads_string (t : String) : Reads Selection.string [writeText t] t := by
  have h := (reads_text t).map String.ofList
  rwa [String.ofList_toList] at h

theorem reads_strings (ts : List String) :
    Reads (list Selection.string) (listOf (ts.map fun t => [writeText t])) ts :=
  reads_list (List.forall₂_map_left_iff.mpr (List.forall₂_same.mpr fun t _ => reads_string t))

/-- What fits is parsed from what is written of it, and from the list of its fields with any blanks
between the lexemes. What is parsed at all can be written, parsed and written once more, and stays
the same. -/
structure RoundTrips {α : Type} (parse : String → Except Fault α) (write : α → String)
    (fields : α → List Lexemes) (Fits : α → Prop) : Prop where
  parse_write : ∀ a, Fits a → parse (write a) = .ok a
  parse_fields : ∀ a, Fits a → ∀ s, Spaced (listOf (fields a)) s → parse (String.ofList s) = .ok a
  write_parse : ∀ t a, parse t = .ok a → (parse (write a)).map write = .ok (write a)

theorem RoundTrips.of_fits {α : Type} {parse : String → Except Fault α} {write : α → String}
    {fields : α → List Lexemes} {Fits : α → Prop} (hw : ∀ a, Fits a → parse (write a) = .ok a)
    (hl : ∀ a, Fits a → ∀ s, Spaced (listOf (fields a)) s → parse (String.ofList s) = .ok a)
    (hf : ∀ t a, parse t = .ok a → Fits a) : RoundTrips parse write fields Fits where
  parse_write := hw
  parse_fields := hl
  write_parse t a h := by
    rw [hw a (hf t a h)]
    rfl

namespace Selection

variable (s : Selection)

def fields : List Lexemes :=
  [listOf (s.paths.map fun t => [writeText t]), [writeText s.language],
    [s.encoding.elim "null".toList writeText], [writeBool s.recursive],
    listOf (s.extensions.map fun t => [writeText t])]

def entries : List (Entry Draft) :=
  Entry.zip form.slots s.fields
    [fun d => { d with paths := some s.paths }, fun d => { d with language := some s.language },
      fun d => { d with encoding := some s.encoding },
      fun d => { d with recursive := some s.recursive },
      fun d => { d with extensions := some s.extensions }]

theorem admits_entries : form.Admits form.blank s.entries where
  taken := by
    have he : Reads text? [s.encoding.elim "null".toList writeText]
        (s.encoding.map String.toList) := by
      cases s.encoding with
      | none => exact reads_text?_none
      | some e => exact reads_text?_some e
    have hs : (s.encoding.map String.toList).map String.ofList = s.encoding := by
      simp
    simp only [entries, form, fields, Entry.zip, List.forall_mem_cons]
    refine ⟨fun d => ?_, fun d => ?_, fun d => ?_, fun d => ?_, fun d => ?_, List.forall_mem_nil _⟩
    · exact (reads_strings s.paths).map fun v => { d with paths := some v }
    · exact (reads_string s.language).map fun v => { d with language := some v }
    · have h := he.map fun v => { d with encoding := some (v.map String.ofList) }
      rwa [hs] at h
    · exact (reads_bool s.recursive).map fun v => { d with recursive := some v }
    · exact (reads_strings s.extensions).map fun v => { d with extensions := some v }
  found := by
    simp only [entries, form, fields, Entry.zip, List.forall_mem_cons]
    exact ⟨rfl, rfl, rfl, rfl, rfl, List.forall_mem_nil _⟩
  apart := by
    simp [entries, form, fields, Entry.zip]
  free := by
    simp [entries, form, fields, Entry.zip]

def writes (e : Entry Draft) : Bool :=
  !(e.slot.name == "encoding" && s.encoding.isNone) &&
    !(e.slot.name == "exts" && s.extensions.isEmpty)

theorem members_eq :
    s.members = (s.entries.filter s.writes).map fun e => (e.slot.name, e.lexemes.flatten) := by
  cases he : s.encoding <;> cases hx : s.extensions.isEmpty <;>
    simp [members, entries, writes, form, fields, Entry.zip, he, hx, flatten_listOf_singles]

theorem finish_entries : form.finish (Entry.updateAll s.entries form.blank) = some s := rfl

theorem finish_filter_entries :
    form.finish (Entry.updateAll (s.entries.filter s.writes) form.blank) = some s := by
  obtain ⟨paths, language, encoding, recursive, extensions⟩ := s
  cases encoding <;> cases extensions <;> simp [entries, writes, form, fields, Entry.zip, Entry.updateAll]

theorem roundTrips : RoundTrips parse write fields (fun _ => True) := by
  refine .of_fits (fun s _ => ?_) (fun s _ t hl => ?_) (fun _ _ _ => trivial)
  · rw [write, members_eq]
    exact Form.parse_writeObject (s.admits_entries.sublist List.filter_sublist)
      s.finish_filter_entries
  · exact Form.parse_listOf s.admits_entries.taken rfl s.finish_entries hl

theorem left_out_iff : (s.encoding = none ↔ "encoding" ∉ s.members.map Prod.fst) ∧
    (s.extensions = [] ↔ "exts" ∉ s.members.map Prod.fst) := by
  cases he : s.encoding <;> cases hx : s.extensions <;> simp [members, he, hx]

end Selection

namespace Limits

variable (l : Limits)

def fields : List Lexemes := [[writeNat l.capacity], [writeNat l.files]]

def entries : List (Entry Draft) :=
  Entry.zip form.slots l.fields
    [fun d => { d with capacity := some l.capacity }, fun d => { d with files := some l.files }]

def Fits : Prop := l.capacity < wordValues ∧ l.files < wordValues

theorem admits_entries (hl : l.Fits) : form.Admits form.blank l.entries where
  taken := by
    simp only [entries, form, fields, Entry.zip, List.forall_mem_cons]
    refine ⟨fun d => ?_, fun d => ?_, List.forall_mem_nil _⟩
    · exact (reads_natural hl.1 (Nat.le_refl _)).map fun v => { d with capacity := some v }
    · exact (reads_natural hl.2 (Nat.le_refl _)).map fun v => { d with files := some v }
  found := by
    simp only [entries, form, fields, Entry.zip, List.forall_mem_cons]
    exact ⟨rfl, rfl, List.forall_mem_nil _⟩
  apart := by
    simp [entries, form, fields, Entry.zip]
  free := by
    simp [entries, form, fields, Entry.zip]

theorem members_eq : l.members = l.entries.map fun e => (e.slot.name, e.lexemes.flatten) := by
  simp [members, entries, form, fields, Entry.zip]

def Draft.Fits (d : Draft) : Prop :=
  (∀ n ∈ d.capacity, n < wordValues) ∧ ∀ n ∈ d.files, n < wordValues

theorem fits_of_parse {t : String} (h : parse t = .ok l) : l.Fits := by
  have hs : ∀ slot ∈ form.slots, ∀ d s d' rest, slot.fill d s = .ok (d', rest) →
      d.Fits → d'.Fits := by
    simp only [form, List.forall_mem_cons]
    refine ⟨fun d s d' rest h hd => ?_, fun d s d' rest h hd => ?_, List.forall_mem_nil _⟩
    · obtain ⟨n, hn, rfl⟩ := exists_of_map (g := fun v => { d with capacity := some v }) h
      exact ⟨fun _ hm => Option.some.inj hm ▸ lt_of_natural hn, hd.2⟩
    · obtain ⟨n, hn, rfl⟩ := exists_of_map (g := fun v => { d with files := some v }) h
      exact ⟨hd.1, fun _ hm => Option.some.inj hm ▸ lt_of_natural hn⟩
  obtain ⟨⟨capacity, files⟩, hd, hl⟩ := Form.exists_draft hs ⟨nofun, nofun⟩ h
  obtain rfl := Option.some.inj hl
  -- a limit that is not given is the standard one
  constructor
  · cases capacity with
    | none => show standard.capacity < wordValues; decide
    | some n => exact hd.1 n rfl
  · cases files with
    | none => show standard.files < wordValues; decide
    | some n => exact hd.2 n rfl

theorem roundTrips : RoundTrips parse write fields Fits := by
  refine .of_fits (fun l h => ?_) (fun l h t hl => ?_) (fun _ l h => l.fits_of_parse h)
  · rw [write, members_eq]
    exact Form.parse_writeObject (l.admits_entries h) rfl
  · exact Form.parse_listOf (l.admits_entries h).taken rfl rfl hl

end Limits

namespace Block

variable (b : Block)

def fields : List Lexemes :=
  [[writeText b.file], [writeNat b.line], listOf (b.data.map fun x => [writeNat x.toNat])]

def entries : List (Entry Draft) :=
  Entry.zip form.slots b.fields
    [fun d => { d with file := some b.file }, fun d => { d with line := some b.line },
      fun d => { d with data := some b.data }]

def Fits : Prop := b.line < wordValues

theorem admits_entries (hb : b.Fits) : form.Admits form.blank b.entries where
  taken := by
    have hd : Reads (list (natural 256)) (listOf (b.data.map fun x => [writeNat x.toNat]))
        (b.data.map UInt8.toNat) := by
      refine reads_list (List.forall₂_map_left_iff.mpr (List.forall₂_map_right_iff.mpr ?_))
      exact List.forall₂_same.mpr fun x _ => reads_natural x.toNat_lt (by decide)
    have hs : (b.data.map UInt8.toNat).map Nat.toUInt8 = b.data := by
      rw [List.map_map]
      exact (List.map_congr_left fun x _ => UInt8.ofNat_toNat).trans (List.map_id _)
    simp only [entries, form, fields, Entry.zip, List.forall_mem_cons]
    refine ⟨fun d => ?_, fun d => ?_, fun d => ?_, List.forall_mem_nil _⟩
    · have h := (reads_text b.file).map fun v => { d with file := some (String.ofList v) }
      rwa [String.ofList_toList] at h
    · exact (reads_natural hb (Nat.le_refl _)).map fun v => { d with line := some v }
    · have h := hd.map fun v => { d with data := some (v.map Nat.toUInt8) }
      rwa [hs] at h
  found := by
    simp only [entries, form, fields, Entry.zip, List.forall_mem_cons]
    exact ⟨rfl, rfl, rfl, List.forall_mem_nil _⟩
  apart := by
    simp [entries, form, fields, Entry.zip]
  free := by
    simp [entries, form, fields, Entry.zip]

theorem members_eq : b.members = b.entries.map fun e => (e.slot.name, e.lexemes.flatten) := by
  simp [members, entries, form, fields, Entry.zip, flatten_listOf_singles]

theorem fits_of_parse {t : String} (h : parse t = .ok b) : b.Fits := by
  have hs : ∀ slot ∈ form.slots, ∀ d s d' rest, slot.fill d s = .ok (d', rest) →
      (∀ n ∈ d.line, n < wordValues) → ∀ n ∈ d'.line, n < wordValues := by
    simp only [form, List.forall_mem_cons]
    refine ⟨fun d s d' rest h hd => ?_, fun d s d' rest h hd => ?_, fun d s d' rest h hd => ?_,
      List.forall_mem_nil _⟩
    · obtain ⟨t, -, rfl⟩ :=
        exists_of_map (g := fun v => { d with file := some (String.ofList v) }) h
      exact hd
    · obtain ⟨n, hn, rfl⟩ := exists_of_map (g := fun v => { d with line := some v }) h
      exact fun _ hm => Option.some.inj hm ▸ lt_of_natural hn
    · obtain ⟨xs, -, rfl⟩ :=
        exists_of_map (g := fun v : List Nat => { d with data := some (v.map Nat.toUInt8) }) h
      exact hd
  obtain ⟨⟨file, line, data⟩, hd, hb⟩ := Form.exists_draft hs nofun h
  cases file <;> cases line <;> cases data <;> cases hb
  exact hd _ rfl

theorem roundTrips : RoundTrips parse write fields Fits := by
  refine .of_fits (fun b h => ?_) (fun b h t hl => ?_) (fun _ b h => b.fits_of_parse h)
  · rw [write, members_eq]
    exact Form.parse_writeObject (b.admits_entries h) rfl
  · exact Form.parse_listOf (b.admits_entries h).taken rfl rfl hl

end Block

/-- Selections, limits and blocks round trip, if their numbers have at most sixty-four bits. An
encoding that is not named and an empty list of extensions are left out of what is written. -/
theorem json_round_trips :
    RoundTrips Selection.parse Selection.write Selection.fields (fun _ => True) ∧
      RoundTrips Limits.parse Limits.write Limits.fields Limits.Fits ∧
      RoundTrips Block.parse Block.write Block.fields Block.Fits ∧
      ∀ s : Selection,
        (s.encoding = none ↔ "encoding" ∉ s.members.map Prod.fst) ∧
          (s.extensions = [] ↔ "exts" ∉ s.members.map Prod.fst) :=
  ⟨Selection.roundTrips, Limits.roundTrips, Block.roundTrips, Selection.left_out_iff⟩

theorem json_round_trips_sample :
    Selection.parse (Selection.write ⟨["a\"b\\\n"], "go", none, true, []⟩) =
        .ok ⟨["a\"b\\\n"], "go", none, true, []⟩ ∧
      Limits.parse (Limits.write ⟨0, 18446744073709551615⟩) = .ok ⟨0, 18446744073709551615⟩ ∧
      Block.parse (Block.write ⟨"\x01é😀", 1, [0, 255]⟩) = .ok ⟨"\x01é😀", 1, [0, 255]⟩ :=
  ⟨json_round_trips.1.parse_write _ trivial,
    json_round_trips.2.1.parse_write _ ⟨by decide, by decide⟩,
    json_round_trips.2.2.1.parse_write _ (show 1 < wordValues by decide)⟩

example : Block.write ⟨"a\x01\"", 10, [0, 255]⟩ =
    "\x7b\"file\":\"a\\u0001\\\"\",\"line\":10,\"data\":[0,255]\x7d" := by decide

end CommentBlocks
