import CommentBlocks.Proofs.Json.Grammar
import CommentBlocks.Proofs.Json.RoundTrip
import Mathlib.Data.List.Nodup
import Mathlib.Data.List.Perm.Subperm
import Mathlib.Data.List.TakeWhile

namespace CommentBlocks

namespace Json

variable {σ α : Type} {f : Form σ α} {s : List Char}

/-- The members of an object: those of the fields in their order, each with its name in any
spelling, and between them any values under other names. -/
inductive Strewn (names : List String) : List (String × Lexemes) → List Lexemes → Prop
  | nil : Strewn names [] []
  | field {k : List Char} {name : String} {ls : Lexemes} {fields : List (String × Lexemes)}
      {ms : List Lexemes} (hk : Spells k name.toList) (h : Strewn names fields ms) :
      Strewn names ((name, ls) :: fields) (entry k ls :: ms)
  | other {k : List Char} {key : String} {ls : Lexemes} {fields : List (String × Lexemes)}
      {ms : List Lexemes} (hk : Spells k key.toList) (hn : key ∉ names) (hv : IsValue ls)
      (h : Strewn names fields ms) : Strewn names fields (entry k ls :: ms)

namespace Form

theorem reads_other {key : String} {ls : Lexemes} (hn : key ∉ f.slots.map (·.name))
    (hv : IsValue ls) (d : σ) : Reads (f.member key.toList d) ([':'] :: ls) d where
  opens := ⟨':', [], ls, rfl, by decide, by decide⟩
  read s h rest hrest := by
    obtain ⟨t, hcolon, ht⟩ := colon_spaced h rest
    have hs : f.slots.find? (·.name.toList == key.toList) = none := by
      refine List.find?_eq_none.mpr fun slot hslot he => hn ?_
      have hname : slot.name = key := String.toList_inj.mp (beq_iff_eq.mp he)
      exact hname ▸ List.mem_map_of_mem hslot
    simp only [member, hs, hcolon, Except.bind, hv.skip_append ht hrest, Except.map]

theorem Admits.gathers_strewn {d : σ} {es : List (Entry σ)} {ms : List Lexemes}
    (h : f.Admits d es)
    (hm : Strewn (f.slots.map (·.name)) (es.map fun e => (e.slot.name, e.lexemes)) ms) :
    f.Gathers d ms (Entry.updateAll es d) := by
  generalize hfields : (es.map fun e => (e.slot.name, e.lexemes)) = fields at hm
  induction hm generalizing es d with
  | nil =>
    obtain rfl := List.map_eq_nil_iff.mp hfields
    exact .nil d
  | field hk _ ih =>
    obtain ⟨e, es, rfl, he, rfl⟩ := List.map_eq_cons_iff.mp hfields
    obtain ⟨rfl, rfl⟩ := Prod.mk.inj he
    have hm := reads_member (h.found e List.mem_cons_self) (h.free e List.mem_cons_self)
      (h.taken e List.mem_cons_self d)
    exact .cons (fun rest => by rw [List.append_assoc]; exact hk.chars_append rest) hm (ih h.tail rfl)
  | other hk hn hv _ ih =>
    exact .cons (fun rest => by rw [List.append_assoc]; exact hk.chars_append rest)
      (reads_other hn hv d) (ih h hfields)

theorem parse_object {d : σ} {ms : List Lexemes} (h : f.Gathers f.blank ms d)
    (hs : Spaced (objectOf ms) s) {blanks : List Char} (hb : ∀ c ∈ blanks, isBlank c = true) :
    f.parse (String.ofList (s ++ blanks)) =
      match f.finish d with
      | none => .error .mistyped
      | some a => .ok a := by
  have hr := read_object h hs blanks
  have hskip : skipBlanks blanks = [] := List.dropWhile_eq_nil_iff.mpr hb
  cases hd : f.finish d with
  | none =>
    rw [hd] at hr
    simp only [parse, String.toList_ofList, hr]
  | some a =>
    rw [hd] at hr
    simp only [parse, String.toList_ofList, hr, hskip]
    rfl

theorem members_twice {d d' : σ} {before after : List Lexemes} {slot : Slot σ} {k : List Char}
    {name : String} {ls : Lexemes} {first : Bool} {fuel : Nat} (h : f.Gathers d before d')
    (hs : Spaced (row first (before ++ entry k ls :: after) ++ [['\x7d']]) s)
    (hk : Spells k name.toList)
    (hslot : f.slots.find? (·.name.toList == name.toList) = some slot)
    (hfilled : slot.isFilled d' = true) (hf : before.length < fuel) (rest : List Char) :
    f.members fuel first d (s ++ rest) = .error .mistyped := by
  obtain ⟨n, rfl⟩ := Nat.exists_eq_add_of_lt hf
  obtain ⟨first', t, hm, ht⟩ := members_append h hs (n + 1) rest
  obtain ⟨u, hn, -⟩ := nextKey_row ht rest
  have hkey : chars (k ++ ['"'] ++ (u ++ rest)) = .ok (name.toList, u ++ rest) := by
    rw [List.append_assoc]
    exact hk.chars_append (u ++ rest)
  rw [Nat.add_assoc, hm]
  simp only [members, hn, hkey, member, hslot, hfilled, if_true]

theorem parse_twice {d : σ} {before after : List Lexemes} {slot : Slot σ} {k : List Char}
    {name : String} {ls : Lexemes} (h : f.Gathers f.blank before d)
    (hopens : ∀ m ∈ before ++ entry k ls :: after, Opens m)
    (hs : Spaced (objectOf (before ++ entry k ls :: after)) s) (hk : Spells k name.toList)
    (hslot : f.slots.find? (·.name.toList == name.toList) = some slot)
    (hfilled : slot.isFilled d = true) (rest : List Char) :
    f.parse (String.ofList (s ++ rest)) = .error .mistyped := by
  obtain ⟨t, ht, he⟩ := hs.skipBlanks_eq (c := '\x7b') (by decide) rest
  have hl := length_le_of_row hopens ht
  have hf : before.length < (t ++ rest).length + 1 := by
    rw [List.length_append] at hl ⊢
    omega
  have hm := members_twice h ht hk hslot hfilled hf rest
  simp only [parse, String.toList_ofList, read, he, List.nil_append, hm, close]

/-- The entries are one for each field, and each fills its own and leaves the others as they are. -/
structure Fields (f : Form σ α) (es : List (Entry σ)) : Prop extends f.Admits f.blank es where
  slots : es.map (·.slot) = f.slots
  distinct : (es.map (·.slot.name)).Nodup
  isFilled_update : ∀ e ∈ es, ∀ e' ∈ es, ∀ d,
    e'.slot.isFilled (e.update d) = (e.slot.name == e'.slot.name || e'.slot.isFilled d)
  comm : ∀ e ∈ es, ∀ e' ∈ es, ∀ d, e.update (e'.update d) = e'.update (e.update d)

section Fields

variable {es es' es'' : List (Entry σ)}

theorem Fields.admits_of_subperm (h : f.Fields es) (hp : es'.Subperm es) :
    f.Admits f.blank es' where
  taken e he := h.taken e (hp.subset he)
  found e he := h.found e (hp.subset he)
  free e he := h.free e (hp.subset he)
  apart := by
    have hd : (es'.map (·.slot.name)).Nodup := by
      obtain ⟨l, hl, hsub⟩ := hp
      exact (hl.map _).nodup (h.distinct.sublist (hsub.map _))
    refine (List.pairwise_map.mp hd).imp_of_mem fun {e e'} he he' hne d => ?_
    rw [h.isFilled_update e (hp.subset he) e' (hp.subset he'), beq_false_of_ne hne, Bool.false_or]

theorem Fields.updateAll_of_perm (h : f.Fields es) (hp : es'.Perm es'') (hsub : es'' ⊆ es)
    (d : σ) : Entry.updateAll es' d = Entry.updateAll es'' d :=
  hp.foldl_eq' (fun e he e' he' d => h.comm e' (hsub (hp.subset he')) e (hsub (hp.subset he)) d) d

theorem Fields.isFilled_updateAll (h : f.Fields es) (hsub : es' ⊆ es) {e : Entry σ} (he : e ∈ es)
    (d : σ) : e.slot.isFilled (Entry.updateAll es' d) =
      (es'.any (·.slot.name == e.slot.name) || e.slot.isFilled d) := by
  induction es' generalizing d with
  | nil => rfl
  | cons e' es' ih =>
    obtain ⟨he', hsub⟩ := List.cons_subset.mp hsub
    have hstep := h.isFilled_update e' he' e he d
    rw [List.any_cons, Bool.or_assoc, Bool.or_left_comm, ← hstep]
    exact ih hsub (e'.update d)

end Fields

end Form

theorem Strewn.opens {names : List String} {fields : List (String × Lexemes)} {ms : List Lexemes}
    (h : Strewn names fields ms) : ∀ m ∈ ms, Opens m := by
  have hopens (k : List Char) (ls : Lexemes) : Opens (entry k ls) :=
    ⟨'"', _, _, rfl, by decide, by decide⟩
  induction h with
  | nil => exact List.forall_mem_nil _
  | field _ _ ih => exact List.forall_mem_cons.mpr ⟨hopens _ _, ih⟩
  | other _ _ _ _ ih => exact List.forall_mem_cons.mpr ⟨hopens _ _, ih⟩

theorem Strewn.exists_append {names : List String} {before after : List (String × Lexemes)}
    {name : String} {ls : Lexemes} {ms : List Lexemes}
    (h : Strewn names (before ++ (name, ls) :: after) ms) :
    ∃ ms₁ k ms₂, ms = ms₁ ++ entry k ls :: ms₂ ∧ Strewn names before ms₁ ∧
      Spells k name.toList := by
  generalize hfields : before ++ (name, ls) :: after = fields at h
  induction h generalizing before with
  | nil => simp at hfields
  | @field k _ _ _ ms hk h ih =>
    cases before with
    | nil =>
      obtain ⟨he, rfl⟩ := List.cons.inj hfields
      obtain ⟨rfl, rfl⟩ := Prod.mk.inj he
      exact ⟨[], k, ms, rfl, .nil, hk⟩
    | cons b before =>
      obtain ⟨rfl, hrest⟩ := List.cons.inj hfields
      obtain ⟨ms₁, k', ms₂, rfl, hm, hk'⟩ := ih hrest
      exact ⟨entry k _ :: ms₁, k', ms₂, rfl, .field hk hm, hk'⟩
  | @other k _ ls' _ ms hk hn hv h ih =>
    -- members of other names in front of the field belong to the first part
    obtain ⟨ms₁, k', ms₂, rfl, hm, hk'⟩ := ih hfields
    exact ⟨entry k ls' :: ms₁, k', ms₂, rfl, .other hk hn hv hm, hk'⟩

/-- The text is an object that gives these fields in this order, with any blanks and with any other
members. -/
inductive Gives (names : List String) (given : List (String × Lexemes)) : String → Prop
  | object {ms : List Lexemes} {s blanks : List Char} (hm : Strewn names given ms)
      (hs : Spaced (objectOf ms) s) (hb : ∀ c ∈ blanks, isBlank c = true) :
      Gives names given (String.ofList (s ++ blanks))

def fieldsKept (names : List String) (fields : List Lexemes) (kept : String → Bool) :
    List (String × Lexemes) :=
  (names.zip fields).filter fun field => kept field.1

/-- What fits is parsed from any object that gives its fields in any order, if those that are
required are among them; the others may be left out. An object that lacks a required field, or gives
a field that it has given already, is of no use. The members that are written are some of the
fields. -/
structure TakesAnyOrder {α : Type} (parse : String → Except Fault α) (names required : List String)
    (fields : α → List Lexemes) (members : α → List (String × List Char))
    (only : α → (String → Bool) → α) (Fits : α → Prop) : Prop where
  parse_given : ∀ a, Fits a → ∀ kept, (∀ name ∈ required, kept name = true) →
    ∀ given, given.Perm (fieldsKept names (fields a) kept) → ∀ text, Gives names given text →
      parse text = .ok (only a kept)
  parse_lacking : ∀ a, Fits a → ∀ kept, ∀ name ∈ required, kept name = false →
    ∀ given, given.Perm (fieldsKept names (fields a) kept) → ∀ text, Gives names given text →
      parse text = .error .mistyped
  parse_twice : ∀ a, Fits a → ∀ kept, ∀ before, before.Perm (fieldsKept names (fields a) kept) →
    ∀ name ∈ before.map Prod.fst, ∀ ls after text, Gives names (before ++ (name, ls) :: after) text →
      parse text = .error .mistyped
  exists_kept : ∀ a, ∃ kept, (∀ name ∈ required, kept name = true) ∧ only a kept = a ∧
    (fieldsKept names (fields a) kept).map (fun field => (field.1, field.2.flatten)) = members a

theorem exists_perm_of_perm_map {β γ : Type} {g : β → γ} {bs : List β} {cs : List γ}
    (h : cs.Perm (bs.map g)) : ∃ bs' : List β, bs'.Perm bs ∧ bs'.map g = cs := by
  have hmap : List.Forall₂ (fun c b => c = g b) (bs.map g) bs :=
    List.forall₂_map_left_iff.mpr (List.forall₂_same.mpr fun _ _ => rfl)
  obtain ⟨bs', hcs, hbs⟩ := List.perm_comp_forall₂ h hmap
  refine ⟨bs', hbs, ?_⟩
  have heq := List.forall₂_map_right_iff.mpr hcs
  rw [List.forall₂_eq_eq_eq] at heq
  exact heq.symm

namespace Form

theorem Fields.exists_entries {es : List (Entry σ)} (h : f.Fields es) {kept : String → Bool}
    {given : List (String × Lexemes)}
    (hg : given.Perm (fieldsKept (f.slots.map (·.name)) (es.map (·.lexemes)) kept)) :
    ∃ es' : List (Entry σ), es'.Perm (es.filter fun e => kept e.slot.name) ∧
      es'.map (fun e => (e.slot.name, e.lexemes)) = given := by
  refine exists_perm_of_perm_map ?_
  rw [fieldsKept, ← h.slots, List.map_map, List.zip_map', List.filter_map] at hg
  exact hg

end Form

theorem TakesAnyOrder.of_form {required : List String} {fields : α → List Lexemes}
    {members : α → List (String × List Char)} {only : α → (String → Bool) → α} {Fits : α → Prop}
    {entries : α → List (Entry σ)} (hf : ∀ a, Fits a → f.Fields (entries a))
    (hfields : ∀ a, (entries a).map (·.lexemes) = fields a)
    (hfinish : ∀ a kept,
      f.finish (Entry.updateAll ((entries a).filter fun e => kept e.slot.name) f.blank) =
        if required.all kept then some (only a kept) else none)
    (hwritten : ∀ a, ∃ kept, (∀ name ∈ required, kept name = true) ∧ only a kept = a ∧
      (fieldsKept (f.slots.map (·.name)) (fields a) kept).map
        (fun field => (field.1, field.2.flatten)) = members a) :
    TakesAnyOrder f.parse (f.slots.map (·.name)) required fields members only Fits := by
  have hparse {a : α} (ha : Fits a) {kept : String → Bool} {given : List (String × Lexemes)}
      (hg : given.Perm (fieldsKept (f.slots.map (·.name)) (fields a) kept)) {text : String}
      (ht : Gives (f.slots.map (·.name)) given text) :
      f.parse text = match (if required.all kept then some (only a kept) else none) with
        | none => .error .mistyped
        | some a => .ok a := by
    rw [← hfields] at hg
    obtain ⟨es', hperm, rfl⟩ := (hf a ha).exists_entries hg
    obtain ⟨hm, hs, hb⟩ := ht
    have hsub : (entries a).filter (fun e => kept e.slot.name) ⊆ entries a :=
      List.filter_sublist.subset
    have hadmits := (hf a ha).admits_of_subperm (hperm.subperm.trans List.filter_sublist.subperm)
    rw [Form.parse_object (hadmits.gathers_strewn hm) hs hb,
      (hf a ha).updateAll_of_perm hperm hsub, hfinish]
  refine ⟨fun a ha kept hk given hg text ht => ?_, fun a ha kept name hn hk given hg text ht => ?_,
    fun a ha kept before hg name hn ls after text ht => ?_, hwritten⟩
  · rw [hparse ha hg ht, if_pos (List.all_eq_true.mpr hk)]
  · have hall : ¬ required.all kept = true := fun h =>
      absurd (List.all_eq_true.mp h name hn) (by simp [hk])
    rw [hparse ha hg ht, if_neg hall]
  · rw [← hfields] at hg
    obtain ⟨es', hperm, rfl⟩ := (hf a ha).exists_entries hg
    obtain ⟨hm, hs, hb⟩ := ht
    obtain ⟨ms₁, k, ms₂, rfl, hm₁, hk⟩ := hm.exists_append
    have hadmits := (hf a ha).admits_of_subperm (hperm.subperm.trans List.filter_sublist.subperm)
    rw [List.map_map] at hn
    obtain ⟨e, he, rfl⟩ := List.mem_map.mp hn
    have hsub : es' ⊆ entries a := List.Subset.trans hperm.subset (List.filter_sublist.subset)
    have hany : es'.any (·.slot.name == e.slot.name) = true :=
      List.any_eq_true.mpr ⟨e, he, beq_self_eq_true _⟩
    have hfilled : e.slot.isFilled (Entry.updateAll es' f.blank) = true := by
      rw [(hf a ha).isFilled_updateAll hsub (hsub he), hany, Bool.true_or]
    exact Form.parse_twice (hadmits.gathers_strewn hm₁) hm.opens hs hk (hadmits.found e he) hfilled _

end Json

open Json

namespace Selection

variable (s : Selection)

theorem fields_entries : form.Fields s.entries where
  toAdmits := s.admits_entries
  slots := rfl
  distinct := by
    show ["paths", "lang", "encoding", "recursive", "exts"].Nodup
    decide
  isFilled_update := by
    simp [entries, form, fields, Entry.zip]
  comm := by
    simp [entries, form, fields, Entry.zip]

def only (kept : String → Bool) : Selection where
  paths := if kept "paths" then s.paths else []
  language := s.language
  encoding := if kept "encoding" then s.encoding else none
  recursive := kept "recursive" && s.recursive
  extensions := if kept "exts" then s.extensions else []

theorem finish_kept (kept : String → Bool) :
    form.finish (Entry.updateAll (s.entries.filter fun e => kept e.slot.name) form.blank) =
      if ["lang"].all kept then some (s.only kept) else none := by
  cases hp : kept "paths" <;> cases hl : kept "lang" <;> cases he : kept "encoding" <;>
    cases hr : kept "recursive" <;> cases hx : kept "exts" <;>
    simp [entries, form, fields, Entry.zip, Entry.updateAll, only, hp, hl, he, hr, hx]

theorem exists_kept : ∃ kept : String → Bool, (∀ name ∈ ["lang"], kept name = true) ∧
    s.only kept = s ∧
      (fieldsKept ["paths", "lang", "encoding", "recursive", "exts"] s.fields kept).map
        (fun field => (field.1, field.2.flatten)) = s.members := by
  obtain ⟨paths, language, encoding, recursive, extensions⟩ := s
  refine ⟨fun name => !(name == "encoding" && encoding.isNone) &&
    !(name == "exts" && extensions.isEmpty), by simp, ?_, ?_⟩
  · cases encoding <;> cases extensions <;> simp [only]
  · cases encoding <;> cases extensions <;>
      simp [fieldsKept, fields, members, ← flatten_listOf_singles]

theorem takesAnyOrder :
    TakesAnyOrder parse ["paths", "lang", "encoding", "recursive", "exts"] ["lang"] fields members
      only fun _ => True :=
  .of_form (fun s _ => s.fields_entries) (fun _ => rfl) finish_kept exists_kept

end Selection

namespace Limits

variable (l : Limits)

theorem fields_entries (h : l.Fits) : form.Fields l.entries where
  toAdmits := l.admits_entries h
  slots := rfl
  distinct := by
    show ["channel_capacity", "max_concurrent_files"].Nodup
    decide
  isFilled_update := by
    simp [entries, form, fields, Entry.zip]
  comm := by
    simp [entries, form, fields, Entry.zip]

def only (kept : String → Bool) : Limits where
  capacity := if kept "channel_capacity" then l.capacity else standard.capacity
  files := if kept "max_concurrent_files" then l.files else standard.files

theorem finish_kept (kept : String → Bool) :
    form.finish (Entry.updateAll (l.entries.filter fun e => kept e.slot.name) form.blank) =
      if [].all kept then some (l.only kept) else none := by
  cases hc : kept "channel_capacity" <;> cases hf : kept "max_concurrent_files" <;>
    simp [entries, form, fields, Entry.zip, Entry.updateAll, only, hc, hf]

theorem exists_kept : ∃ kept : String → Bool, (∀ name ∈ [], kept name = true) ∧ l.only kept = l ∧
    (fieldsKept ["channel_capacity", "max_concurrent_files"] l.fields kept).map
      (fun field => (field.1, field.2.flatten)) = l.members := by
  refine ⟨fun _ => true, List.forall_mem_nil _, rfl, ?_⟩
  simp [fieldsKept, fields, members]

theorem takesAnyOrder :
    TakesAnyOrder parse ["channel_capacity", "max_concurrent_files"] [] fields members only Fits :=
  .of_form fields_entries (fun _ => rfl) finish_kept exists_kept

end Limits

namespace Block

variable (b : Block)

theorem fields_entries (h : b.Fits) : form.Fields b.entries where
  toAdmits := b.admits_entries h
  slots := rfl
  distinct := by
    show ["file", "line", "data"].Nodup
    decide
  isFilled_update := by
    simp [entries, form, fields, Entry.zip]
  comm := by
    simp [entries, form, fields, Entry.zip]

theorem finish_kept (kept : String → Bool) :
    form.finish (Entry.updateAll (b.entries.filter fun e => kept e.slot.name) form.blank) =
      if ["file", "line", "data"].all kept then some b else none := by
  cases hf : kept "file" <;> cases hl : kept "line" <;> cases hd : kept "data" <;>
    simp [entries, form, fields, Entry.zip, Entry.updateAll, hf, hl, hd]

theorem exists_kept : ∃ kept : String → Bool,
    (∀ name ∈ ["file", "line", "data"], kept name = true) ∧ b = b ∧
      (fieldsKept ["file", "line", "data"] b.fields kept).map
        (fun field => (field.1, field.2.flatten)) = b.members := by
  refine ⟨fun _ => true, fun _ _ => rfl, rfl, ?_⟩
  simp [fieldsKept, fields, members, flatten_listOf_singles]

theorem takesAnyOrder :
    TakesAnyOrder parse ["file", "line", "data"] ["file", "line", "data"] fields members
      (fun b _ => b) Fits :=
  .of_form fields_entries (fun _ => rfl) finish_kept exists_kept

end Block

/-- Selections, limits and blocks are read from objects with their members in any order, whatever
members of other names stand between them. What may be left out is then empty or the standard. An
object without the language of a selection, without a field of a block, or with any field given
twice is mistyped. -/
theorem json_any_order :
    TakesAnyOrder Selection.parse ["paths", "lang", "encoding", "recursive", "exts"] ["lang"]
        Selection.fields Selection.members Selection.only (fun _ => True) ∧
      TakesAnyOrder Limits.parse ["channel_capacity", "max_concurrent_files"] [] Limits.fields
        Limits.members Limits.only Limits.Fits ∧
      TakesAnyOrder Block.parse ["file", "line", "data"] ["file", "line", "data"] Block.fields
        Block.members (fun b _ => b) Block.Fits :=
  ⟨Selection.takesAnyOrder, Limits.takesAnyOrder, Block.takesAnyOrder⟩

theorem json_any_order_sample :
    Selection.parse (" \x7b\n\"x\":[1e999,\x7b\"lang\":\"\\ud800\"\x7d],\"recursive\":true," ++
        "\"l\\u0061ng\":\"go\",\"paths\":[\"a\"]\x7d\n") = .ok ⟨["a"], "go", none, true, []⟩ ∧
      Limits.parse "\x7b\"max_concurrent_files\":1\x7d" = .ok ⟨500, 1⟩ ∧
      Block.parse "\x7b\"line\":1,\"file\":\"a\"\x7d" = .error .mistyped ∧
      Block.parse "\x7b\"line\":1,\"line\":2\x7d" = .error .mistyped := by
  obtain ⟨hselection, hlimits, hblock⟩ := json_any_order
  refine ⟨?_, ?_, ?_, ?_⟩
  · have hnumber : IsValue ["1e999".toList] := by
      have hwhole : IsWhole ['1'] := ⟨List.all_eq_true.mp rfl, by decide, by simp⟩
      have hdigits : IsDigits "999".toList := ⟨List.all_eq_true.mp rfl, by decide⟩
      exact .number (.parts (.inl rfl) hwhole .none (.some (.inl rfl) (.inl rfl) hdigits))
    have hobject : IsValue (objectOf ([("lang".toList, [quoted "\\ud800".toList])].map
        fun m => entry m.1 m.2)) := by
      have hcode : Code "d800".toList (13 * 4096 + 8 * 256 + 0 * 16 + 0) := .digits rfl rfl rfl rfl
      refine .object (List.forall_mem_singleton.mpr ?_) (List.forall_mem_singleton.mpr ?_)
      · exact (Spells.self (t := "lang".toList) rfl).isContent
      · exact .string (.code hcode .nil)
    have hvalue : IsValue (listOf [["1e999".toList], _]) :=
      .list (List.forall_mem_cons.mpr ⟨hnumber, List.forall_mem_singleton.mpr hobject⟩)
    have hkey : Spells "l\\u0061ng".toList "lang".toList := by
      have hcode : Code "0061".toList (0 * 4096 + 0 * 256 + 6 * 16 + 1) := .digits rfl rfl rfl rfl
      have hrest : Spells "ng".toList "ng".toList := .self rfl
      exact .plain (by decide) (by decide) (by decide) (.code hcode rfl rfl hrest)
    have hm : Strewn ["paths", "lang", "encoding", "recursive", "exts"]
        [("recursive", [writeBool true]), ("lang", [writeText "go"]),
          ("paths", listOf [[writeText "a"]])]
        [entry "x".toList (listOf [["1e999".toList], _]), entry "recursive".toList [writeBool true],
          entry "l\\u0061ng".toList [writeText "go"],
          entry "paths".toList (listOf [[writeText "a"]])] :=
      .other (.self rfl) (by decide) hvalue
        (.field (.self rfl) (.field hkey
          (.field (.self rfl) .nil)))
    have hblank : isBlank ' ' = true ∧ isBlank '\n' = true := by decide
    exact hselection.parse_given ⟨["a"], "go", some "utf-8", true, ["rs"]⟩ trivial
      (fun name => name != "encoding" && name != "exts") (by decide) _ (by decide) _
      (.object hm (.cons (List.forall_mem_singleton.mpr hblank.1) _
        (.cons (List.forall_mem_singleton.mpr hblank.2) _ (spaced_flatten _)))
        (List.forall_mem_singleton.mpr hblank.2))
  · have hm : Strewn ["channel_capacity", "max_concurrent_files"]
        [("max_concurrent_files", [writeNat 1])]
        [entry "max_concurrent_files".toList [writeNat 1]] :=
      .field (.self rfl) .nil
    exact hlimits.parse_given ⟨7, 1⟩ ⟨by decide, by decide⟩ (· != "channel_capacity")
      (List.forall_mem_nil _) _ (.refl _) _ (.object hm (spaced_flatten _) (List.forall_mem_nil _))
  · have hm : Strewn ["file", "line", "data"] [("line", [writeNat 1]), ("file", [writeText "a"])]
        [entry "line".toList [writeNat 1], entry "file".toList [writeText "a"]] :=
      .field (.self rfl) (.field (.self rfl) .nil)
    exact hblock.parse_lacking ⟨"a", 1, []⟩ (show 1 < wordValues by decide) (· != "data") "data"
      (by decide) rfl _ (.swap _ _ _) _ (.object hm (spaced_flatten _) (List.forall_mem_nil _))
  · have hm : Strewn ["file", "line", "data"] [("line", [writeNat 1]), ("line", [writeNat 2])]
        [entry "line".toList [writeNat 1], entry "line".toList [writeNat 2]] :=
      .field (.self rfl) (.field (.self rfl) .nil)
    exact hblock.parse_twice ⟨"a", 1, []⟩ (show 1 < wordValues by decide) (· == "line")
      [("line", _)] (.refl _) "line" (by decide) _ [] _
      (.object hm (spaced_flatten _) (List.forall_mem_nil _))

end CommentBlocks
