import CommentBlocks.Language.Standard
import Mathlib.Data.List.Induction
import Mathlib.Data.List.Nodup

namespace CommentBlocks

def letters (s : String) : List Char := s.toList.map Char.toLower

theorem sameLetters_iff {s t : String} : sameLetters s t = true ↔ letters s = letters t :=
  beq_iff_eq

theorem sameLetters_eq_false_iff {s t : String} :
    sameLetters s t = false ↔ letters s ≠ letters t := by
  rw [← Bool.not_eq_true, ne_eq, sameLetters_iff]

theorem sameLetters_congr {s t : String} (h : sameLetters s t = true) (u : String) :
    sameLetters s u = sameLetters t u := by
  rw [Bool.eq_iff_iff, sameLetters_iff, sameLetters_iff, sameLetters_iff.mp h]

namespace Languages

theorem find?_put (new : Language) (ls : List Language) (id : String) :
    (put new ls).find? (sameLetters ·.id id) =
      if sameLetters new.id id then some new else ls.find? (sameLetters ·.id id) := by
  induction ls with
  | nil => cases h : sameLetters new.id id <;> simp [put, h]
  | cons l rest ih =>
    cases hl : sameLetters l.id new.id with
    | true =>
      -- the language that is replaced was found for the same identifiers
      have hc := sameLetters_congr hl id
      cases h : sameLetters new.id id <;> simp [put, hl, hc, h]
    | false =>
      cases hd : sameLetters l.id id with
      | true =>
        have hn : sameLetters new.id id = false := by
          rw [sameLetters_eq_false_iff, ← sameLetters_iff.mp hd]
          exact (sameLetters_eq_false_iff.mp hl).symm
        simp [put, hl, hd, hn]
      | false => simpa [put, hl, hd] using ih

theorem map_letters_put (new : Language) (ls : List Language) :
    (put new ls).map (letters ·.id) =
      ls.map (letters ·.id) ++
        if letters new.id ∈ ls.map (letters ·.id) then [] else [letters new.id] := by
  induction ls with
  | nil => simp [put]
  | cons l rest ih =>
    cases hl : sameLetters l.id new.id with
    | true => simp [put, hl, sameLetters_iff.mp hl]
    | false =>
      have hn : letters new.id ≠ letters l.id := (sameLetters_eq_false_iff.mp hl).symm
      rw [put, hl, if_neg Bool.false_ne_true, List.map_cons, ih, List.map_cons, List.cons_append]
      simp only [List.mem_cons, hn, false_or]

theorem ofList_concat (history : List Language) (new : Language) :
    ofList (history ++ [new]) = (ofList history).add new := by
  simp [ofList]

theorem find?_ofList (history : List Language) (id : String) :
    (ofList history).find? id = history.reverse.find? (sameLetters ·.id id) := by
  induction history using List.reverseRecOn with
  | nil => rfl
  | append_singleton history new ih =>
    rw [ofList_concat, find?, add, find?_put, List.reverse_concat, List.find?_cons]
    cases sameLetters new.id id with
    | true => rfl
    | false => exact ih

theorem eraseDups_concat {α : Type} [BEq α] [LawfulBEq α] (xs : List α) (x : α) :
    (xs ++ [x]).eraseDups = xs.eraseDups ++ if x ∈ xs then [] else [x] := by
  rw [List.eraseDups_append, List.removeAll]
  by_cases hx : x ∈ xs <;> simp [hx, List.eraseDups_cons]

theorem map_letters_ids (ls : Languages) : ls.ids.map letters = ls.all.map (letters ·.id) := by
  rw [ids, List.map_map]
  rfl

theorem map_letters_ofList (history : List Language) :
    (ofList history).ids.map letters = (history.map (letters ·.id)).eraseDups := by
  rw [map_letters_ids]
  induction history using List.reverseRecOn with
  | nil => rfl
  | append_singleton history new ih =>
    rw [ofList_concat, add, map_letters_put, ih, List.map_append, List.map_singleton,
      eraseDups_concat]
    simp only [List.mem_eraseDups]

theorem nodup_letters (history : List Language) : ((ofList history).ids.map letters).Nodup := by
  rw [map_letters_ids]
  induction history using List.reverseRecOn with
  | nil => exact List.nodup_nil
  | append_singleton history new ih =>
    rw [ofList_concat, add, map_letters_put]
    split
    · rwa [List.append_nil]
    · next h => exact List.nodup_append.mpr ⟨ih, List.pairwise_singleton _ _, by simpa using h⟩

/-- Of all that has been added, `l` is the last with these letters in its identifier. -/
def IsLatest (history : List Language) (id : String) (l : Language) : Prop :=
  ∃ before after, history = before ++ l :: after ∧ sameLetters l.id id = true ∧
    ∀ m ∈ after, sameLetters m.id id = false

theorem find?_ofList_eq_some_iff {history : List Language} {id : String} {l : Language} :
    (ofList history).find? id = some l ↔ IsLatest history id l := by
  rw [find?_ofList, List.find?_eq_some_iff_append]
  constructor
  · rintro ⟨hl, after, before, hr, ha⟩
    refine ⟨before.reverse, after.reverse, ?_, hl, fun m hm => ?_⟩
    · simpa using congrArg List.reverse hr
    · simpa using ha m (List.mem_reverse.mp hm)
  · rintro ⟨before, after, rfl, hl, ha⟩
    refine ⟨hl, after.reverse, before.reverse, by simp, fun m hm => ?_⟩
    simp [ha m (List.mem_reverse.mp hm)]

theorem find?_ofList_eq_none_iff {history : List Language} {id : String} :
    (ofList history).find? id = none ↔ ∀ l ∈ history, sameLetters l.id id = false := by
  simp [find?_ofList]

theorem find?_id {history : List Language} {l : Language} (hl : l ∈ (ofList history).all) :
    (ofList history).find? l.id = some l := by
  have hn := nodup_letters history
  rw [map_letters_ids] at hn
  unfold find?
  cases hm : (ofList history).all.find? (sameLetters ·.id l.id) with
  | none => exact absurd (sameLetters_iff.mpr rfl) (List.find?_eq_none.mp hm l hl)
  | some m =>
    have hs : sameLetters m.id l.id = true := by simpa using List.find?_some hm
    rw [List.inj_on_of_nodup_map hn (List.mem_of_find?_eq_some hm) hl (sameLetters_iff.mp hs)]

theorem foldl_add_ofList (history new : List Language) :
    new.foldl add (ofList history) = ofList (history ++ new) := by
  rw [ofList, ofList, List.foldl_append]

theorem standard_eq : standard = ofList standard.all :=
  congrArg Languages.mk (by decide +kernel)

/-- Whatever is added to no languages or to the standard ones, no two identifiers have the same
letters. An identifier is that of the language added last with its letters, and the identifiers
stand in the order in which their letters were added first, each as it was spelled last. -/
theorem registered {base : Languages} (hb : base = empty ∨ base = standard)
    (new : List Language) :
    let ls := new.foldl add base
    let history := base.all ++ new
    (ls.ids.Pairwise fun id id' => sameLetters id id' = false) ∧
      (∀ id l, ls.find? id = some l ↔ IsLatest history id l) ∧
      (∀ id, ls.find? id = none ↔ ∀ l ∈ history, sameLetters l.id id = false) ∧
      ls.ids.map letters = (history.map (letters ·.id)).eraseDups ∧
      (∀ id ∈ ls.ids, ∃ l, IsLatest history id l ∧ l.id = id) ∧
      ∀ l id, sameLetters l.id id = false → (ls.add l).find? id = ls.find? id := by
  intro ls history
  have hbase : base = ofList base.all := by
    obtain rfl | rfl := hb
    · rfl
    · exact standard_eq
  have hls : ls = ofList history := by
    rw [← foldl_add_ofList, ← hbase]
  rw [hls]
  refine ⟨?_, fun id l => find?_ofList_eq_some_iff, fun id => find?_ofList_eq_none_iff,
    map_letters_ofList history, fun id hid => ?_, fun l id hd => ?_⟩
  · have hn := List.pairwise_map.mp (nodup_letters history)
    exact hn.imp fun h => sameLetters_eq_false_iff.mpr h
  · obtain ⟨l, hl, rfl⟩ := List.mem_map.mp hid
    exact ⟨l, find?_ofList_eq_some_iff.mp (find?_id hl), rfl⟩
  · rw [find?, add, find?_put, hd]
    rfl

theorem registered_respelled :
    let go : Language := ⟨"GO", "Go with templates", ["go", "tmpl"], []⟩
    let zig : Language := ⟨"Zig", "Zig", ["zig"], []⟩
    let ls := [go, ⟨"zig", "zig", [], []⟩, zig].foldl add standard
    (standard = empty ∨ standard = standard) ∧
      ls.find? "gO" = some go ∧ ls.find? "ZIG" = some zig ∧ ls.find? "cobol" = none ∧
      ls.ids.drop 16 = ["lua", "Zig"] ∧ ls.ids[3]? = some "GO" := by
  intro go zig ls
  have hb : standard = empty ∨ standard = standard := .inr rfl
  obtain ⟨-, hfind, hnone, -⟩ := registered hb [go, ⟨"zig", "zig", [], []⟩, zig]
  refine ⟨hb, (hfind "gO" go).mpr ?_, (hfind "ZIG" zig).mpr ?_,
    (hnone "cobol").mpr (by decide +kernel), by decide +kernel, by decide +kernel⟩
  · exact ⟨standard.all, [⟨"zig", "zig", [], []⟩, zig], rfl, by decide, by decide⟩
  · exact ⟨standard.all ++ [go, ⟨"zig", "zig", [], []⟩], [], by simp, by decide, nofun⟩

end Languages

end CommentBlocks
