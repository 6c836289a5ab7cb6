import CommentBlocks.Message.Translator
import Mathlib.Data.List.Induction

namespace CommentBlocks.Translator

inductive Change
  | add (tag : String) (book : Phrasebook)
  | select (tag : String)

def Change.make (t : Translator) : Change → Translator
  | add tag book => t.add tag book
  | select tag => t.select tag

def after (t : Translator) (changes : List Change) : Translator := changes.foldl Change.make t

def Change.book? (tag : String) : Change → Option Phrasebook
  | add tag' book => if tag = tag' then some book else none
  | select _ => none

def lastBook? (history : List Change) (tag : String) : Option Phrasebook :=
  history.reverse.findSome? (Change.book? tag)

def Added (history : List Change) (tag : String) : Prop := ∃ book, .add tag book ∈ history

/-- The changes that make a translator out of the empty one, for those that there are without any
change. -/
inductive Origin : Translator → List Change → Prop
  | ofEmpty : Origin empty []
  | ofBuiltin : Origin builtin
      [.add "en" fun p => some p.english, .add "zh-Hans" fun p => some p.simplifiedChinese]

theorem lookup_cons_ite (tag t : String) (book : Phrasebook) (books : List (String × Phrasebook)) :
    ((t, book) :: books).lookup tag = if tag = t then some book else books.lookup tag := by
  by_cases h : tag = t <;> simp [List.lookup_cons, h, beq_eq_false_iff_ne.mpr]

theorem lookup_put (tag : String) (book : Phrasebook) (books : List (String × Phrasebook))
    (tag' : String) :
    (put tag book books).lookup tag' = if tag' = tag then some book else books.lookup tag' := by
  induction books with
  | nil => rw [put, lookup_cons_ite]
  | cons entry rest ih =>
    obtain ⟨t, b⟩ := entry
    rw [put]
    by_cases hlt : tag < t
    · rw [if_pos hlt, lookup_cons_ite]
    · rw [if_neg hlt]
      by_cases heq : tag = t
      · rw [if_pos heq, lookup_cons_ite, lookup_cons_ite, heq]
        split <;> rfl
      · rw [if_neg heq, lookup_cons_ite, lookup_cons_ite, ih]
        by_cases h : tag' = t
        · have hn : tag' ≠ tag := fun hn => heq (hn.symm.trans h)
          rw [if_pos h, if_neg hn, if_pos h]
        · rw [if_neg h, if_neg h]

theorem mem_put {tag : String} {book : Phrasebook} {books : List (String × Phrasebook)}
    {e : String × Phrasebook} (h : e ∈ put tag book books) : e = (tag, book) ∨ e ∈ books := by
  induction books with
  | nil => exact .inl (List.mem_singleton.mp h)
  | cons entry rest ih =>
    obtain ⟨t, b⟩ := entry
    unfold put at h
    split_ifs at h with hlt heq
    · exact List.mem_cons.mp h
    · exact (List.mem_cons.mp h).imp_right (List.mem_cons_of_mem _)
    · obtain rfl | h := List.mem_cons.mp h
      · exact .inr List.mem_cons_self
      · exact (ih h).imp_right (List.mem_cons_of_mem _)

theorem pairwise_put {tag : String} {book : Phrasebook} {books : List (String × Phrasebook)}
    (h : books.Pairwise (·.1 < ·.1)) : (put tag book books).Pairwise (·.1 < ·.1) := by
  induction books with
  | nil => exact List.pairwise_singleton _ _
  | cons entry rest ih =>
    obtain ⟨t, b⟩ := entry
    obtain ⟨hfirst, hrest⟩ := List.pairwise_cons.mp h
    unfold put
    split_ifs with hlt heq
    · refine List.pairwise_cons.mpr ⟨List.forall_mem_cons.mpr ⟨hlt, fun e he => ?_⟩, h⟩
      exact String.lt_trans hlt (hfirst e he)
    · exact List.pairwise_cons.mpr ⟨heq ▸ hfirst, hrest⟩
    · refine List.pairwise_cons.mpr ⟨fun e he => ?_, ih hrest⟩
      obtain rfl | he := mem_put he
      · exact Std.lt_of_le_of_ne (String.not_lt.mp hlt) (Ne.symm heq)
      · exact hfirst e he

theorem isSome_lookup_iff {tag : String} {books : List (String × Phrasebook)} :
    (books.lookup tag).isSome = true ↔ tag ∈ books.map Prod.fst := by
  induction books with
  | nil => simp
  | cons entry rest ih =>
    obtain ⟨t, b⟩ := entry
    rw [lookup_cons_ite, List.map_cons, List.mem_cons, ← ih]
    by_cases h : tag = t <;> simp [h]

theorem lookup_eq_none_of_lt {tag : String} {books : List (String × Phrasebook)}
    (h : ∀ e ∈ books, tag < e.1) : books.lookup tag = none := by
  refine Option.not_isSome_iff_eq_none.mp fun hs => ?_
  obtain ⟨e, he, rfl⟩ := List.mem_map.mp (isSome_lookup_iff.mp hs)
  exact String.lt_irrefl _ (h e he)

theorem eq_of_lookup {books books' : List (String × Phrasebook)}
    (h : books.Pairwise (·.1 < ·.1)) (h' : books'.Pairwise (·.1 < ·.1))
    (hl : ∀ tag, books.lookup tag = books'.lookup tag) : books = books' := by
  induction books generalizing books' with
  | nil =>
    cases books' with
    | nil => rfl
    | cons entry' rest' =>
      obtain ⟨t', b'⟩ := entry'
      simpa [lookup_cons_ite] using hl t'
  | cons entry rest ih =>
    obtain ⟨t, b⟩ := entry
    obtain ⟨hfirst, hrest⟩ := List.pairwise_cons.mp h
    cases books' with
    | nil => simpa [lookup_cons_ite] using hl t
    | cons entry' rest' =>
      obtain ⟨t', b'⟩ := entry'
      obtain ⟨hfirst', hrest'⟩ := List.pairwise_cons.mp h'
      -- the lesser of two first tags would be found in one of the lists only
      have htag : t = t' := by
        by_contra hne
        by_cases hlt : t < t'
        · have hn : rest'.lookup t = none :=
            lookup_eq_none_of_lt fun e he => String.lt_trans hlt (hfirst' e he)
          simpa [lookup_cons_ite, hne, hn] using hl t
        · have hgt : t' < t := Std.lt_of_le_of_ne (String.not_lt.mp hlt) (Ne.symm hne)
          have hn : rest.lookup t' = none :=
            lookup_eq_none_of_lt fun e he => String.lt_trans hgt (hfirst e he)
          simpa [lookup_cons_ite, Ne.symm hne, hn] using hl t'
      subst htag
      have hbook : b = b' := by simpa [lookup_cons_ite] using hl t
      have htail : rest = rest' := by
        refine ih hrest hrest' fun tag => ?_
        by_cases ht : tag = t
        · rw [ht, lookup_eq_none_of_lt hfirst, lookup_eq_none_of_lt hfirst']
        · simpa [lookup_cons_ite, ht] using hl tag
      rw [hbook, htail]

section After

variable {t : Translator} {changes : List Change}

theorem after_append (t : Translator) (changes changes' : List Change) :
    t.after (changes ++ changes') = (t.after changes).after changes' := by
  simp [after]

theorem after_concat (t : Translator) (changes : List Change) (c : Change) :
    t.after (changes ++ [c]) = c.make (t.after changes) := after_append t changes [c]

theorem book?_make (t : Translator) (c : Change) (tag : String) :
    (c.make t).book? tag = (c.book? tag).or (t.book? tag) := by
  cases c with
  | add tag' book =>
    have h := lookup_put tag' book t.books tag
    by_cases ht : tag = tag' <;> simpa [Change.make, Change.book?, add, book?, ht] using h
  | select tag' => rfl

theorem book?_after (history : List Change) (tag : String) :
    (empty.after history).book? tag = lastBook? history tag := by
  induction history using List.reverseRecOn with
  | nil => rfl
  | append_singleton history c ih =>
    rw [after_concat, book?_make, ih, lastBook?, lastBook?, List.reverse_concat,
      List.findSome?_cons]
    cases c.book? tag <;> rfl

theorem pairwise_after (h : t.books.Pairwise (·.1 < ·.1)) :
    (t.after changes).books.Pairwise (·.1 < ·.1) := by
  induction changes using List.reverseRecOn with
  | nil => exact h
  | append_singleton changes c ih =>
    rw [after_concat]
    cases c with
    | add tag book => exact pairwise_put ih
    | select tag => exact ih

theorem isSome_lastBook?_iff {history : List Change} {tag : String} :
    (lastBook? history tag).isSome = true ↔ Added history tag := by
  simp only [lastBook?, List.findSome?_isSome_iff, List.mem_reverse, Added]
  constructor
  · rintro ⟨c, hc, hs⟩
    cases c with
    | add tag' book =>
      by_cases ht : tag = tag'
      · exact ⟨book, ht ▸ hc⟩
      · simp [Change.book?, ht] at hs
    | select tag' => simp [Change.book?] at hs
  · rintro ⟨book, hb⟩
    exact ⟨_, hb, by simp [Change.book?]⟩

theorem locale_after (h : ∀ tag, .select tag ∉ changes) : (t.after changes).locale = t.locale := by
  induction changes using List.reverseRecOn with
  | nil => rfl
  | append_singleton changes c ih =>
    have hi := ih fun tag hm => h tag (List.mem_append_left _ hm)
    rw [after_concat]
    cases c with
    | add tag book => exact hi
    | select tag => exact absurd (List.mem_append_right _ List.mem_cons_self) (h tag)

/-- The translators differ at most in the book that they have under the tag. -/
structure SameButFor (tag : String) (t t' : Translator) : Prop where
  locale : t.locale = t'.locale
  has : ∀ s, (t.book? s).isSome = (t'.book? s).isSome
  book : ∀ s, s ≠ tag → t.book? s = t'.book? s

variable {t' : Translator} {tag : String}

theorem SameButFor.make (h : SameButFor tag t t') (c : Change) :
    SameButFor tag (c.make t) (c.make t') where
  locale := by
    cases c with
    | add s book => exact h.locale
    | select s => simp only [Change.make, select, h.has s]
  has s := by rw [book?_make, book?_make, Option.isSome_or, Option.isSome_or, h.has s]
  book s hs := by rw [book?_make, book?_make, h.book s hs]

theorem SameButFor.after (h : SameButFor tag t t') (changes : List Change) :
    SameButFor tag (t.after changes) (t'.after changes) := by
  induction changes using List.reverseRecOn with
  | nil => exact h
  | append_singleton changes c ih =>
    rw [after_concat, after_concat]
    exact ih.make c

theorem sameButFor_add (t : Translator) (tag : String) (book book' : Phrasebook) :
    SameButFor tag (t.add tag book) (t.add tag book') where
  locale := rfl
  has s := by
    by_cases hs : s = tag <;> simp [add, book?, lookup_put, hs]
  book s hs := by simp [add, book?, lookup_put, hs]

theorem SameButFor.add_eq (h : SameButFor tag t t') (ht : t.books.Pairwise (·.1 < ·.1))
    (ht' : t'.books.Pairwise (·.1 < ·.1)) (book : Phrasebook) : t.add tag book = t'.add tag book := by
  have hb : put tag book t.books = put tag book t'.books := by
    refine eq_of_lookup (pairwise_put ht) (pairwise_put ht') fun s => ?_
    rw [lookup_put, lookup_put]
    split
    · rfl
    · next hs => exact h.book s hs
  rw [add, add, hb, h.locale]

theorem say_add (htag : tag ≠ t.locale) (hdefault : tag ≠ defaultLocale) (book : Phrasebook)
    (phrase : Phrase) (args : List String) : (t.add tag book).say phrase args = t.say phrase args := by
  have hkeep (s : String) (hs : s ≠ tag) : (t.add tag book).book? s = t.book? s := by
    simp [add, book?, lookup_put, hs]
  have hlocale : (t.add tag book).book? (t.add tag book).locale = t.book? t.locale :=
    hkeep t.locale (Ne.symm htag)
  have htemplate : (t.add tag book).template? phrase = t.template? phrase := by
    rw [template?, template?, hlocale, hkeep _ (Ne.symm hdefault)]
  rw [say, say, htemplate]

end After

theorem Origin.eq_after {base : Translator} {past : List Change} (h : Origin base past) :
    base = empty.after past := by
  cases h <;> rfl

/-- After any changes a translator speaks in the locale selected last, if a book had been added for
it by then, and in the default locale otherwise. It has the locales of all books added, in ascending
order, and says a phrase in the words of the book added last for its locale, or else for the default
locale, or by name. A book replaces the one before it as a whole, and changes nothing that is said
unless it is for one of these two locales. -/
theorem after_changes {base : Translator} {past : List Change} (hb : Origin base past)
    (changes : List Change) :
    let t := base.after changes
    let history := past ++ changes
    (∀ before tag later, history = before ++ .select tag :: later → (∀ s, .select s ∉ later) →
        (Added before tag → t.locale = tag) ∧ (¬ Added before tag → t.locale = defaultLocale)) ∧
      ((∀ tag, .select tag ∉ history) → t.locale = defaultLocale) ∧
      t.locales.Pairwise (· < ·) ∧ (∀ tag, tag ∈ t.locales ↔ Added history tag) ∧
      (∀ phrase args, t.say phrase args =
        match ((lastBook? history t.locale).bind (· phrase)).or
          ((lastBook? history defaultLocale).bind (· phrase)) with
        | some template => Template.fill template args
        | none => phrase.name) ∧
      (∀ tag old old' book between,
        (t.add tag old).after (between ++ [.add tag book]) =
          (t.add tag old').after (between ++ [.add tag book])) ∧
      ∀ tag book, tag ≠ t.locale → tag ≠ defaultLocale →
        ∀ phrase args, (t.add tag book).say phrase args = t.say phrase args := by
  intro t history
  have ht : t = empty.after history := by
    rw [after_append, ← hb.eq_after]
  have hbook (tag : String) : t.book? tag = lastBook? history tag := by rw [ht, book?_after]
  have hsorted : t.books.Pairwise (·.1 < ·.1) := by
    rw [ht]
    exact pairwise_after List.Pairwise.nil
  refine ⟨fun before tag later he hl => ?_, fun hn => ?_, List.pairwise_map.mpr hsorted,
    fun tag => ?_, fun phrase args => ?_, fun tag old old' book between => ?_,
    fun tag book htag hdef => say_add htag hdef book⟩
  · have hlocale : t.locale = if (lastBook? before tag).isSome then tag else defaultLocale := by
      rw [ht, he, List.append_cons, after_append, locale_after hl, after_concat, ← book?_after]
      rfl
    rw [hlocale, ← isSome_lastBook?_iff]
    exact ⟨fun ha => if_pos ha, fun ha => if_neg ha⟩
  · rw [ht]
    exact locale_after hn
  · rw [← isSome_lastBook?_iff, ← hbook, book?, isSome_lookup_iff, locales]
  · have htemplate : t.template? phrase = ((lastBook? history t.locale).bind (· phrase)).or
        ((lastBook? history defaultLocale).bind (· phrase)) := by
      rw [template?, hbook, hbook]
    exact congrArg (fun o : Option String => match o with
      | some template => Template.fill template args
      | none => phrase.name) htemplate
  · have hsame := (sameButFor_add t tag old old').after between
    have hs (b : Phrasebook) : ((t.add tag b).after between).books.Pairwise (·.1 < ·.1) :=
      pairwise_after (pairwise_put hsorted)
    rw [after_concat, after_concat]
    exact hsame.add_eq (hs old) (hs old') book

theorem after_changes_french :
    let past : List Change :=
      [.add "en" fun p => some p.english, .add "zh-Hans" fun p => some p.simplifiedChinese]
    let names : Phrasebook := fun p => some p.name
    let french : Phrasebook := fun p => if p = .required then some "\x7b0\x7d: requis" else none
    let t := builtin.after [.select "fr", .add "fr" names, .select "fr", .add "fr" french]
    Origin builtin past ∧ t.locale = "fr" ∧ t.locales = ["en", "fr", "zh-Hans"] ∧
      t.say .required ["\x7b0\x7d"] = "\x7b0\x7d: requis" ∧
      t.say .unclosed [] = "end marker not found" := by
  intro past names french t
  obtain ⟨hlocale, -, -, -, hsay, -⟩ :=
    after_changes .ofBuiltin [.select "fr", .add "fr" names, .select "fr", .add "fr" french]
  have hadded : Added (past ++ [.select "fr", .add "fr" names]) "fr" := ⟨names, by simp⟩
  have hl : t.locale = "fr" := (hlocale _ "fr" [.add "fr" french] rfl (by simp)).1 hadded
  rw [show (builtin.after _).locale = "fr" from hl] at hsay
  exact ⟨.ofBuiltin, hl, by decide, (hsay _ _).trans (by cbv), (hsay _ _).trans (by cbv)⟩

end CommentBlocks.Translator
