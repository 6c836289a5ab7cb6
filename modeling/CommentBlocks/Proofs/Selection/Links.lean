import CommentBlocks.Proofs.Disk.Leads
import CommentBlocks.Proofs.Selection.Directory
import CommentBlocks.Proofs.Selection.Spellings

namespace CommentBlocks

open CommentBlocks.Path Disk

namespace Selection

def NamesDirectories (s : Selection) (d : Disk) : Prop :=
  ∀ entry ∈ s.paths, isGlob entry = false ∧ ∃ inner, d.lookup entry = .ok (.directory inner)

def Stopped (s : Selection) (d : Disk) (entry : String) (e : WalkError) : Prop :=
  components entry ≠ [.name "-"] ∧ ∃ place loc, d.resolve entry = .ok place ∧
    d.Stuck skipNone (.start (if s.recursive then none else some 1) entry place) loc e

/-- A file lies below the directory that the entry names: in its tree, or where names behind the
entry lead through links. -/
inductive FileBelow (d : Disk) (entry : String) (loc : Location) : Prop
  | tree {place data} (hr : d.resolve entry = .ok place)
    (hf : d.root.get? (place ++ loc) = some (.file data)) : FileBelow d entry loc
  | linked {data} (hn : ∀ name ∈ loc, IsName name)
    (hf : d.lookup (below entry loc) = .ok (.file data)) : FileBelow d entry loc

variable {s : Selection} {d : Disk} {language : Language} {entry name : String} {loc : Location}
  {inner : List (String × Node)}

theorem FileBelow.isName (h : FileBelow d entry loc) : ∀ name ∈ loc, IsName name := by
  cases h with
  | tree _ hf => exact fun name hm => d.named.isName_of_get? hf name (List.mem_append_right _ hm)
  | linked hn => exact hn

theorem FileBelow.listed_or_stuck (h : FileBelow d entry loc) (hne : loc ≠ []) {place : Location}
    (hr : d.resolve entry = .ok place) :
    d.Listed skipNone (.start none entry place) loc ∨
      ∃ loc' e, d.Stuck skipNone (.start none entry place) loc' e := by
  cases h with
  | tree hr' hf =>
    obtain rfl := Except.ok.inj (hr.symm.trans hr')
    exact Disk.listed_or_stuck entersAll_skipNone hne hf (by simp [Visit.start]) rfl
  | linked hn hf =>
    obtain ⟨target, ht, hf⟩ := lookup_eq_ok_iff.mp hf
    exact listed_or_stuck_of_follow entersAll_skipNone (by simp [Visit.start]) (exists_leads hr) hne
      hn (follow_of_locate_below hne hn (locate_of_resolve ht)) hf rfl

theorem entryFiles_stopped_or_ok (s : Selection) (language : Language)
    (hg : isGlob entry = false) (hl : d.lookup entry = .ok (.directory inner)) :
    (∃ e, s.entryFiles d language entry = .error (.walk e) ∧ s.Stopped d entry e) ∨
      (∃ files, s.entryFiles d language entry = .ok files ∧ (∀ e, ¬s.Stopped d entry e) ∧
        (components entry ≠ [.name "-"] → ∀ place, d.resolve entry = .ok place → ∀ loc,
          d.Listed skipNone (.start (if s.recursive then none else some 1) entry place) loc →
          s.wants language (below entry loc) = true → below entry loc ∈ files)) := by
  obtain ⟨place, hr, hd⟩ := lookup_eq_ok_iff.mp hl
  by_cases hs : components entry = [.name "-"]
  · refine .inr ⟨[], (entryFiles_directory_eq_ok_iff hg hl).mpr ⟨[], ?_, rfl⟩,
      fun e h => h.1 hs, fun h => absurd hs h⟩
    rw [walk, if_pos hs]
  · have hlevels : (if s.recursive then none else some 1) ≠ some 0 := by
      cases s.recursive <;> simp
    have ho : d.Outcome skipNone (.start (if s.recursive then none else some 1) entry place)
        (fun _ => True) (d.walk skipNone (if s.recursive then none else some 1) entry) :=
      outcome_walk hlevels hs hr hd
    have hresult : s.entryFiles d language entry = _ := entryFiles_directory hg hl
    generalize d.walk skipNone (if s.recursive then none else some 1) entry = result at ho hresult
    cases ho with
    | stuck _ h => exact .inl ⟨_, hresult, hs, place, _, hr, h⟩
    | @listed locs free _ mem =>
      refine .inr ⟨_, hresult, ?_, fun _ place' hr' loc h hwant => ?_⟩
      · rintro e ⟨-, place', loc, hr', h⟩
        obtain rfl := Except.ok.inj (hr.symm.trans hr')
        obtain ⟨n, back, rfl, -⟩ := h.exists_child hd
        exact free n back e trivial h
      · obtain rfl := Except.ok.inj (hr.symm.trans hr')
        obtain ⟨n, back, rfl, -⟩ := h.exists_child hd
        have hm := (mem _).mpr ⟨n, back, trivial, rfl, h⟩
        exact List.mem_filter.mpr ⟨List.mem_map_of_mem hm, hwant⟩

theorem below_mem_entryFiles (hg : isGlob entry = false)
    (hl : d.lookup entry = .ok (.directory inner)) (hs : components entry ≠ [.name "-"])
    (hrec : s.recursive = true) {files : List String}
    (hf : s.entryFiles d language entry = .ok files) {front : Location}
    (hfile : FileBelow d entry (front ++ [name])) (hwant : s.Wanted language name) :
    below entry (front ++ [name]) ∈ files := by
  obtain ⟨place, hr, -⟩ := lookup_eq_ok_iff.mp hl
  rcases entryFiles_stopped_or_ok s language hg hl with ⟨e, he, -⟩ | ⟨files', hf', hst, hall⟩
  · simp [hf] at he
  · obtain rfl := Except.ok.inj (hf.symm.trans hf')
    refine hall hs place hr _ ?_ ?_
    · rcases hfile.listed_or_stuck (by simp) hr with hli | ⟨loc, e, h⟩
      · simpa [hrec] using hli
      · exact absurd ⟨hs, place, loc, hr, by simpa [hrec] using h⟩ (hst e)
    · rw [below_concat, wants_join_iff _ (hfile.isName name (by simp))]
      exact hwant

end Selection

namespace Plan

open Selection

variable {d : Disk} {ls : Languages} {s : Selection}

theorem exists_plan_iff_not_stopped (hs : s.NamesDirectories d)
    {charset : Option Charset} (hc : charset? s.encoding = .ok charset) {language : Language}
    (hl : language? ls s.language = .ok language) :
    (∃ plan, ofSelection d ls s = .ok plan) ↔ ∀ entry ∈ s.paths, ∀ e, ¬s.Stopped d entry e := by
  have hplan : (∃ plan, ofSelection d ls s = .ok plan) ↔
      ∃ cands, s.candidates d language s.paths = .ok cands := by
    constructor
    · rintro ⟨plan, h⟩
      obtain ⟨-, hl', cands, hp, -⟩ := ofSelection_eq_ok_iff.mp h
      obtain rfl := Except.ok.inj (hl.symm.trans hl')
      exact ⟨cands, hp⟩
    · rintro ⟨cands, hp⟩
      exact ⟨⟨_, charset, language⟩, ofSelection_eq_ok_iff.mpr ⟨hc, hl, cands, hp, rfl⟩⟩
  rw [hplan, exists_candidates_iff]
  refine forall₂_congr fun entry hm => ?_
  obtain ⟨hg, inner, hd⟩ := hs entry hm
  rcases entryFiles_stopped_or_ok s language hg hd with ⟨e, he, hst⟩ | ⟨files, hf, hst, -⟩
  · exact ⟨fun ⟨files, hf⟩ => by simp [he] at hf, fun h => absurd hst (h e)⟩
  · exact ⟨fun _ => hst, fun _ => ⟨files, hf⟩⟩

/-- A selection of directories makes a plan if and only if no walk is stopped, and where every link
leads somewhere, only a loop or a limit stops one. Every file below a directory that is entered to
any depth is then in the plan once, under the first of its spellings, if it has a wanted name. -/
theorem ofSelection_directories (hlinks : d.LinksLead) (hs : s.NamesDirectories d)
    {charset : Option Charset} (hc : charset? s.encoding = .ok charset) {language : Language} (hl : language? ls s.language = .ok language) :
    ((∃ plan, ofSelection d ls s = .ok plan) ↔ ∀ entry ∈ s.paths, ∀ e, ¬s.Stopped d entry e) ∧
    (∀ entry ∈ s.paths, ∀ e, s.Stopped d entry e → (∃ child ancestor, e = .loop child ancestor) ∨
      ∃ child, e = .unreadable child (.system .nameTooLong) ∨
        e = .unreadable child (.system .tooManyLinks)) ∧
    ∀ plan, ofSelection d ls s = .ok plan → s.recursive = true → ∀ entry ∈ s.paths,
      components entry ≠ [.name "-"] → ∀ front name, FileBelow d entry (front ++ [name]) →
        s.Wanted language name →
        (plan.files.map d.identity).count (d.identity (below entry (front ++ [name]))) = 1 := by
  refine ⟨exists_plan_iff_not_stopped hs hc hl, ?_, ?_⟩
  · rintro entry - e ⟨-, place, loc, hr, h⟩
    exact h.cause hlinks (exists_leads hr)
  · intro plan h hrec entry hm hne front name hfile hwant
    obtain ⟨-, hl', cands, hp, hf⟩ := ofSelection_eq_ok_iff.mp h
    obtain rfl := Except.ok.inj (hl.symm.trans hl')
    obtain ⟨hg, inner, hd⟩ := hs entry hm
    obtain ⟨files, hfiles⟩ := exists_candidates_iff.mp ⟨cands, hp⟩ entry hm
    have hin : below entry (front ++ [name]) ∈ files :=
      below_mem_entryFiles hg hd hne hrec hfiles hfile hwant
    have hcand := subset_candidates hp hm hfiles hin
    apply List.count_eq_one_of_mem
    · rw [← hf]
      exact nodup_map_firstSpellings [] cands
    · rw [← hf]
      exact identity_mem_firstSpellings hcand

def ring : Disk where
  root := .directory
    [("d", .directory [("a.rs", .file []), ("loop", .link ".")]),
     ("e", .directory [("b.rs", .link "../d/a.rs")])]
  working := []
  named := by
    have hn : ∀ name ∈ ["d", "a.rs", "loop", "e", "b.rs"], IsName name := by decide
    simp_all [Node.wellNamed_directory_iff, Node.wellNamed_file, Node.wellNamed_link]

def ringLanguage : Language := ⟨"rust", "Rust", ["rs"], []⟩

def ringSelection (entry : String) : Selection := ⟨[entry], "rust", none, true, []⟩

theorem follow_ring (links : Nat) : ring.follow (links + 1) ["d"] [.name "loop"] = .ok ["d"] ∧
    ring.follow (links + 1) ["e"] [.name "b.rs"] = .ok ["d", "a.rs"] := by
  have hd : ring.root.get? ["d"] = some (.directory _) := rfl
  have he : ring.root.get? ["e"] = some (.directory _) := rfl
  have ha : ring.root.get? ([] ++ ["d", "a.rs"]) = some (.file []) := rfl
  have hloop : ring.root.get? (["d"] ++ ["loop"]) = some (.link ".") := rfl
  have hb : ring.root.get? (["e"] ++ ["b.rs"]) = some (.link "../d/a.rs") := rfl
  have hdot : Spells "." [.here] := by decide
  have hup : Spells "../d/a.rs" (.up :: ["d", "a.rs"].map .name) := by decide
  constructor
  · rw [follow_link hloop hdot, List.singleton_append, follow_here hd, follow_nil]
  · rw [follow_link hb hup, List.cons_append, follow_up he]
    exact (follow_names ha (by simp) []).trans follow_nil

theorem linksLead_ring : ring.LinksLead := by
  have hlinks : ∀ loc target, ring.root.get? loc = some (.link target) →
      loc = ["d", "loop"] ∨ loc = ["e", "b.rs"] := by
    intro loc target h
    obtain _ | ⟨x, _ | ⟨y, _ | ⟨z, rest⟩⟩⟩ := loc <;>
      simp only [ring, Node.get?, Node.child?_cons] at h <;>
      grind [Node.child?, Node.get?]
  intro place name target h
  rcases hlinks _ _ h with hl | hl
  · obtain ⟨rfl, rfl⟩ : place = ["d"] ∧ name = "loop" := List.append_singleton_inj.mp hl
    exact ⟨_, (follow_ring _).1⟩
  · obtain ⟨rfl, rfl⟩ : place = ["e"] ∧ name = "b.rs" := List.append_singleton_inj.mp hl
    exact ⟨_, (follow_ring _).2⟩

theorem resolve_ring : ring.resolve "d" = .ok ["d"] ∧ ring.resolve "d/loop" = .ok ["d"] ∧
    ring.resolve "e" = .ok ["e"] ∧ ring.resolve "e/b.rs" = .ok ["d", "a.rs"] := by
  obtain ⟨hloop, hb⟩ := follow_ring 39
  have hd : ring.root.get? ([] ++ ["d"]) = some (.directory _) := rfl
  have he : ring.root.get? ([] ++ ["e"]) = some (.directory _) := rfl
  have hdl : Spells "d/loop" [.name "d", .name "loop"] := by decide
  have heb : Spells "e/b.rs" [.name "e", .name "b.rs"] := by decide
  refine ⟨resolve_names ["d"] (by decide) rfl (by simp), ?_,
    resolve_names ["e"] (by decide) rfl (by simp), ?_⟩
  · exact hdl.resolve_eq_ok ((follow_name hd (by simp) _).trans hloop)
  · exact heb.resolve_eq_ok ((follow_name he (by simp) _).trans hb)

theorem namesDirectories_ring :
    (ringSelection "d").NamesDirectories ring ∧ (ringSelection "e").NamesDirectories ring := by
  obtain ⟨hd, -, he, -⟩ := resolve_ring
  constructor
  · intro entry hm
    obtain rfl := List.mem_singleton.mp hm
    exact ⟨by decide, _, lookup_eq_ok_iff.mpr ⟨_, hd, rfl⟩⟩
  · intro entry hm
    obtain rfl := List.mem_singleton.mp hm
    exact ⟨by decide, _, lookup_eq_ok_iff.mpr ⟨_, he, rfl⟩⟩

theorem language?_ring : language? ⟨[ringLanguage]⟩ "rust" = .ok ringLanguage :=
  language?_only (by decide) (by decide)

theorem stopped_ring : (ringSelection "d").Stopped ring "d" (.loop "d/loop" "d") := by
  obtain ⟨hd, hloop, -⟩ := resolve_ring
  have hs : ring.Stops skipNone (.start none "d" ["d"]) "loop" (.loop "d/loop" (["d"], "d").2) :=
    .loop rfl hloop rfl rfl
  exact ⟨by decide, ["d"], ["loop"], hd, .here hs⟩

theorem ofSelection_ring :
    ofSelection ring ⟨[ringLanguage]⟩ (ringSelection "e") =
      .ok ⟨["e/b.rs"], none, ringLanguage⟩ := by
  obtain ⟨-, -, he, hlink⟩ := resolve_ring
  have hs : components "e" ≠ [.name "-"] := by decide
  have hg : ring.root.get? ["e"] = some (.directory [("b.rs", .link "../d/a.rs")]) := rfl
  have hf : ring.root.get? ["d", "a.rs"] = some (.file []) := rfl
  have ho : Node.inOrder [("b.rs", .link "../d/a.rs")] = [("b.rs", .link "../d/a.rs")] :=
    List.mergeSort_of_pairwise (by decide)
  have hj : join "e" "b.rs" = "e/b.rs" := by decide
  have hwalk : ring.walk skipNone none "e" = .ok ["e/b.rs"] := by
    rw [walk, if_neg hs, he]
    simp [hg, ho, hj, walkEntries_link, linkFiles, hlink, hf, walkEntries, Except.bind, Except.map]
  have hfiles : (ringSelection "e").entryFiles ring ringLanguage "e" = .ok ["e/b.rs"] :=
    (entryFiles_directory_eq_ok_iff (by decide) (lookup_eq_ok_iff.mpr ⟨_, he, rfl⟩)).mpr
      ⟨_, hwalk, by decide⟩
  refine ofSelection_eq_ok_iff.mpr ⟨rfl, language?_ring, ["e/b.rs"], ?_, rfl⟩
  exact candidates_cons_eq_ok_iff.mpr ⟨_, [], hfiles, rfl, rfl⟩

theorem ofSelection_directories_ring :
    ring.LinksLead ∧
      (¬∃ plan, ofSelection ring ⟨[ringLanguage]⟩ (ringSelection "d") = .ok plan) ∧
      (["e/b.rs"].map ring.identity).count (ring.identity "e/b.rs") = 1 := by
  obtain ⟨hd, he⟩ := namesDirectories_ring
  obtain ⟨hplan, -⟩ := ofSelection_directories linksLead_ring hd rfl language?_ring
  obtain ⟨-, -, hfiles⟩ :=
    ofSelection_directories linksLead_ring he rfl language?_ring
  have hbelow : FileBelow ring "e" ([] ++ ["b.rs"]) :=
    .linked (by decide) (lookup_eq_ok_iff.mpr ⟨_, resolve_ring.2.2.2, rfl⟩)
  have hwant : (ringSelection "e").Wanted ringLanguage "b.rs" :=
    (wants_join_iff "" (by decide)).mp (by decide)
  refine ⟨linksLead_ring, fun h => ?_, ?_⟩
  · exact hplan.mp h "d" (List.mem_singleton_self _) _ stopped_ring
  · exact hfiles _ ofSelection_ring rfl "e" (List.mem_singleton_self _) (by decide) [] "b.rs" hbelow
      hwant

/-- Not every selection of directories makes a plan where all links lead somewhere: a link that
leads back to a directory above it is an error of the entry. -/
theorem loop_stops_plan :
    ¬ (∀ (d : Disk) (ls : Languages) (s : Selection) (language : Language),
      d.LinksLead → s.NamesDirectories d → s.encoding = none →
      language? ls s.language = .ok language → ∃ plan, ofSelection d ls s = .ok plan) := by
  intro h
  have hplan := h ring ⟨[ringLanguage]⟩ (ringSelection "d") ringLanguage linksLead_ring
    namesDirectories_ring.1 rfl language?_ring
  exact (exists_plan_iff_not_stopped namesDirectories_ring.1 rfl language?_ring).mp
    hplan "d" (List.mem_singleton_self _) _ stopped_ring

end Plan

end CommentBlocks
