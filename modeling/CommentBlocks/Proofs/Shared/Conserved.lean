import CommentBlocks.Proofs.Shared.Families
import CommentBlocks.Shared.Journal

namespace CommentBlocks.Journal

open Shared

def Request.handle? : Request → Option Nat
  | create _ => none
  | clone h | write h _ | size h | isEmpty h | messages h | take h => some h

def event? : Request × Answer → Option (Event Journal (Request × Answer))
  | (_, .unknown) => none
  | (.create t, .handle n) => some (.made n (new t))
  | (.clone h, .handle n) => some (.cloned h n)
  | (r, a) => r.handle?.map fun h => .used h (r, a)

def events (requests : List Request) : List (Event Journal (Request × Answer)) :=
  (requests.zip (serveAll .empty requests).2).filterMap event?

/-- What is answered to a request on a journal, and what the journal is then. -/
inductive Asks (j : Journal) : Request × Answer → Journal → Prop
  | write (h : Nat) (i : Issue) : Asks j (.write h i, .size (j.issues.length + 1)) (j.write i)
  | size (h : Nat) : Asks j (.size h, .size j.issues.length) j
  | isEmpty (h : Nat) : Asks j (.isEmpty h, .isEmpty j.issues.isEmpty) j
  | messages (h : Nat) : Asks j (.messages h, .messages j.messages) j
  | take (h : Nat) : Asks j (.take h, .issues j.issues) j.clear

def written : Request × Answer → Option Issue
  | (.write _ i, _) => some i
  | _ => none

def taken : Request × Answer → List Issue
  | (.take _, .issues is) => is
  | _ => []

variable {es : List (Event Journal (Request × Answer))} {s : Shared Journal} {h n : Nat}
  {j : Journal} {t : Translator} {xs : List (Request × Answer)}

theorem serves : Serves serve serveAll := ⟨fun _ => rfl, fun _ _ _ => rfl⟩

/-- Every answer is what the journal of the handle says. -/
theorem logged_serve (hl : Logged Asks es s) (r : Request) :
    Logged Asks (es ++ (event? (r, (serve s r).2)).toList) (serve s r).1 := by
  cases r with
  | create t => exact hl.made (new t)
  | clone h =>
    rw [serve]
    cases hc : s.clone? h with
    | none => simpa [event?] using hl
    | some c => exact hl.cloned hc
  | write h i =>
    cases hg : s.get? h with
    | none =>
      have hs : s.modify h (write i) = s := modify_eq_self fun a ha => by simp [hg] at ha
      simpa [serve, hs, hg, event?] using hl
    | some j =>
      have hj : (s.modify h (write i)).get? h = some (j.write i) := by simp [get?_modify, hg]
      have hsize : (j.write i).issues.length = j.issues.length + 1 := by simp [write]
      simpa [serve, hj, hsize, event?, Request.handle?] using hl.used hg (.write h i)
  | size h =>
    cases hg : s.get? h with
    | none => simpa [serve, hg, event?] using hl
    | some j => simpa [serve, hg, event?, Request.handle?] using hl.asked hg (.size h)
  | isEmpty h =>
    cases hg : s.get? h with
    | none => simpa [serve, hg, event?] using hl
    | some j => simpa [serve, hg, event?, Request.handle?] using hl.asked hg (.isEmpty h)
  | messages h =>
    cases hg : s.get? h with
    | none => simpa [serve, hg, event?] using hl
    | some j => simpa [serve, hg, event?, Request.handle?] using hl.asked hg (.messages h)
  | take h =>
    cases hg : s.get? h with
    | none =>
      have hs : s.modify h clear = s := modify_eq_self fun a ha => by simp [hg] at ha
      simpa [serve, hs, hg, event?] using hl
    | some j => simpa [serve, hg, event?, Request.handle?] using hl.used hg (.take h)

theorem logged (requests : List Request) :
    Logged Asks (events requests) (serveAll .empty requests).1 :=
  serves.logged (P := Logged Asks) .nil (fun _ _ r hl => logged_serve hl r) requests

theorem taken_append_issues (hp : Plays Asks (new t) xs j) :
    j.translator = t ∧ xs.flatMap taken ++ j.issues = xs.filterMap written := by
  induction hp with
  | nil => exact ⟨rfl, rfl⟩
  | concat _ ha ih =>
    rw [List.flatMap_append, List.filterMap_append, ← ih.2]
    cases ha with
    | write h i => exact ⟨ih.1, by simp [taken, written, write]⟩
    | take h => exact ⟨ih.1, by simp [taken, written, clear]⟩
    | size | isEmpty | messages => exact ⟨ih.1, by simp [taken, written]⟩

theorem exists_of_made {requests : List Request} (hm : .made n j ∈ events requests) :
    ∃ t, j = new t := by
  obtain ⟨entry, -, he⟩ := List.mem_filterMap.mp hm
  unfold event? at he
  split at he
  · cases he
  · cases he
    exact ⟨_, rfl⟩
  · cases he
  · obtain ⟨_, -, hu⟩ := Option.map_eq_some_iff.mp he
    cases hu

theorem serve_of_get? (hg : s.get? n = some j) :
    serve s (.size n) = (s, .size j.issues.length) ∧
      serve s (.isEmpty n) = (s, .isEmpty j.issues.isEmpty) ∧
      serve s (.messages n) = (s, .messages (j.issues.map j.translator.report)) ∧
      (serve s (.take n)).2 = .issues j.issues ∧
      (∀ i, (serve s (.write n i)).2 = .size (j.issues.length + 1)) ∧
      (serve s (.clone n)).2 = .handle s.holders.length := by
  obtain ⟨p, hp, -⟩ := get?_eq_some_iff.mp hg
  refine ⟨?_, ?_, ?_, ?_, fun i => ?_, ?_⟩
  · simp [serve, hg]
  · simp [serve, hg]
  · simp [serve, hg, messages]
  · simp [serve, hg]
  · simp [serve, get?_modify, hg, write]
  · simp [serve, clone?, hp]

theorem get?_serve_of_not_kin (hl : Logged Asks es s) (hg : s.get? n = some j) {r : Request}
    (hr : ∀ m, r.handle? = some m → ¬Kin es n m) : (serve s r).1.get? n = some j := by
  cases r with
  | create t => exact get?_create hg (new t)
  | clone m =>
    rw [serve]
    cases hc : s.clone? m with
    | none => exact hg
    | some c => exact get?_clone? hc hg
  | write m i => exact hl.get?_modify_of_not_kin hg (hr m rfl) (write i)
  | take m => exact hl.get?_modify_of_not_kin hg (hr m rfl) clear
  | size | isEmpty | messages => exact hg

/-- After any requests, the issues taken out through a family of handles, in the order of the
requests, and those still held are the issues written through the family, in their order. The size,
the messages and whatever else a handle of the family is asked for are of the issues still held. A
family has one journal that was made for it, and requests through other families have no part in
it. -/
theorem nothing_lost (requests : List Request) {h : Nat}
    (hh : h < (serveAll .empty requests).1.holders.length) :
    let s := (serveAll .empty requests).1
    let es := events requests
    ∃ t origin held, Kin es h origin ∧ .made origin (new t) ∈ es ∧
      (∀ m j, Kin es h m → .made m j ∈ es → m = origin) ∧
      (uses es h).flatMap taken ++ held = (uses es h).filterMap written ∧
      (∀ n, Kin es h n →
        serve s (.size n) = (s, .size held.length) ∧
          serve s (.isEmpty n) = (s, .isEmpty held.isEmpty) ∧
          serve s (.messages n) = (s, .messages (held.map t.report)) ∧
          (serve s (.take n)).2 = .issues held ∧
          (∀ i, (serve s (.write n i)).2 = .size (held.length + 1)) ∧
          (serve s (.clone n)).2 = .handle s.holders.length) ∧
      ∀ r, (∀ n, r.handle? = some n → ¬Kin es h n) → (serve s r).1.get? h = s.get? h := by
  intro s es
  have hl : Logged Asks es s := logged requests
  obtain ⟨j, hg⟩ := hl.exists_get? hh
  obtain ⟨origin, first, hk, hm, honly, hp⟩ := hl.plays hg
  obtain ⟨t, rfl⟩ := exists_of_made hm
  obtain ⟨rfl, hc⟩ := taken_append_issues hp
  refine ⟨j.translator, origin, j.issues, hk, hm, honly, hc, fun n hn => ?_, fun r hr => ?_⟩
  · exact serve_of_get? ((hn.get?_eq hl).symm.trans hg)
  · rw [get?_serve_of_not_kin hl hg hr, hg]

theorem nothing_lost_interleaved :
    let issue (line : Nat) : Issue := ⟨"a.go", "", line, .message (.just .unclosed)⟩
    let requests := [.create .builtin, .clone 0, .create .builtin, .write 1 (issue 1),
      .write 2 (issue 2), .take 0, .write 0 (issue 3), .clone 1, .take 3, .write 1 (issue 4)]
    let s := (serveAll .empty requests).1
    3 < s.holders.length ∧ Kin (events requests) 3 0 ∧
      (uses (events requests) 3).flatMap taken = [issue 1, issue 3] ∧
      serve s (.size 0) = (s, .size 1) ∧ (serve s (.take 1)).2 = .issues [issue 4] ∧
      (uses (events requests) 3).flatMap taken ++ [issue 4] =
        (uses (events requests) 3).filterMap written ∧
      (serve s (.take 2)).1.get? 3 = s.get? 3 := by
  intro issue requests s
  have hh : 3 < s.holders.length := by decide
  have hl : Logged Asks (events requests) s := logged requests
  have hp : s.holders[3]? = some 0 := rfl
  have hkin (n : Nat) : Kin (events requests) 3 n ↔ s.holders[n]? = some 0 := hl.kin_iff hp
  obtain ⟨t, -, held, -, -, -, hc, hasked, hother⟩ := nothing_lost requests hh
  obtain ⟨-, -, -, htake, -⟩ := hasked 1 ((hkin 1).mpr rfl)
  obtain rfl : held = [issue 4] := (Answer.issues.inj htake).symm
  refine ⟨hh, (hkin 0).mpr rfl, ?_, (hasked 0 ((hkin 0).mpr rfl)).1, htake, hc,
    hother (.take 2) fun n hn => ?_⟩
  · rw [hl.uses_eq hp]
    rfl
  · obtain rfl := Option.some.inj hn
    rw [hkin]
    decide

end CommentBlocks.Journal
