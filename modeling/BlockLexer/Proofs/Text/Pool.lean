import Mathlib.Data.List.Nodup
import BlockLexer.Text.Pool

/-! # Any run of a pool

A ledger is a pool together with the handles it has given out, each with the request it answers.
Main statement: whatever is requested of a pool that is empty at first, its entries are the texts
entered so far, once each and for good, and two handles use one cell if and only if the same text
was entered for both. How handles compare is decided by the texts that were requested.
-/

namespace BlockLexer

namespace Text

theorem compare_eq_lt_iff {left right : Text} : compare left right = .lt ↔ left < right := by
  induction left generalizing right with
  | nil => cases right <;> simp [compare]
  | cons a left ih =>
      cases right with
      | nil => simp [compare]
      | cons b right =>
          have hcode : a.toNat < b.toNat ↔ a < b := Iff.rfl
          rw [compare, Ordering.then_eq_lt, Nat.compare_eq_lt, Nat.compare_eq_eq, ih,
            List.cons_lt_cons_iff, Char.toNat_inj, hcode]

theorem compare_eq_eq_iff {left right : Text} : compare left right = .eq ↔ left = right := by
  induction left generalizing right with
  | nil => cases right <;> simp [compare]
  | cons a left ih =>
      cases right with
      | nil => simp [compare]
      | cons b right =>
          rw [compare, Ordering.then_eq_eq, Nat.compare_eq_eq, ih, List.cons_eq_cons,
            Char.toNat_inj]

/-- Texts are ordered as sequences of characters. -/
theorem compare_eq_compareOfLessAndEq (left right : Text) :
    compare left right = compareOfLessAndEq left right := by
  unfold compareOfLessAndEq
  split
  · next hlt => exact compare_eq_lt_iff.mpr hlt
  split
  · next heq => exact compare_eq_eq_iff.mpr heq
  · next hlt heq =>
    rw [← compare_eq_lt_iff] at hlt
    rw [← compare_eq_eq_iff] at heq
    cases hcompare : compare left right with
    | lt => exact absurd hcompare hlt
    | eq => exact absurd hcompare heq
    | gt => rfl

end Text

namespace Pool

/-- What can be requested of a pool. -/
inductive Request where
  | enter (text : Text)
  /-- A text is used as a handle, which enters it. -/
  | ofText (text : Text)
  /-- A character is used as a handle, which enters the text it makes up. -/
  | ofChar (c : Char)
  | enterUnshared (text : Text)

namespace Request

/-- The text that is given with a request. -/
def text : Request → Text
  | .enter text | .ofText text | .enterUnshared text => text
  | .ofChar c => [c]

/-- The text becomes an entry of the pool. -/
def isShared : Request → Bool
  | .enter _ | .ofText _ | .ofChar _ => true
  | .enterUnshared _ => false

end Request

/-- The handle that answers a request, and the pool behind it. -/
def serve (pool : Pool) : Request → Handle × Pool
  | .enter text | .ofText text => pool.enter text
  | .ofChar c => pool.enterChar c
  | .enterUnshared text => pool.enterUnshared text

/-- A handle in a cell that has not been used. -/
def newHandle (pool : Pool) (text : Text) : Handle :=
  ⟨text, pool.cells⟩

/-- The pool with one more cell used. -/
def useCell (pool : Pool) : Pool :=
  { pool with cells := pool.cells + 1 }

/-- The pool with one more entry, in a new cell. -/
def addEntry (pool : Pool) (text : Text) : Pool :=
  { pool.useCell with entries := pool.entries ++ [pool.newHandle text] }

theorem enter_cases (pool : Pool) (text : Text) :
    (∃ entry ∈ pool.entries, entry.text = text ∧ pool.enter text = (entry, pool)) ∨
      (∀ entry ∈ pool.entries, entry.text ≠ text) ∧
        pool.enter text = (pool.newHandle text, pool.addEntry text) := by
  unfold enter
  split
  · next entry hfound =>
    have htext := List.find?_some hfound
    exact .inl ⟨entry, List.mem_of_find?_eq_some hfound, of_decide_eq_true htext, rfl⟩
  · next hnone =>
    refine .inr ⟨?_, rfl⟩
    intro entry hentry htext
    exact List.find?_eq_none.mp hnone entry hentry (decide_eq_true htext)

/-- A text that is entered gets the entry with this text, or else becomes a new entry. Any other
gets a cell of its own. -/
theorem serve_cases (pool : Pool) (request : Request) :
    (request.isShared ∧ ∃ entry ∈ pool.entries, entry.text = request.text ∧
        pool.serve request = (entry, pool)) ∨
      (request.isShared ∧ (∀ entry ∈ pool.entries, entry.text ≠ request.text) ∧
        pool.serve request = (pool.newHandle request.text, pool.addEntry request.text)) ∨
      request.isShared = false ∧
        pool.serve request = (pool.newHandle request.text, pool.useCell) := by
  cases request with
  | enter text | ofText text =>
      exact (pool.enter_cases text).imp (⟨rfl, ·⟩) fun hnew => .inl ⟨rfl, hnew⟩
  | ofChar c => exact (pool.enter_cases [c]).imp (⟨rfl, ·⟩) fun hnew => .inl ⟨rfl, hnew⟩
  | enterUnshared text => exact .inr (.inr ⟨rfl, rfl⟩)

/-- No entry is lost or replaced. -/
theorem entries_isPrefix_serve (pool : Pool) (request : Request) :
    pool.entries <+: (pool.serve request).2.entries := by
  rcases pool.serve_cases request with ⟨-, entry, -, -, hserve⟩ | ⟨-, -, hserve⟩ | ⟨-, hserve⟩
  · exact ⟨[], by rw [hserve, List.append_nil]⟩
  · exact ⟨[pool.newHandle request.text], by rw [hserve, addEntry]⟩
  · exact ⟨[], by rw [hserve, List.append_nil, useCell]⟩

theorem nodup_texts_addEntry (pool : Pool) (hnodup : (pool.entries.map Handle.text).Nodup)
    {text : Text} (habsent : ∀ entry ∈ pool.entries, entry.text ≠ text) :
    ((pool.addEntry text).entries.map Handle.text).Nodup := by
  have hnew : text ∉ pool.entries.map Handle.text := by
    simpa using habsent
  have hconcat := List.Nodup.concat hnew hnodup
  rw [List.concat_eq_append] at hconcat
  rwa [addEntry, List.map_append]

/-- A request and the handle that answers it. -/
structure Issue where
  request : Request
  handle : Handle

namespace Issue

/-- The two handles use one cell if and only if the same text was entered for both. -/
def SharesByText (issue other : Issue) : Prop :=
  issue.handle.sharesCell other.handle ↔
    issue.request.isShared ∧ other.request.isShared ∧ issue.request.text = other.request.text

/-- The handle has the text requested and, if this was entered, is an entry. It uses the cell of an
entry exactly if the text of this entry was entered for it. -/
structure IsSoundIn (pool : Pool) (issue : Issue) : Prop where
  text_eq : issue.handle.text = issue.request.text
  cell_lt : issue.handle.cell < pool.cells
  handle_mem : issue.request.isShared → issue.handle ∈ pool.entries
  usesCell_iff : ∀ entry ∈ pool.entries,
    issue.handle.cell = entry.cell ↔ issue.request.isShared ∧ issue.request.text = entry.text

namespace IsSoundIn

variable {pool : Pool} {issue : Issue} {request : Request}

theorem useCell (hsound : issue.IsSoundIn pool) : issue.IsSoundIn pool.useCell where
  text_eq := hsound.text_eq
  cell_lt := Nat.lt_succ_of_lt hsound.cell_lt
  handle_mem := hsound.handle_mem
  usesCell_iff := hsound.usesCell_iff

/-- A new entry is in a cell that no handle has used so far, and has another text than the handles
for texts that were entered. -/
theorem addEntry (hsound : issue.IsSoundIn pool) {text : Text}
    (habsent : ∀ entry ∈ pool.entries, entry.text ≠ text) :
    issue.IsSoundIn (pool.addEntry text) where
  text_eq := hsound.text_eq
  cell_lt := Nat.lt_succ_of_lt hsound.cell_lt
  handle_mem hshared := List.mem_append_left _ (hsound.handle_mem hshared)
  usesCell_iff := by
    refine List.forall_mem_append.mpr ⟨hsound.usesCell_iff, List.forall_mem_singleton.mpr ?_⟩
    refine iff_of_false (Nat.ne_of_lt hsound.cell_lt) ?_
    rintro ⟨hshared, htext⟩
    apply habsent issue.handle (hsound.handle_mem hshared)
    rw [hsound.text_eq, htext]
    rfl

/-- An entry that was given out for a text answers any other request to enter the text. -/
theorem again (hsound : issue.IsSoundIn pool) (hissue : issue.request.isShared)
    (hrequest : request.isShared) (htext : issue.request.text = request.text) :
    IsSoundIn pool ⟨request, issue.handle⟩ where
  text_eq := hsound.text_eq.trans htext
  cell_lt := hsound.cell_lt
  handle_mem _ := hsound.handle_mem hissue
  usesCell_iff entry hentry := by
    rw [hsound.usesCell_iff entry hentry, htext, hissue, hrequest]

theorem newHandle_addEntry (hcells : ∀ entry ∈ pool.entries, entry.cell < pool.cells)
    (habsent : ∀ entry ∈ pool.entries, entry.text ≠ request.text) (hrequest : request.isShared) :
    IsSoundIn (pool.addEntry request.text) ⟨request, pool.newHandle request.text⟩ where
  text_eq := rfl
  cell_lt := Nat.lt_succ_self _
  handle_mem _ := List.mem_concat_self
  usesCell_iff := by
    refine List.forall_mem_append.mpr ⟨?_, List.forall_mem_singleton.mpr ?_⟩
    · intro entry hentry
      refine iff_of_false (Nat.ne_of_gt (hcells entry hentry)) ?_
      exact fun hsame => habsent entry hentry hsame.2.symm
    · exact iff_of_true rfl ⟨hrequest, rfl⟩

theorem newHandle_useCell (hcells : ∀ entry ∈ pool.entries, entry.cell < pool.cells)
    (hrequest : request.isShared = false) :
    IsSoundIn pool.useCell ⟨request, pool.newHandle request.text⟩ where
  text_eq := rfl
  cell_lt := Nat.lt_succ_self _
  handle_mem hshared := absurd hshared (by simp [hrequest])
  usesCell_iff entry hentry := by
    refine iff_of_false (Nat.ne_of_gt (hcells entry hentry)) ?_
    simp [hrequest]

/-- A handle that is given out for a text to enter shares its cell as it should. -/
theorem sharesByText (hsound : issue.IsSoundIn pool) {other : Issue} (hother : other.IsSoundIn pool)
    (hshared : other.request.isShared) : issue.SharesByText other := by
  have huses := hsound.usesCell_iff other.handle (hother.handle_mem hshared)
  rw [hother.text_eq] at huses
  simp only [SharesByText, Handle.sharesCell, decide_eq_true_eq, huses, hshared, true_and]

/-- A handle in a cell of its own shares it with none that was given out before. -/
theorem sharesByText_newHandle (hsound : issue.IsSoundIn pool)
    (hrequest : request.isShared = false) :
    issue.SharesByText ⟨request, pool.newHandle request.text⟩ := by
  have hcell : issue.handle.cell ≠ (pool.newHandle request.text).cell :=
    Nat.ne_of_lt hsound.cell_lt
  simp [SharesByText, Handle.sharesCell, hcell, hrequest]

end IsSoundIn

end Issue

/-- A pool and all the handles it has given out, in order. -/
structure Ledger where
  pool : Pool := {}
  issues : List Issue := []

namespace Ledger

/-- The ledger after a request. -/
def serve (ledger : Ledger) (request : Request) : Ledger :=
  ⟨(ledger.pool.serve request).2, ledger.issues ++ [⟨request, (ledger.pool.serve request).1⟩]⟩

/-- The ledger after requests one after the other. -/
def serveAll (ledger : Ledger) (requests : List Request) : Ledger :=
  requests.foldl serve ledger

/-- The handles are those of the pool, whose entries were all given out and have different texts. -/
structure IsSound (ledger : Ledger) : Prop where
  issue_isSound : ∀ issue ∈ ledger.issues, issue.IsSoundIn ledger.pool
  exists_issue : ∀ entry ∈ ledger.pool.entries,
    ∃ issue ∈ ledger.issues, issue.request.isShared ∧ issue.handle = entry
  nodup_texts : (ledger.pool.entries.map Handle.text).Nodup
  sharesByText : ledger.issues.Pairwise Issue.SharesByText

/-- The pool has been asked these requests. It has answered each with a handle for the text. Its
entries are the texts that were entered, each of them once, and stay what they are whatever is
requested next. A handle for a text that was entered is the entry with it, so that handles share
their cells by text. -/
structure Answers (requests : List Request) (ledger : Ledger) : Prop where
  requests_eq : ledger.issues.map Issue.request = requests
  text_eq : ∀ issue ∈ ledger.issues, issue.handle.text = issue.request.text
  mem_entries_iff : ∀ text, text ∈ ledger.pool.entries.map Handle.text ↔
    ∃ request ∈ requests, request.isShared ∧ request.text = text
  nodup_texts : (ledger.pool.entries.map Handle.text).Nodup
  handle_mem : ∀ issue ∈ ledger.issues, issue.request.isShared → issue.handle ∈ ledger.pool.entries
  entries_isPrefix : ∀ following, ledger.pool.entries <+: (ledger.serveAll following).pool.entries
  sharesByText : ledger.issues.Pairwise Issue.SharesByText

variable {ledger : Ledger} {request : Request}

namespace IsSound

theorem cell_lt (hsound : ledger.IsSound) :
    ∀ entry ∈ ledger.pool.entries, entry.cell < ledger.pool.cells := by
  intro entry hentry
  obtain ⟨issue, hissue, -, rfl⟩ := hsound.exists_issue entry hentry
  exact (hsound.issue_isSound issue hissue).cell_lt

/-- A handle keeps a ledger sound if its pool keeps the handles before it sound, and adds none but
it to the entries. -/
theorem concat (hsound : ledger.IsSound) {pool : Pool} {last : Issue}
    (hissues : ∀ issue ∈ ledger.issues, issue.IsSoundIn pool) (hlast : last.IsSoundIn pool)
    (hentries : ∀ entry ∈ pool.entries,
      entry ∈ ledger.pool.entries ∨ last.request.isShared ∧ last.handle = entry)
    (hnodup : (pool.entries.map Handle.text).Nodup)
    (hshares : ∀ issue ∈ ledger.issues, issue.SharesByText last) :
    IsSound ⟨pool, ledger.issues ++ [last]⟩ where
  issue_isSound := List.forall_mem_append.mpr ⟨hissues, List.forall_mem_singleton.mpr hlast⟩
  exists_issue entry hentry := by
    rcases hentries entry hentry with hearlier | hentered
    · obtain ⟨issue, hissue, hfound⟩ := hsound.exists_issue entry hearlier
      exact ⟨issue, List.mem_append_left _ hissue, hfound⟩
    · exact ⟨last, List.mem_concat_self, hentered⟩
  nodup_texts := hnodup
  sharesByText := by
    refine List.pairwise_append.mpr ⟨hsound.sharesByText, List.pairwise_singleton _ _, ?_⟩
    intro issue hissue
    exact List.forall_mem_singleton.mpr (hshares issue hissue)

theorem serve (hsound : ledger.IsSound) (request : Request) : (ledger.serve request).IsSound := by
  unfold Ledger.serve
  rcases ledger.pool.serve_cases request with
    ⟨hshared, entry, hentry, htext, hserve⟩ | ⟨hshared, habsent, hserve⟩ | ⟨hshared, hserve⟩
  all_goals rw [hserve]
  · obtain ⟨issue, hissue, hissueShared, rfl⟩ := hsound.exists_issue entry hentry
    have hissueSound := hsound.issue_isSound issue hissue
    have hlast := hissueSound.again hissueShared hshared (hissueSound.text_eq.symm.trans htext)
    refine hsound.concat hsound.issue_isSound hlast (fun _ => .inl) hsound.nodup_texts ?_
    intro earlier hearlier
    exact (hsound.issue_isSound earlier hearlier).sharesByText hlast hshared
  · have hissues : ∀ issue ∈ ledger.issues, issue.IsSoundIn (ledger.pool.addEntry request.text) :=
      fun issue hissue => (hsound.issue_isSound issue hissue).addEntry habsent
    have hlast := Issue.IsSoundIn.newHandle_addEntry hsound.cell_lt habsent hshared
    refine hsound.concat hissues hlast ?_ ?_ ?_
    · intro entry hentry
      refine (List.mem_append.mp hentry).imp_right fun hlast => ⟨hshared, ?_⟩
      exact (List.mem_singleton.mp hlast).symm
    · exact ledger.pool.nodup_texts_addEntry hsound.nodup_texts habsent
    · intro issue hissue
      exact (hissues issue hissue).sharesByText hlast hshared
  · have hlast := Issue.IsSoundIn.newHandle_useCell hsound.cell_lt hshared
    refine hsound.concat ?_ hlast (fun _ => .inl) hsound.nodup_texts ?_
    · exact fun issue hissue => (hsound.issue_isSound issue hissue).useCell
    · exact fun issue hissue => (hsound.issue_isSound issue hissue).sharesByText_newHandle hshared

theorem serveAll (hsound : ledger.IsSound) (requests : List Request) :
    (ledger.serveAll requests).IsSound := by
  induction requests generalizing ledger with
  | nil => exact hsound
  | cons request following ih => exact ih (hsound.serve request)

end IsSound

theorem isSound_empty : IsSound {} where
  issue_isSound _ hissue := nomatch hissue
  exists_issue _ hentry := nomatch hentry
  nodup_texts := List.nodup_nil
  sharesByText := .nil

theorem map_request_serveAll (ledger : Ledger) (requests : List Request) :
    (ledger.serveAll requests).issues.map Issue.request =
      ledger.issues.map Issue.request ++ requests := by
  induction requests generalizing ledger with
  | nil => exact (List.append_nil _).symm
  | cons request following ih =>
      have hserve := ih (ledger.serve request)
      rwa [Ledger.serve, List.map_append, List.append_assoc] at hserve

theorem entries_isPrefix_serveAll (ledger : Ledger) (requests : List Request) :
    ledger.pool.entries <+: (ledger.serveAll requests).pool.entries := by
  induction requests generalizing ledger with
  | nil => exact List.prefix_rfl
  | cons request following ih =>
      exact (ledger.pool.entries_isPrefix_serve request).trans (ih (ledger.serve request))

/-- The entries have the texts that were entered. -/
theorem IsSound.mem_texts_iff (hsound : ledger.IsSound) (text : Text) :
    text ∈ ledger.pool.entries.map Handle.text ↔
      ∃ request ∈ ledger.issues.map Issue.request, request.isShared ∧ request.text = text := by
  constructor
  · intro htext
    obtain ⟨entry, hentry, rfl⟩ := List.mem_map.mp htext
    obtain ⟨issue, hissue, hshared, rfl⟩ := hsound.exists_issue entry hentry
    have hissueText := (hsound.issue_isSound issue hissue).text_eq
    exact ⟨issue.request, List.mem_map_of_mem hissue, hshared, hissueText.symm⟩
  · rintro ⟨request, hrequest, hshared, rfl⟩
    obtain ⟨issue, hissue, rfl⟩ := List.mem_map.mp hrequest
    have hissueSound := hsound.issue_isSound issue hissue
    exact List.mem_map.mpr ⟨issue.handle, hissueSound.handle_mem hshared, hissueSound.text_eq⟩

theorem IsSound.answers (hsound : ledger.IsSound) :
    ledger.Answers (ledger.issues.map Issue.request) where
  requests_eq := rfl
  text_eq issue hissue := (hsound.issue_isSound issue hissue).text_eq
  mem_entries_iff := hsound.mem_texts_iff
  nodup_texts := hsound.nodup_texts
  handle_mem issue hissue := (hsound.issue_isSound issue hissue).handle_mem
  entries_isPrefix := ledger.entries_isPrefix_serveAll
  sharesByText := hsound.sharesByText

theorem isSound_ofRequests (requests : List Request) : (serveAll {} requests).IsSound :=
  isSound_empty.serveAll requests

/-- Whatever is requested of a pool that is empty at first, every handle has the text requested, and
the entries are the texts entered, once each and for good. Two handles use one cell if and only if
the same text was entered for both. Handles of this or any other run are the same if and only if
their texts are, and are ordered as their texts. -/
theorem serveAll_answers (requests : List Request) :
    (serveAll {} requests).Answers requests ∧
      ∀ requests', ∀ issue ∈ (serveAll {} requests).issues,
        ∀ other ∈ (serveAll {} requests').issues,
          (issue.handle.sameText other.handle ↔ issue.request.text = other.request.text) ∧
            issue.handle.compare other.handle =
              compareOfLessAndEq issue.request.text other.request.text := by
  have hsound := isSound_ofRequests requests
  refine ⟨?_, ?_⟩
  · have hanswers := hsound.answers
    rwa [map_request_serveAll] at hanswers
  · intro requests' issue hissue other hother
    have htext := (hsound.issue_isSound issue hissue).text_eq
    have htext' := ((isSound_ofRequests requests').issue_isSound other hother).text_eq
    rw [Handle.sameText, Handle.compare, htext, htext', Text.compare_eq_compareOfLessAndEq]
    exact ⟨decide_eq_true_iff, rfl⟩

/-- Equal texts share a cell, but for the one that was not to be shared. -/
example :
    let ledger := serveAll {} [.enterUnshared ['a'], .ofChar 'a', .enter ['b'], .ofText ['a']]
    ledger.pool.entries.map Handle.text = [['a'], ['b']] ∧
      ledger.issues.map (fun issue => issue.handle.cell) = [0, 1, 2, 1] := by
  decide

end Ledger

end Pool

end BlockLexer
