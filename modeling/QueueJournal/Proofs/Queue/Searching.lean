import QueueJournal.Queue.Search

/-!
# Tests with a memory

A test of items may keep a memory of its own, which every question changes. What it makes of items
when it is asked about all of them in order are its `verdicts`, and the first verdict that is not
"no" decides how a search ends (`Examiner.run_eq_iff`).

`Examiner.scan` is the search with the memory in view. It ends as the search does, and the test has
been asked about the items up to the deciding one by then, in order and each but once
(`Examiner.scan_eq`).
-/

namespace QueueJournal

/-- A test with a memory: what it makes of an item, and its memory afterwards. -/
abbrev Examiner (σ α : Type) := σ → α → Verdict × σ

/-- Of the verdicts on items, this is the one at an index, and all before it are "no". -/
def Decides (verdicts : List Verdict) (index : Nat) (verdict : Verdict) : Prop :=
  verdicts[index]? = some verdict ∧ ∀ j < index, verdicts[j]? = some .no

section Decides

variable {verdicts : List Verdict} {i j : Nat} {v w : Verdict}

theorem Decides.not_lt (h : Decides verdicts i v) (hv : v ≠ .no) (h' : Decides verdicts j w) :
    ¬ i < j :=
  fun hlt ↦ hv (Option.some.inj (h.1.symm.trans (h'.2 i hlt)))

/-- **The first verdict that is not "no" decides**, and no other does. -/
theorem Decides.unique (h : Decides verdicts i v) (h' : Decides verdicts j w) (hv : v ≠ .no)
    (hw : w ≠ .no) : i = j ∧ v = w := by
  have hle := h.not_lt hv h'
  have hge := h'.not_lt hw h
  obtain rfl : i = j := by omega
  exact ⟨rfl, Option.some.inj (h.1.symm.trans h'.1)⟩

theorem Decides.not_forall (h : Decides verdicts i v) (hv : v ≠ .no) :
    ¬ ∀ verdict ∈ verdicts, verdict = .no :=
  fun hall ↦ hv (hall v (List.mem_of_getElem? h.1))

end Decides

namespace Finding

variable {verdicts : List Verdict} {f g : Finding}

/-- How a search ends, told by what the test makes of the items. -/
def Reports (verdicts : List Verdict) : Finding → Prop
  | found index => Decides verdicts index .yes
  | absent => ∀ verdict ∈ verdicts, verdict = .no
  | interrupted index => Decides verdicts index .panic

/-- A search ends in one way. -/
theorem Reports.unique (hf : f.Reports verdicts) (hg : g.Reports verdicts) : f = g := by
  cases f with
  | absent =>
    cases g with
    | absent => rfl
    | found j => exact absurd hf (Decides.not_forall hg (by decide))
    | interrupted j => exact absurd hf (Decides.not_forall hg (by decide))
  | found i =>
    cases g with
    | absent => exact absurd hg (Decides.not_forall hf (by decide))
    | found j => rw [(Decides.unique hf hg (by decide) (by decide)).1]
    | interrupted j => exact absurd (Decides.unique hf hg (by decide) (by decide)).2 (by decide)
  | interrupted i =>
    cases g with
    | absent => exact absurd hg (Decides.not_forall hf (by decide))
    | found j => exact absurd (Decides.unique hf hg (by decide) (by decide)).2 (by decide)
    | interrupted j => rw [(Decides.unique hf hg (by decide) (by decide)).1]

end Finding

namespace Examiner

variable {σ α : Type} (ask : Examiner σ α) (s : σ)

/-- The memory of the test once it has been asked about items in order. -/
def memory (s : σ) (items : List α) : σ :=
  items.foldl (fun s a ↦ (ask s a).2) s

/-- What the test makes of items when it is asked about all of them in order. -/
def verdicts (s : σ) : List α → List Verdict
  | [] => []
  | a :: items => (ask s a).1 :: verdicts (ask s a).2 items

/-- The test as one that depends on the items that it was asked about before. -/
def probe (s : σ) : Probe α :=
  fun before a ↦ (ask (ask.memory s before.reverse) a).1

/-- Asks about items in order, the first of which has this index, until one passes or the test
breaks off. Gives how the search ends, the items that the test was asked about, and its memory then.
-/
def scan (s : σ) (index : Nat) : List α → Finding × List α × σ
  | [] => (.absent, [], s)
  | a :: items =>
    match ask s a with
    | (.yes, s) => (.found index, [a], s)
    | (.panic, s) => (.interrupted index, [a], s)
    | (.no, s) =>
      let (finding, asked, s) := scan s (index + 1) items
      (finding, a :: asked, s)

theorem memory_concat (items : List α) (a : α) :
    ask.memory s (items ++ [a]) = (ask (ask.memory s items) a).2 := by
  rw [memory, List.foldl_append]
  rfl

/-- The search ends as the verdicts say. The items asked about before have failed. -/
theorem reports_run (before items : List α) : ((ask.probe s).run before items).Reports
    (List.replicate before.length .no ++ ask.verdicts (ask.memory s before.reverse) items) := by
  induction items generalizing before with
  | nil => simp [Probe.run, verdicts, Finding.Reports]
  | cons a items ih =>
    have hbefore : ∀ vs, ∀ j < before.length,
        (List.replicate before.length Verdict.no ++ vs)[j]? = some .no := by
      intro vs j hlt
      rw [List.getElem?_append_left (by simpa using hlt), List.getElem?_replicate, if_pos hlt]
    have hprobe : (ask.probe s) before a = (ask (ask.memory s before.reverse) a).1 := rfl
    rw [Probe.run, verdicts, hprobe]
    cases (ask (ask.memory s before.reverse) a).1 with
    | yes => exact ⟨by simp, hbefore _⟩
    | panic => exact ⟨by simp, hbefore _⟩
    | no =>
      have hrest := ih (a :: before)
      rw [List.reverse_cons, memory_concat, List.length_cons, List.replicate_succ',
        List.append_assoc, List.singleton_append] at hrest
      exact hrest

/-- A search asks about the items behind those that were asked about before, each but once, and
about none behind the one that decides. -/
theorem scan_of_run (before items : List α) :
    ∃ asked, ask.scan (ask.memory s before.reverse) before.length items =
        ((ask.probe s).run before items, asked, ask.memory s (before.reverse ++ asked)) ∧
      before.reverse ++ asked = (before.reverse ++ items).take
        (((ask.probe s).run before items).calls (before.length + items.length)) := by
  induction items generalizing before with
  | nil =>
    exact ⟨[], by simp [scan, Probe.run],
      by simp [Probe.run, Finding.calls, List.take_of_length_le]⟩
  | cons a items ih =>
    have htake : before.reverse ++ [a] =
        (before.reverse ++ a :: items).take (before.length + 1) := by
      rw [List.take_append, List.length_reverse, Nat.add_sub_cancel_left,
        List.take_of_length_le (by simp)]
      rfl
    rcases hask : ask (ask.memory s before.reverse) a with ⟨verdict, t⟩
    have hverdict : (ask.probe s) before a = verdict := by rw [probe, hask]
    have hnext : ask.memory s (before.reverse ++ [a]) = t := by rw [memory_concat, hask]
    rw [Probe.run, hverdict, scan, hask]
    cases verdict with
    | yes => exact ⟨[a], by rw [hnext], htake⟩
    | panic => exact ⟨[a], by rw [hnext], htake⟩
    | no =>
      obtain ⟨asked, hscan, hasked⟩ := ih (a :: before)
      rw [List.reverse_cons, hnext, List.length_cons, List.append_assoc, List.singleton_append]
        at hscan
      rw [List.reverse_cons, List.length_cons, List.append_assoc, List.append_assoc,
        List.singleton_append, List.singleton_append, Nat.add_right_comm, Nat.add_assoc] at hasked
      exact ⟨a :: asked, by simp only [hscan], hasked⟩

/-- **A search asks about the items in order, each but once**, and about none behind the one that
decides. -/
theorem scan_eq (items : List α) : ask.scan s 0 items = ((ask.probe s).run [] items,
    items.take (((ask.probe s).run [] items).calls items.length),
    ask.memory s (items.take (((ask.probe s).run [] items).calls items.length))) := by
  obtain ⟨asked, hscan, hasked⟩ := ask.scan_of_run s [] items
  rw [List.reverse_nil, List.nil_append, List.nil_append, List.length_nil, Nat.zero_add] at hasked
  rw [← hasked]
  exact hscan

/-- **A search ends as the first verdict that is not "no" says.** -/
theorem run_eq_iff (items : List α) (f : Finding) :
    (ask.probe s).run [] items = f ↔ f.Reports (ask.verdicts s items) := by
  have hreports := ask.reports_run s [] items
  rw [List.length_nil, List.replicate_zero, List.nil_append] at hreports
  exact ⟨fun h ↦ h ▸ hreports, hreports.unique⟩

end Examiner

end QueueJournal
