import QueueJournal.Json.StringLiteral

/-!
# What follows an element

Between the elements of an array and the members of an object stand commas, and none before the end.
The readers here look for what comes next: the end of the array or object, which is taken, or
another element or key.
-/

namespace QueueJournal.Json

/-- What comes next in an array. -/
inductive NextElement where
  /-- The array ends; the text behind its bracket. -/
  | done (rest : List Char)
  /-- There is another element; the text that begins with it. -/
  | more (rest : List Char)

/-- What comes next in an object. -/
inductive NextKey where
  /-- The object ends; the text behind its bracket. -/
  | done (rest : List Char)
  /-- There is another member; its key and the text behind that. -/
  | more (key : List Char) (rest : List Char)

/-- The element of an array in front of the text, which may not be missing. -/
def elementAfterComma (s : List Char) : Except Fault NextElement :=
  match skipSpace s with
  | [] => .error (.atEnd .endInValue)
  | c :: r => if c = ']' then .error (.onNext .trailingComma (c :: r)) else .ok (.more (c :: r))

/-- What comes behind the opening bracket of an array, or behind an element. -/
def nextElement (first : Bool) (s : List Char) : Except Fault NextElement :=
  match skipSpace s with
  | [] => .error (.atEnd .endInArray)
  | c :: r =>
    if c = ']' then .ok (.done r)
    else if first then .ok (.more (c :: r))
    else if c = ',' then elementAfterComma r
    else .error (.onNext .noArraySeparator (c :: r))

/-- The key in front of the text, which begins with `c`. -/
def keyAt (c : Char) (r : List Char) : Except Fault NextKey :=
  if c = '"' then
    match readChars r with
    | .error e => .error e
    | .ok (key, rest) => .ok (.more key rest)
  else .error (.onNext .keyNotString (c :: r))

/-- The key behind a comma, which may not be missing. -/
def keyAfterComma (s : List Char) : Except Fault NextKey :=
  match skipSpace s with
  | [] => .error (.atEnd .endInValue)
  | c :: r => if c = '\x7d' then .error (.onNext .trailingComma (c :: r)) else keyAt c r

/-- What comes behind the opening bracket of an object, or behind a member. -/
def nextKey (first : Bool) (s : List Char) : Except Fault NextKey :=
  match skipSpace s with
  | [] => .error (.atEnd .endInObject)
  | c :: r =>
    if c = '\x7d' then .ok (.done r)
    else if first then keyAt c r
    else if c = ',' then keyAfterComma r
    else .error (.onNext .noObjectSeparator (c :: r))

theorem length_le_of_elementAfterComma {s r : List Char}
    (h : elementAfterComma s = .ok (.more r)) : r.length ≤ s.length := by
  have hle := length_skipSpace_le s
  rw [elementAfterComma] at h
  split at h
  · simp at h
  · rename_i hs
    split at h
    · simp at h
    · simp only [Except.ok.injEq, NextElement.more.injEq] at h
      rw [← h, ← hs]
      exact hle

theorem length_lt_of_nextElement_done {first : Bool} {s r : List Char}
    (h : nextElement first s = .ok (.done r)) : r.length < s.length := by
  rw [nextElement] at h
  split at h
  · simp at h
  · rename_i hs
    split at h
    · simp only [Except.ok.injEq, NextElement.done.injEq] at h
      exact h ▸ length_lt_of_skipSpace hs
    · split at h
      · simp at h
      · split at h
        · rw [elementAfterComma] at h
          split at h
          · simp at h
          · split at h <;> simp at h
        · simp at h

theorem length_le_of_nextElement_more {first : Bool} {s r : List Char}
    (h : nextElement first s = .ok (.more r)) : r.length ≤ s.length := by
  have hle := length_skipSpace_le s
  rw [nextElement] at h
  split at h
  · simp at h
  · rename_i hs
    split at h
    · simp at h
    · split at h
      · simp only [Except.ok.injEq, NextElement.more.injEq] at h
        rw [← h, ← hs]
        exact hle
      · split at h
        · have := length_le_of_elementAfterComma h
          have := length_lt_of_skipSpace hs
          omega
        · simp at h

theorem length_lt_of_nextElement_more {s r : List Char}
    (h : nextElement false s = .ok (.more r)) : r.length < s.length := by
  rw [nextElement] at h
  split at h
  · simp at h
  · rename_i hs
    split at h
    · simp at h
    · split at h
      · rename_i hfalse
        simp at hfalse
      · split at h
        · have := length_le_of_elementAfterComma h
          have := length_lt_of_skipSpace hs
          omega
        · simp at h

theorem length_lt_of_keyAt {c : Char} {s r key : List Char}
    (h : keyAt c s = .ok (.more key r)) : r.length < s.length := by
  rw [keyAt] at h
  split at h
  · split at h
    · simp at h
    · rename_i hread
      simp only [Except.ok.injEq, NextKey.more.injEq] at h
      exact h.2 ▸ length_lt_of_readChars hread
  · simp at h

theorem keyAt_ne_done {c : Char} {s r : List Char} : keyAt c s ≠ .ok (.done r) := by
  rw [keyAt]
  split
  · split <;> simp
  · simp

theorem length_lt_of_nextKey_done {first : Bool} {s r : List Char}
    (h : nextKey first s = .ok (.done r)) : r.length < s.length := by
  rw [nextKey] at h
  split at h
  · simp at h
  · rename_i hs
    split at h
    · simp only [Except.ok.injEq, NextKey.done.injEq] at h
      exact h ▸ length_lt_of_skipSpace hs
    · split at h
      · exact absurd h keyAt_ne_done
      · split at h
        · rw [keyAfterComma] at h
          split at h
          · simp at h
          · split at h
            · simp at h
            · exact absurd h keyAt_ne_done
        · simp at h

theorem length_lt_of_nextKey_more {first : Bool} {s r key : List Char}
    (h : nextKey first s = .ok (.more key r)) : r.length < s.length := by
  rw [nextKey] at h
  split at h
  · simp at h
  · rename_i hs
    have := length_lt_of_skipSpace hs
    split at h
    · simp at h
    · split at h
      · have := length_lt_of_keyAt h
        omega
      · split at h
        · rw [keyAfterComma] at h
          split at h
          · simp at h
          · rename_i hr
            have := length_lt_of_skipSpace hr
            split at h
            · simp at h
            · have := length_lt_of_keyAt h
              omega
        · simp at h

end QueueJournal.Json
