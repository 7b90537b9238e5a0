import QueueJournal.Json.NumberLiteral
import QueueJournal.Json.StringLiteral

/-!
# Passing over a JSON value

The value of a key that means nothing is passed over: its form is checked, its content is not kept.
There is no limit to how deep its arrays and objects may lie inside one another. Which kinds are
still open is remembered, the innermost first; after a comma an array goes on with a value and an
object with a key.
-/

namespace QueueJournal.Json

/-- An array or an object. -/
inductive Container where
  /-- Elements between square brackets. -/
  | array
  /-- Members between braces. -/
  | object
deriving DecidableEq, Repr

/-- The bracket that ends it. -/
def Container.closing : Container → Char
  | .array => ']'
  | .object => '\x7d'

/-- The cause of a text that ends inside it. -/
def Container.endCause : Container → Cause
  | .array => .endInArray
  | .object => .endInObject

/-- The cause of an element that is followed neither by a comma nor by the end. -/
def Container.separatorCause : Container → Cause
  | .array => .noArraySeparator
  | .object => .noObjectSeparator

/-- Passes over the value in front of the text, which is neither an array nor an object. -/
def skipScalar (s : List Char) : Except Fault (List Char) :=
  match s with
  | [] => .error (.atEnd .endInValue)
  | 'n' :: r => readWord "ull".toList r
  | 't' :: r => readWord "rue".toList r
  | 'f' :: r => readWord "alse".toList r
  | '"' :: r => skipChars r
  | c :: _ => if beginsNumber c then skipNumber s else .error (.onNext .noValue s)

/-- Passes over a key and its colon where there is one: in front of a member of an object. -/
def skipKey (container : Container) (s : List Char) : Except Fault (List Char) :=
  match container with
  | .array => .ok s
  | .object =>
    match skipSpace s with
    | [] => .error (.atEnd .endInObject)
    | c :: r =>
      if c = '"' then
        match skipChars r with
        | .error e => .error e
        | .ok rest => readColon rest
      else .error (.onNext .keyNotString (c :: r))

theorem length_lt_of_skipScalar {s r : List Char} (h : skipScalar s = .ok r) :
    r.length < s.length := by
  unfold skipScalar at h
  split at h
  · simp at h
  · exact Nat.lt_succ_of_le (length_le_of_readWord h)
  · exact Nat.lt_succ_of_le (length_le_of_readWord h)
  · exact Nat.lt_succ_of_le (length_le_of_readWord h)
  · exact Nat.lt_succ_of_lt (length_lt_of_skipChars h)
  · split at h
    · exact length_lt_of_skipNumber h
    · simp at h

theorem length_le_of_skipKey {container : Container} {s r : List Char}
    (h : skipKey container s = .ok r) : r.length ≤ s.length := by
  cases container with
  | array =>
    simp only [skipKey, Except.ok.injEq] at h
    exact h ▸ Nat.le_refl _
  | object =>
    simp only [skipKey] at h
    split at h
    · simp at h
    · rename_i hs
      have := length_lt_of_skipSpace hs
      split at h
      · split at h
        · simp at h
        · rename_i hchars
          have := length_lt_of_skipChars hchars
          have := length_lt_of_readColon h
          omega
      · simp at h

mutual

/-- Passes over the value in front of the text and what follows it in the open containers. -/
def skipInside (around : List Container) (s : List Char) : Except Fault (List Char) :=
  match hs : skipSpace s with
  | [] => .error (.atEnd .endInValue)
  | c :: r =>
    have := length_lt_of_skipSpace hs
    if c = '[' then skipOpened .array around r
    else if c = '\x7b' then skipOpened .object around r
    else
      match h : skipScalar (skipSpace s) with
      | .error e => .error e
      | .ok rest =>
        have := length_lt_of_skipScalar h
        have := length_skipSpace_le s
        skipBehind around rest
termination_by (s.length, 0)
decreasing_by all_goals (apply Prod.Lex.left; omega)

/-- Passes over a container behind its opening bracket, and what follows it. -/
def skipOpened (container : Container) (around : List Container) (s : List Char) :
    Except Fault (List Char) :=
  match hs : skipSpace s with
  | [] => .error (.atEnd container.endCause)
  | c :: r =>
    have := length_lt_of_skipSpace hs
    if c = container.closing then skipBehind around r
    else
      match h : skipKey container s with
      | .error e => .error e
      | .ok rest =>
        have := length_le_of_skipKey h
        skipInside (container :: around) rest
termination_by (s.length, 1)
decreasing_by
  · exact Prod.Lex.left _ _ ‹r.length < s.length›
  · rcases Nat.lt_or_eq_of_le ‹rest.length ≤ s.length› with hlt | heq
    · exact Prod.Lex.left _ _ hlt
    · rw [heq]
      exact Prod.Lex.right _ (by decide)

/-- Passes over what follows a value in the open containers. -/
def skipBehind (around : List Container) (s : List Char) : Except Fault (List Char) :=
  match around with
  | [] => .ok s
  | container :: around =>
    match hs : skipSpace s with
    | [] => .error (.atEnd container.endCause)
    | c :: r =>
      have := length_lt_of_skipSpace hs
      if c = ',' then
        match h : skipKey container r with
        | .error e => .error e
        | .ok rest =>
          have := length_le_of_skipKey h
          skipInside (container :: around) rest
      else if c = container.closing then skipBehind around r
      else .error (.onNext container.separatorCause (c :: r))
termination_by (s.length, 0)
decreasing_by all_goals (apply Prod.Lex.left; omega)

end

/-- Passes over a value. -/
def skip (s : List Char) : Except Fault (List Char) :=
  skipInside [] s

/-- A value that is passed over takes at least one character, and what follows it none or more. -/
theorem length_of_skip_le (n : Nat) :
    (∀ around s r, s.length ≤ n → skipInside around s = .ok r → r.length < s.length) ∧
      (∀ container around s r, s.length ≤ n → skipOpened container around s = .ok r →
        r.length < s.length) ∧
      (∀ around s r, s.length ≤ n → skipBehind around s = .ok r → r.length ≤ s.length) := by
  induction n using Nat.strongRecOn with
  | ind n ih =>
    have inside : ∀ around s r, s.length ≤ n → skipInside around s = .ok r →
        r.length < s.length := by
      intro around s r hn h
      rw [skipInside] at h
      split at h
      · simp at h
      · rename_i c t hs
        have ht := length_lt_of_skipSpace hs
        have ih' := ih t.length (by omega)
        dsimp only at h
        split at h
        · have := ih'.2.1 _ _ _ _ (Nat.le_refl _) h
          omega
        · split at h
          · have := ih'.2.1 _ _ _ _ (Nat.le_refl _) h
            omega
          · split at h
            · simp at h
            · rename_i rest hscalar
              have := length_lt_of_skipScalar hscalar
              have := length_skipSpace_le s
              have := (ih rest.length (by omega)).2.2 _ _ _ (Nat.le_refl _) h
              omega
    refine ⟨inside, ?_, ?_⟩
    · intro container around s r hn h
      rw [skipOpened] at h
      split at h
      · simp at h
      · rename_i c t hs
        have ht := length_lt_of_skipSpace hs
        dsimp only at h
        split at h
        · have := (ih t.length (by omega)).2.2 _ _ _ (Nat.le_refl _) h
          omega
        · split at h
          · simp at h
          · rename_i rest hkey
            have := length_le_of_skipKey hkey
            have := inside _ _ _ (by omega) h
            omega
    · intro around s r hn h
      unfold skipBehind at h
      split at h
      · simp only [Except.ok.injEq] at h
        exact h ▸ Nat.le_refl _
      · split at h
        · simp at h
        · rename_i c t hs
          have ht := length_lt_of_skipSpace hs
          dsimp only at h
          split at h
          · split at h
            · simp at h
            · rename_i rest hkey
              have := length_le_of_skipKey hkey
              have := inside _ _ _ (by omega) h
              omega
          · split at h
            · have := (ih t.length (by omega)).2.2 _ _ _ (Nat.le_refl _) h
              omega
            · simp at h

theorem length_lt_of_skip {s r : List Char} (h : skip s = .ok r) : r.length < s.length :=
  (length_of_skip_le s.length).1 _ _ _ (Nat.le_refl _) h

end QueueJournal.Json
