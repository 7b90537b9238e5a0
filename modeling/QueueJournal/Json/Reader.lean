import QueueJournal.Json.Scalar
import QueueJournal.Json.Sequence

/-!
# Reading a JSON value

A value is read with the arrays and objects that are open around it on a stack. When a value is
complete it goes to the innermost of them, and what follows it there decides whether another value
is read or that one is complete in turn. How many may be open at once is limited by `room`.

The members of an object are kept sorted, and the last value of a repeated key counts.
-/

namespace QueueJournal.Json

/-! ### Values without parts -/

/-- The value that a word stands for, where its first letter has been taken. -/
def readConstant (value : Json) (letters s : List Char) : Except Fault (Json × List Char) :=
  match readWord letters s with
  | .error e => .error e
  | .ok rest => .ok (value, rest)

/-- Reads the value in front of the text, which is neither an array nor an object. -/
def readScalar (s : List Char) : Except Fault (Json × List Char) :=
  match s with
  | [] => .error (.atEnd .endInValue)
  | 'n' :: r => readConstant .null "ull".toList r
  | 't' :: r => readConstant (.bool true) "rue".toList r
  | 'f' :: r => readConstant (.bool false) "alse".toList r
  | '"' :: r =>
    match readChars r with
    | .error e => .error e
    | .ok (cs, rest) => .ok (.string (String.ofList cs), rest)
  | c :: _ =>
    if beginsNumber c then
      match readNumber s with
      | .error e => .error e
      | .ok (n, rest) => .ok (.number n, rest)
    else .error (.onNext .noValue s)

theorem length_le_of_readConstant {value v : Json} {letters s r : List Char}
    (h : readConstant value letters s = .ok (v, r)) : r.length ≤ s.length := by
  rw [readConstant] at h
  split at h
  · simp at h
  · rename_i hword
    simp only [Except.ok.injEq, Prod.mk.injEq] at h
    exact h.2 ▸ length_le_of_readWord hword

theorem length_lt_of_readScalar {v : Json} {s r : List Char} (h : readScalar s = .ok (v, r)) :
    r.length < s.length := by
  unfold readScalar at h
  split at h
  · simp at h
  · exact Nat.lt_succ_of_le (length_le_of_readConstant h)
  · exact Nat.lt_succ_of_le (length_le_of_readConstant h)
  · exact Nat.lt_succ_of_le (length_le_of_readConstant h)
  · split at h
    · simp at h
    · rename_i hread
      simp only [Except.ok.injEq, Prod.mk.injEq] at h
      exact h.2 ▸ Nat.lt_succ_of_lt (length_lt_of_readChars hread)
  · split at h
    · split at h
      · simp at h
      · rename_i hread
        simp only [Except.ok.injEq, Prod.mk.injEq] at h
        exact h.2 ▸ length_lt_of_readNumber hread
    · simp at h

/-! ### Values with parts -/

/-- An array or object that is not closed yet. -/
inductive Open where
  /-- An array, with the elements read so far, the latest first. -/
  | array (elements : List Json)
  /-- An object, with the members read so far and the key of the next. -/
  | object (members : List (String × Json)) (key : String)

mutual

/-- Reads the value in front of the text and what follows it in the open arrays and objects, the
innermost first. -/
def readInside (room : Nat) (around : List Open) (s : List Char) :
    Except Fault (Json × List Char) :=
  match hs : skipSpace s with
  | [] => .error (.atEnd .endInValue)
  | c :: r =>
    have := length_lt_of_skipSpace hs
    if c = '[' then
      if around.length < room then
        match h : nextElement true r with
        | .error e => .error e
        | .ok (.done rest) =>
          have := length_lt_of_nextElement_done h
          readBehind room around (.array []) rest
        | .ok (.more rest) =>
          have := length_le_of_nextElement_more h
          readInside room (.array [] :: around) rest
      else .error (.onNext .tooDeep (c :: r))
    else if c = '\x7b' then
      if around.length < room then
        match h : nextKey true r with
        | .error e => .error e
        | .ok (.done rest) =>
          have := length_lt_of_nextKey_done h
          readBehind room around (.object []) rest
        | .ok (.more key rest) =>
          have := length_lt_of_nextKey_more h
          match h' : readColon rest with
          | .error e => .error e
          | .ok rest' =>
            have := length_lt_of_readColon h'
            readInside room (.object [] (String.ofList key) :: around) rest'
      else .error (.onNext .tooDeep (c :: r))
    else
      match h : readScalar (skipSpace s) with
      | .error e => .error e
      | .ok (value, rest) =>
        have := length_lt_of_readScalar h
        have := length_skipSpace_le s
        readBehind room around value rest
termination_by s.length
decreasing_by all_goals omega

/-- Hands a value to the innermost open array or object, and goes on with what follows it there. -/
def readBehind (room : Nat) (around : List Open) (value : Json) (s : List Char) :
    Except Fault (Json × List Char) :=
  match around with
  | [] => .ok (value, s)
  | .array elements :: around =>
    match h : nextElement false s with
    | .error e => .error e
    | .ok (.done rest) =>
      have := length_lt_of_nextElement_done h
      readBehind room around (.array (value :: elements).reverse) rest
    | .ok (.more rest) =>
      have := length_lt_of_nextElement_more h
      readInside room (.array (value :: elements) :: around) rest
  | .object members key :: around =>
    match h : nextKey false s with
    | .error e => .error e
    | .ok (.done rest) =>
      have := length_lt_of_nextKey_done h
      readBehind room around (.object (insertMember key value members)) rest
    | .ok (.more key' rest) =>
      have := length_lt_of_nextKey_more h
      match h' : readColon rest with
      | .error e => .error e
      | .ok rest' =>
        have := length_lt_of_readColon h'
        readInside room (.object (insertMember key value members) (String.ofList key') :: around)
          rest'
termination_by s.length
decreasing_by all_goals omega

end

/-- Reads a value in which at most `room` arrays and objects lie inside one another. -/
def read (room : Nat) (s : List Char) : Except Fault (Json × List Char) :=
  readInside room [] s

/-- A value that is read takes at least one character, and what follows it none or more. -/
theorem length_of_read_le (room n : Nat) :
    (∀ around s v r, s.length ≤ n → readInside room around s = .ok (v, r) →
        r.length < s.length) ∧
      (∀ around value s v r, s.length ≤ n → readBehind room around value s = .ok (v, r) →
        r.length ≤ s.length) := by
  induction n using Nat.strongRecOn with
  | ind n ih =>
    have inside : ∀ around s v r, s.length ≤ n → readInside room around s = .ok (v, r) →
        r.length < s.length := by
      intro around s v r hn h
      rw [readInside] at h
      split at h
      · simp at h
      · rename_i c t hs
        have ht := length_lt_of_skipSpace hs
        dsimp only at h
        split at h
        · split at h
          · split at h
            · simp at h
            · rename_i rest hnext
              have := length_lt_of_nextElement_done hnext
              have := (ih rest.length (by omega)).2 _ _ _ _ _ (Nat.le_refl _) h
              omega
            · rename_i rest hnext
              have := length_le_of_nextElement_more hnext
              have := (ih rest.length (by omega)).1 _ _ _ _ (Nat.le_refl _) h
              omega
          · simp at h
        · split at h
          · split at h
            · split at h
              · simp at h
              · rename_i rest hnext
                have := length_lt_of_nextKey_done hnext
                have := (ih rest.length (by omega)).2 _ _ _ _ _ (Nat.le_refl _) h
                omega
              · rename_i rest hnext
                have := length_lt_of_nextKey_more hnext
                split at h
                · simp at h
                · rename_i rest' hcolon
                  have := length_lt_of_readColon hcolon
                  have := (ih rest'.length (by omega)).1 _ _ _ _ (Nat.le_refl _) h
                  omega
            · simp at h
          · split at h
            · simp at h
            · rename_i value rest hscalar
              have := length_lt_of_readScalar hscalar
              have := length_skipSpace_le s
              have := (ih rest.length (by omega)).2 _ _ _ _ _ (Nat.le_refl _) h
              omega
    refine ⟨inside, ?_⟩
    intro around value s v r hn h
    unfold readBehind at h
    split at h
    · simp only [Except.ok.injEq, Prod.mk.injEq] at h
      exact h.2 ▸ Nat.le_refl _
    · split at h
      · simp at h
      · rename_i rest hnext
        have := length_lt_of_nextElement_done hnext
        have := (ih rest.length (by omega)).2 _ _ _ _ _ (Nat.le_refl _) h
        omega
      · rename_i rest hnext
        have := length_lt_of_nextElement_more hnext
        have := inside _ _ _ _ (by omega) h
        omega
    · split at h
      · simp at h
      · rename_i rest hnext
        have := length_lt_of_nextKey_done hnext
        have := (ih rest.length (by omega)).2 _ _ _ _ _ (Nat.le_refl _) h
        omega
      · rename_i rest hnext
        have := length_lt_of_nextKey_more hnext
        split at h
        · simp at h
        · rename_i rest' hcolon
          have := length_lt_of_readColon hcolon
          have := inside _ _ _ _ (by omega) h
          omega

theorem length_lt_of_read {room : Nat} {s r : List Char} {v : Json}
    (h : read room s = .ok (v, r)) : r.length < s.length :=
  (length_of_read_le room s.length).1 _ _ _ _ (Nat.le_refl _) h

end QueueJournal.Json
