import QueueJournal.Json.NumberLiteral
import QueueJournal.Json.StringLiteral

/-!
# Values of a known kind

Readers of a value whose kind is fixed by its place. A value of another kind is read far enough to
name it: a scalar to its end, an array or object not at all. If it is malformed, that is the fault.
-/

namespace QueueJournal.Json

/-- The fault of the value in front, which is not of the expected kind. -/
def unexpected (expected : String) (s : List Char) : Fault :=
  match s with
  | [] => .atEnd .endInValue
  | 'n' :: r => word .null "ull".toList r
  | 't' :: r => word (.bool true) "rue".toList r
  | 'f' :: r => word (.bool false) "alse".toList r
  | '"' :: r =>
    match readChars r with
    | .error e => e
    | .ok (cs, rest) => .here (.wrongKind (.string cs) expected) rest
  | '[' :: _ => .here (.wrongKind .array expected) s
  | '\x7b' :: _ => .here (.wrongKind .object expected) s
  | c :: _ =>
    if beginsNumber c then
      match readNumber s with
      | .error e => e
      | .ok (n, rest) => .here (.wrongKind (.ofNumber n) expected) rest
    else .onNext .noValue s
where
  /-- The fault of a word, of which the first letter has been taken. -/
  word (found : Unexpected) (letters r : List Char) : Fault :=
    match readWord letters r with
    | .error e => e
    | .ok rest => .here (.wrongKind found expected) rest

/-- An integer between two bounds. -/
def readInteger (expected : String) (low high : Int) (s : List Char) :
    Except Fault (Int × List Char) :=
  match skipSpace s with
  | [] => .error (.atEnd .endInValue)
  | c :: r =>
    if beginsNumber c then
      match readNumber (c :: r) with
      | .error e => .error e
      | .ok (.integer n, rest) =>
        if low ≤ n ∧ n ≤ high then .ok (n, rest)
        else .error (.here (.outOfRange n expected) rest)
      | .ok (.floating x, rest) => .error (.here (.wrongKind (.floating x) expected) rest)
    else .error (unexpected expected (c :: r))

/-- A natural number of at most sixty-four bits. -/
def readNat (expected : String) (s : List Char) : Except Fault (Nat × List Char) :=
  match readInteger expected 0 (UInt64.size - 1 : Nat) s with
  | .error e => .error e
  | .ok (n, r) => .ok (n.toNat, r)

/-- A floating-point number; an integer counts as one. -/
def readFloating (expected : String) (s : List Char) : Except Fault (Binary64 × List Char) :=
  match skipSpace s with
  | [] => .error (.atEnd .endInValue)
  | c :: r =>
    if beginsNumber c then
      match readNumber (c :: r) with
      | .error e => .error e
      | .ok (.integer n, rest) => .ok (.ofInt n, rest)
      | .ok (.floating x, rest) => .ok (x, rest)
    else .error (unexpected expected (c :: r))

/-- A truth value. -/
def readBool (s : List Char) : Except Fault (Bool × List Char) :=
  match skipSpace s with
  | [] => .error (.atEnd .endInValue)
  | 't' :: r =>
    match readWord "rue".toList r with
    | .error e => .error e
    | .ok rest => .ok (true, rest)
  | 'f' :: r =>
    match readWord "alse".toList r with
    | .error e => .error e
    | .ok rest => .ok (false, rest)
  | s => .error (unexpected "a boolean" s)

/-- A string. -/
def readString (expected : String) (s : List Char) : Except Fault (List Char × List Char) :=
  match skipSpace s with
  | [] => .error (.atEnd .endInValue)
  | '"' :: r => readChars r
  | s => .error (unexpected expected s)

/-- The word `null`. -/
def readNull (s : List Char) : Except Fault (List Char) :=
  match skipSpace s with
  | [] => .error (.atEnd .endInValue)
  | 'n' :: r => readWord "ull".toList r
  | s => .error (unexpected "unit" s)

/-- A value, or the word `null` for none. -/
def readOption {α : Type} (read : List Char → Except Fault (α × List Char)) (s : List Char) :
    Except Fault (Option α × List Char) :=
  match skipSpace s with
  | 'n' :: r =>
    match readWord "ull".toList r with
    | .error e => .error e
    | .ok rest => .ok (none, rest)
  | s =>
    match read s with
    | .error e => .error e
    | .ok (a, rest) => .ok (some a, rest)

/-! ### What the readers leave -/

theorem length_lt_of_readInteger {expected : String} {low high n : Int} {s r : List Char}
    (h : readInteger expected low high s = .ok (n, r)) : r.length < s.length := by
  have hle := length_skipSpace_le s
  rw [readInteger] at h
  split at h
  · simp at h
  · rename_i c t hs
    rw [hs] at hle
    split at h
    · split at h
      · simp at h
      · rename_i hread
        have := length_lt_of_readNumber hread
        split at h
        · simp only [Except.ok.injEq, Prod.mk.injEq] at h
          rw [← h.2]
          omega
        · simp at h
      · simp at h
    · simp at h

theorem length_lt_of_readNat {expected : String} {n : Nat} {s r : List Char}
    (h : readNat expected s = .ok (n, r)) : r.length < s.length := by
  rw [readNat] at h
  split at h
  · simp at h
  · rename_i hread
    simp only [Except.ok.injEq, Prod.mk.injEq] at h
    exact h.2 ▸ length_lt_of_readInteger hread

theorem length_lt_of_readFloating {expected : String} {x : Binary64} {s r : List Char}
    (h : readFloating expected s = .ok (x, r)) : r.length < s.length := by
  have hle := length_skipSpace_le s
  rw [readFloating] at h
  split at h
  · simp at h
  · rename_i c t hs
    rw [hs] at hle
    split at h
    · split at h
      · simp at h
      all_goals
        rename_i hread
        have := length_lt_of_readNumber hread
        simp only [Except.ok.injEq, Prod.mk.injEq] at h
        rw [← h.2]
        omega
    · simp at h

theorem length_lt_of_readBool {b : Bool} {s r : List Char} (h : readBool s = .ok (b, r)) :
    r.length < s.length := by
  rw [readBool] at h
  split at h
  · simp at h
  · rename_i t hs
    have := length_lt_of_skipSpace hs
    split at h
    · simp at h
    · rename_i hread
      have := length_le_of_readWord hread
      simp only [Except.ok.injEq, Prod.mk.injEq] at h
      rw [← h.2]
      omega
  · rename_i t hs
    have := length_lt_of_skipSpace hs
    split at h
    · simp at h
    · rename_i hread
      have := length_le_of_readWord hread
      simp only [Except.ok.injEq, Prod.mk.injEq] at h
      rw [← h.2]
      omega
  · simp at h

theorem length_lt_of_readString {expected : String} {cs s r : List Char}
    (h : readString expected s = .ok (cs, r)) : r.length < s.length := by
  rw [readString] at h
  split at h
  · simp at h
  · rename_i hs
    have := length_lt_of_skipSpace hs
    have := length_lt_of_readChars h
    omega
  · simp at h

theorem length_lt_of_readNull {s r : List Char} (h : readNull s = .ok r) : r.length < s.length := by
  rw [readNull] at h
  split at h
  · simp at h
  · rename_i hs
    have := length_lt_of_skipSpace hs
    have := length_le_of_readWord h
    omega
  · simp at h

theorem length_lt_of_readOption {α : Type} {read : List Char → Except Fault (α × List Char)}
    (hread : ∀ {s r a}, read s = .ok (a, r) → r.length < s.length) {o : Option α} {s r : List Char}
    (h : readOption read s = .ok (o, r)) : r.length < s.length := by
  have hle := length_skipSpace_le s
  rw [readOption] at h
  split at h
  · rename_i hs
    have := length_lt_of_skipSpace hs
    split at h
    · simp at h
    · rename_i hword
      have := length_le_of_readWord hword
      simp only [Except.ok.injEq, Prod.mk.injEq] at h
      rw [← h.2]
      omega
  · split at h
    · simp at h
    · rename_i hval
      have := hread hval
      simp only [Except.ok.injEq, Prod.mk.injEq] at h
      rw [← h.2]
      omega

end QueueJournal.Json
