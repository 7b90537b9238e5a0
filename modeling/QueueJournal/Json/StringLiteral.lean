import QueueJournal.Json.Scan

/-!
# Strings of a JSON text

Reading, passing over and writing a string. The readers start behind the opening quote. Passing over
a string checks its escapes only in form: four hexadecimal digits that name half of a surrogate pair
are a fault in a string that is read, and none in one that is skipped.

Quote, backslash and the controls below the space are escaped when a string is written, those with a
letter of their own by it; all else is written as it is. The written form comes in pieces, each of
which is handed to the file by itself.
-/

namespace QueueJournal.Json

/-! ### Reading -/

/-- The number that hexadecimal digits stand for. -/
def hexValue? (digits : List Char) : Option Nat :=
  digits.foldlM (fun n c ↦ (Text.hexDigit? c).map (16 * n + ·)) 0

/-- Four hexadecimal digits. Four bytes are taken before they are looked at. -/
def readFourHex (s : List Char) : Except Fault (Nat × List Char) :=
  if Text.byteCount s < 4 then .error (.atEnd .endInString)
  else
    match hexValue? (s.take 4) with
    | some n => .ok (n, s.drop 4)
    | none => .error (.placed .badEscape (Text.byteCount s - 4))

/-- The second half of a surrogate pair, whose first half is given. -/
def readLowSurrogate (high : Nat) : List Char → Except Fault (Char × List Char)
  | [] => .error (.atEnd .endInString)
  | '\\' :: [] => .error (.atEnd .endInString)
  | '\\' :: 'u' :: s =>
    match readFourHex s with
    | .error e => .error e
    | .ok (low, r) =>
      if 0xdc00 ≤ low ∧ low ≤ 0xdfff then
        .ok (Char.ofNat (0x10000 + (high - 0xd800) * 0x400 + (low - 0xdc00)), r)
      else .error (.here .loneSurrogate r)
  | '\\' :: c :: s => .error (.onNext .halfSurrogatePair (c :: s))
  | c :: s => .error (.onNext .halfSurrogatePair (c :: s))

/-- The character named by four hexadecimal digits, or by a pair of them. -/
def readCodeUnits (s : List Char) : Except Fault (Char × List Char) :=
  match readFourHex s with
  | .error e => .error e
  | .ok (n, r) =>
    if 0xdc00 ≤ n ∧ n ≤ 0xdfff then .error (.here .loneSurrogate r)
    else if 0xd800 ≤ n ∧ n ≤ 0xdbff then readLowSurrogate n r
    else .ok (Char.ofNat n, r)

/-- The escapes of one letter, and what they stand for. -/
def shortEscape? (c : Char) : Option Char :=
  if c = '"' then some '"'
  else if c = '\\' then some '\\'
  else if c = '/' then some '/'
  else if c = 'b' then some '\x08'
  else if c = 'f' then some '\x0c'
  else if c = 'n' then some '\n'
  else if c = 'r' then some '\r'
  else if c = 't' then some '\t'
  else none

/-- What follows a backslash. -/
def readEscape : List Char → Except Fault (Char × List Char)
  | [] => .error (.atEnd .endInString)
  | c :: s =>
    match shortEscape? c with
    | some d => .ok (d, s)
    | none => if c = 'u' then readCodeUnits s else .error (.onNext .badEscape (c :: s))

/-- Whether a character may not stand in a string unescaped. -/
def isControl (c : Char) : Bool :=
  c.toNat < 0x20

theorem length_le_of_readFourHex {s r : List Char} {n : Nat} (h : readFourHex s = .ok (n, r)) :
    r.length ≤ s.length := by
  rw [readFourHex] at h
  split at h
  · simp at h
  · split at h
    · simp only [Except.ok.injEq, Prod.mk.injEq] at h
      rw [← h.2, List.length_drop]
      omega
    · simp at h

theorem length_lt_of_readLowSurrogate {high : Nat} {s r : List Char} {c : Char}
    (h : readLowSurrogate high s = .ok (c, r)) : r.length < s.length := by
  unfold readLowSurrogate at h
  split at h
  · simp at h
  · simp at h
  · split at h
    · simp at h
    · rename_i hread
      have := length_le_of_readFourHex hread
      split at h
      · simp only [Except.ok.injEq, Prod.mk.injEq] at h
        simp only [List.length_cons, ← h.2]
        omega
      · simp at h
  · simp at h
  · simp at h

theorem length_le_of_readCodeUnits {s r : List Char} {c : Char}
    (h : readCodeUnits s = .ok (c, r)) : r.length ≤ s.length := by
  rw [readCodeUnits] at h
  split at h
  · simp at h
  · rename_i hread
    have := length_le_of_readFourHex hread
    split at h
    · simp at h
    · split at h
      · have := length_lt_of_readLowSurrogate h
        omega
      · simp only [Except.ok.injEq, Prod.mk.injEq] at h
        exact h.2 ▸ this

theorem length_lt_of_readEscape {s r : List Char} {c : Char} (h : readEscape s = .ok (c, r)) :
    r.length < s.length := by
  cases s with
  | nil => simp [readEscape] at h
  | cons d s =>
    rw [readEscape] at h
    split at h
    · simp only [Except.ok.injEq, Prod.mk.injEq] at h
      simp [← h.2]
    · split at h
      · have := length_le_of_readCodeUnits h
        simp only [List.length_cons]
        omega
      · simp at h

/-- The characters of a string up to its closing quote, which is taken too. -/
def readChars (s : List Char) : Except Fault (List Char × List Char) :=
  match s with
  | [] => .error (.atEnd .endInString)
  | c :: r =>
    if c = '"' then .ok ([], r)
    else if c = '\\' then
      match h : readEscape r with
      | .error e => .error e
      | .ok (d, r') =>
        have := length_lt_of_readEscape h
        match readChars r' with
        | .error e => .error e
        | .ok (cs, rest) => .ok (d :: cs, rest)
    else if isControl c then .error (.onNext .controlCharacter (c :: r))
    else
      match readChars r with
      | .error e => .error e
      | .ok (cs, rest) => .ok (c :: cs, rest)
termination_by s.length
decreasing_by all_goals (simp only [List.length_cons]; omega)

theorem length_lt_of_readChars {s cs r : List Char} (h : readChars s = .ok (cs, r)) :
    r.length < s.length := by
  fun_induction readChars s generalizing cs r with
  | case1 => simp at h
  | case2 t =>
    simp only [Except.ok.injEq, Prod.mk.injEq] at h
    simp [← h.2]
  | case3 => simp at h
  | case4 => simp at h
  | case5 t d r' hesc hlt ds rest hrec _ ih =>
    simp only [Except.ok.injEq, Prod.mk.injEq] at h
    have := ih hrec
    simp only [List.length_cons, ← h.2]
    omega
  | case6 => simp at h
  | case7 => simp at h
  | case8 c t hq hb hc ds rest hrec ih =>
    simp only [Except.ok.injEq, Prod.mk.injEq] at h
    have := ih hrec
    simp only [List.length_cons, ← h.2]
    omega

/-! ### Passing over -/

/-- Passes over what follows a backslash. -/
def skipEscape : List Char → Except Fault (List Char)
  | [] => .error (.atEnd .endInString)
  | c :: s =>
    if (shortEscape? c).isSome then .ok s
    else if c = 'u' then
      match readFourHex s with
      | .error e => .error e
      | .ok (_, r) => .ok r
    else .error (.onNext .badEscape (c :: s))

theorem length_lt_of_skipEscape {s r : List Char} (h : skipEscape s = .ok r) :
    r.length < s.length := by
  cases s with
  | nil => simp [skipEscape] at h
  | cons c s =>
    rw [skipEscape] at h
    split at h
    · simp only [Except.ok.injEq] at h
      simp [← h]
    · split at h
      · split at h
        · simp at h
        · rename_i hread
          have := length_le_of_readFourHex hread
          simp only [Except.ok.injEq] at h
          simp only [List.length_cons, ← h]
          omega
      · simp at h

/-- Passes over the characters of a string and its closing quote. -/
def skipChars (s : List Char) : Except Fault (List Char) :=
  match s with
  | [] => .error (.atEnd .endInString)
  | c :: r =>
    if c = '"' then .ok r
    else if c = '\\' then
      match h : skipEscape r with
      | .error e => .error e
      | .ok r' =>
        have := length_lt_of_skipEscape h
        skipChars r'
    else if isControl c then .error (.here .controlCharacter (c :: r))
    else skipChars r
termination_by s.length
decreasing_by all_goals (simp only [List.length_cons]; omega)

theorem length_lt_of_skipChars {s r : List Char} (h : skipChars s = .ok r) :
    r.length < s.length := by
  fun_induction skipChars s with
  | case1 => simp at h
  | case2 t =>
    simp only [Except.ok.injEq] at h
    simp [← h]
  | case3 => simp at h
  | case4 t r' hesc hlt _ ih =>
    have := ih h
    simp only [List.length_cons]
    omega
  | case5 => simp at h
  | case6 c t hq hb hc ih =>
    have := ih h
    simp only [List.length_cons]
    omega

/-! ### Writing -/

/-- The escape that a character is written as, if it is written as one. -/
def escape? (c : Char) : Option (List Char) :=
  if c = '"' then some ['\\', '"']
  else if c = '\\' then some ['\\', '\\']
  else if c = '\x08' then some ['\\', 'b']
  else if c = '\t' then some ['\\', 't']
  else if c = '\n' then some ['\\', 'n']
  else if c = '\x0c' then some ['\\', 'f']
  else if c = '\r' then some ['\\', 'r']
  else if isControl c then
    some (['\\', 'u', '0', '0'] ++ [Nat.digitChar (c.toNat / 16), Nat.digitChar (c.toNat % 16)])
  else none

/-- A character as it stands in a written string. -/
def writeChar (c : Char) : List Char :=
  (escape? c).getD [c]

/-- The pieces of a string's content, where the characters of `run`, latest first, have been met
since the last escape: the longest runs without escapes, and every escape by itself. -/
def contentPieces (run : List Char) : List Char → List (List Char)
  | [] => if run.isEmpty then [] else [run.reverse]
  | c :: s =>
    match escape? c with
    | none => contentPieces (c :: run) s
    | some e => (if run.isEmpty then [] else [run.reverse]) ++ e :: contentPieces [] s

/-- The pieces of a written string. -/
def stringPieces (s : List Char) : List (List Char) :=
  ['"'] :: contentPieces [] s ++ [['"']]

theorem flatten_contentPieces (run s : List Char) :
    (contentPieces run s).flatten = run.reverse ++ s.flatMap writeChar := by
  induction s generalizing run with
  | nil => cases run <;> simp [contentPieces]
  | cons c s ih =>
    rw [contentPieces]
    cases h : escape? c with
    | none => simp [ih, writeChar, h]
    | some e => cases run <;> simp [ih, writeChar, h]

/-- The pieces of a string make up its characters, each written by itself, between quotes. -/
theorem flatten_stringPieces (s : List Char) :
    (stringPieces s).flatten = '"' :: s.flatMap writeChar ++ ['"'] := by
  simp [stringPieces, flatten_contentPieces]

end QueueJournal.Json
