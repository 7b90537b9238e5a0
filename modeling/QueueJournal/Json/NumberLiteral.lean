import QueueJournal.Json.Scan

/-!
# Numbers of a JSON text

A number is read as an integer as long as it has neither fraction nor exponent and fits sixty-four
bits, unsigned or, behind a minus, signed. Any other number is a decimal of a sixty-four bit
significand: digits that no longer fit it are dropped, in front of the point by raising the
exponent, and the decimal is rounded to a floating-point number. Minus zero is a floating-point
number.
-/

namespace QueueJournal.Json

/-! ### Digits -/

/-- The value of a decimal digit. -/
def digitValue (c : Char) : Nat :=
  c.toNat - '0'.toNat

/-- Appends digits to a significand as long as it stays below `2 ^ 64`; the first digit that does
not fit and all behind it are dropped. Gives the significand and how many digits were dropped. -/
def absorb (significand : Nat) : List Char → Nat × Nat
  | [] => (significand, 0)
  | d :: digits =>
    let next := 10 * significand + digitValue d
    if next < UInt64.size then absorb next digits else (significand, digits.length + 1)

/-- The number that the digits of an exponent stand for, or the digits that are left when it passes
`2 ^ 31 - 1`. -/
def readExponentDigits (exponent : Nat) : List Char → Nat ⊕ List Char
  | [] => .inl exponent
  | d :: digits =>
    let next := 10 * exponent + digitValue d
    if next < 1 <<< 31 then readExponentDigits next digits else .inr digits

/-- The text behind the digits in front of it. -/
def skipDigits (s : List Char) : List Char :=
  s.dropWhile Char.isDigit

theorem length_skipDigits_le (s : List Char) : (skipDigits s).length ≤ s.length :=
  (List.dropWhile_sublist _).length_le

/-! ### Reading -/

/-- Gives a magnitude its sign. -/
def withSign (negative : Bool) (x : Binary64) : Number :=
  .floating (if negative then x.negate else x)

/-- The number of a decimal, read up to the text that is left. -/
def finishDecimal (negative : Bool) (significand : Nat) (exponent : Int) (rest : List Char) :
    Except Fault (Number × List Char) :=
  match Binary64.ofDecimal? significand exponent with
  | some x => .ok (withSign negative x, rest)
  | none => .error (.here .numberTooGreat rest)

/-- The number of a literal that is only digits. -/
def finishInteger (negative : Bool) (significand : Nat) : Number :=
  if negative then
    if significand = 0 ∨ 1 <<< 63 < significand then
      withSign true ((Binary64.nearest? significand 1).getD .zero)
    else .integer (-significand)
  else .integer significand

/-- The sign of an exponent, and the text behind it. -/
def takeExponentSign : List Char → Bool × List Char
  | '-' :: s => (true, s)
  | '+' :: s => (false, s)
  | s => (false, s)

/-- What follows the letter of an exponent. An exponent of more than thirty-one bits makes the
number zero if the significand is zero or the exponent negative, and too great otherwise. -/
def readExponent (negative : Bool) (significand : Nat) (exponent : Int) (s : List Char) :
    Except Fault (Number × List Char) :=
  let (negativeExponent, s) := takeExponentSign s
  match s with
  | [] => .error (.atEnd .endInValue)
  | c :: _ =>
    if c.isDigit then
      match readExponentDigits 0 (s.takeWhile Char.isDigit) with
      | .inl e =>
        finishDecimal negative significand (if negativeExponent then exponent - e else exponent + e)
          (skipDigits s)
      | .inr left =>
        if significand ≠ 0 ∧ ¬negativeExponent then
          .error (.here .numberTooGreat (left ++ skipDigits s))
        else .ok (withSign negative .zero, skipDigits s)
    else .error (.onNext .badNumber s)

/-- What follows the digits of a number that is a decimal already, or becomes one here. -/
def readDecimalTail (negative : Bool) (significand : Nat) (exponent : Int) :
    List Char → Except Fault (Number × List Char)
  | 'e' :: s => readExponent negative significand exponent s
  | 'E' :: s => readExponent negative significand exponent s
  | s => finishDecimal negative significand exponent s

/-- What follows the point of a number. -/
def readFraction (negative : Bool) (significand : Nat) (exponent : Int) (s : List Char) :
    Except Fault (Number × List Char) :=
  match s with
  | [] => .error (.atEnd .endInValue)
  | c :: _ =>
    if c.isDigit then
      let digits := s.takeWhile Char.isDigit
      let (significand, dropped) := absorb significand digits
      readDecimalTail negative significand (exponent - ((digits.length - dropped : Nat) : Int))
        (skipDigits s)
    else .error (.onNext .badNumber s)

/-- A number without its minus. -/
def readMagnitude (negative : Bool) (s : List Char) : Except Fault (Number × List Char) :=
  let digits := s.takeWhile Char.isDigit
  let rest := skipDigits s
  match digits with
  | [] =>
    match s with
    | [] => .error (.atEnd .endInValue)
    | s => .error (.onNext .badNumber s)
  | '0' :: _ :: _ => .error (.onNext .badNumber s.tail)
  | _ =>
    let (significand, dropped) := absorb 0 digits
    match rest with
    | '.' :: s => readFraction negative significand dropped s
    | 'e' :: s => readExponent negative significand dropped s
    | 'E' :: s => readExponent negative significand dropped s
    | rest =>
      if dropped = 0 then .ok (finishInteger negative significand, rest)
      else finishDecimal negative significand dropped rest

/-- A number. -/
def readNumber : List Char → Except Fault (Number × List Char)
  | '-' :: s => readMagnitude true s
  | s => readMagnitude false s

/-- Whether a value that begins with this character is a number. -/
def beginsNumber (c : Char) : Bool :=
  c == '-' || c.isDigit

theorem length_takeExponentSign_le (s : List Char) :
    (takeExponentSign s).2.length ≤ s.length := by
  unfold takeExponentSign
  split <;> simp

theorem length_of_finishDecimal {negative : Bool} {significand : Nat} {exponent : Int}
    {s r : List Char} {n : Number}
    (h : finishDecimal negative significand exponent s = .ok (n, r)) : r.length = s.length := by
  rw [finishDecimal] at h
  split at h
  · simp only [Except.ok.injEq, Prod.mk.injEq] at h
    rw [h.2]
  · simp at h

theorem length_le_of_readExponent {negative : Bool} {significand : Nat} {exponent : Int}
    {s r : List Char} {n : Number}
    (h : readExponent negative significand exponent s = .ok (n, r)) : r.length ≤ s.length := by
  have hsign := length_takeExponentSign_le s
  have hskip := length_skipDigits_le (takeExponentSign s).2
  simp only [readExponent] at h
  split at h
  · simp at h
  · split at h
    · split at h
      · have := length_of_finishDecimal h
        omega
      · split at h
        · simp at h
        · simp only [Except.ok.injEq, Prod.mk.injEq] at h
          rw [← h.2]
          omega
    · simp at h

theorem length_le_of_readDecimalTail {negative : Bool} {significand : Nat} {exponent : Int}
    {s r : List Char} {n : Number}
    (h : readDecimalTail negative significand exponent s = .ok (n, r)) : r.length ≤ s.length := by
  unfold readDecimalTail at h
  split at h
  · exact Nat.le_succ_of_le (length_le_of_readExponent h)
  · exact Nat.le_succ_of_le (length_le_of_readExponent h)
  · exact Nat.le_of_eq (length_of_finishDecimal h)

theorem length_le_of_readFraction {negative : Bool} {significand : Nat} {exponent : Int}
    {s r : List Char} {n : Number}
    (h : readFraction negative significand exponent s = .ok (n, r)) : r.length ≤ s.length := by
  simp only [readFraction] at h
  split at h
  · simp at h
  · split at h
    · exact Nat.le_trans (length_le_of_readDecimalTail h) (length_skipDigits_le _)
    · simp at h

theorem length_lt_of_readMagnitude {negative : Bool} {s r : List Char} {n : Number}
    (h : readMagnitude negative s = .ok (n, r)) : r.length < s.length := by
  simp only [readMagnitude] at h
  split at h
  · split at h <;> simp at h
  · simp at h
  · rename_i hnil _
    have hlt : (skipDigits s).length < s.length := by
      have hsplit := congrArg List.length
        (List.takeWhile_append_dropWhile (p := Char.isDigit) (l := s))
      rw [List.length_append] at hsplit
      have hpos : (s.takeWhile Char.isDigit).length ≠ 0 := by simpa using hnil
      rw [skipDigits]
      omega
    split at h
    · rename_i hrest
      have := length_le_of_readFraction h
      rw [hrest, List.length_cons] at hlt
      omega
    · rename_i hrest
      have := length_le_of_readExponent h
      rw [hrest, List.length_cons] at hlt
      omega
    · rename_i hrest
      have := length_le_of_readExponent h
      rw [hrest, List.length_cons] at hlt
      omega
    · split at h
      · simp only [Except.ok.injEq, Prod.mk.injEq] at h
        rwa [← h.2]
      · rw [length_of_finishDecimal h]
        exact hlt

theorem length_lt_of_readNumber {s r : List Char} {n : Number} (h : readNumber s = .ok (n, r)) :
    r.length < s.length := by
  unfold readNumber at h
  split at h
  · exact Nat.lt_succ_of_lt (length_lt_of_readMagnitude h)
  · exact length_lt_of_readMagnitude h

/-! ### Passing over -/

/-- Passes over what follows the letter of an exponent. -/
def skipExponent (s : List Char) : Except Fault (List Char) :=
  let (_, s) := takeExponentSign s
  match s with
  | [] => .error (.atEnd .badNumber)
  | c :: r => if c.isDigit then .ok (skipDigits r) else .error (.onNext .badNumber (c :: r))

/-- Passes over what follows the digits of a number and its fraction. -/
def skipDecimalTail : List Char → Except Fault (List Char)
  | 'e' :: s => skipExponent s
  | 'E' :: s => skipExponent s
  | s => .ok s

/-- Passes over what follows the point of a number. -/
def skipFraction (s : List Char) : Except Fault (List Char) :=
  match s with
  | [] => .error (.atEnd .badNumber)
  | c :: r =>
    if c.isDigit then skipDecimalTail (skipDigits r) else .error (.onNext .badNumber (c :: r))

/-- Passes over what follows the digits of a number. -/
def skipNumberTail : List Char → Except Fault (List Char)
  | '.' :: s => skipFraction s
  | s => skipDecimalTail s

/-- Passes over a number without its minus. -/
def skipMagnitude (s : List Char) : Except Fault (List Char) :=
  match s with
  | [] => .error (.atEnd .badNumber)
  | c :: r =>
    if c = '0' then
      match r with
      | d :: _ => if d.isDigit then .error (.onNext .badNumber r) else skipNumberTail r
      | [] => .ok []
    else if c.isDigit then skipNumberTail (skipDigits r)
    else .error (.onNext .badNumber (c :: r))

/-- Passes over a number. -/
def skipNumber : List Char → Except Fault (List Char)
  | '-' :: s => skipMagnitude s
  | s => skipMagnitude s

theorem length_le_of_skipExponent {s r : List Char} (h : skipExponent s = .ok r) :
    r.length ≤ s.length := by
  have hsign := length_takeExponentSign_le s
  simp only [skipExponent] at h
  split at h
  · simp at h
  · rename_i c t hs
    split at h
    · simp only [Except.ok.injEq] at h
      have := length_skipDigits_le t
      rw [hs, List.length_cons] at hsign
      rw [← h]
      omega
    · simp at h

theorem length_le_of_skipDecimalTail {s r : List Char} (h : skipDecimalTail s = .ok r) :
    r.length ≤ s.length := by
  unfold skipDecimalTail at h
  split at h
  · exact Nat.le_succ_of_le (length_le_of_skipExponent h)
  · exact Nat.le_succ_of_le (length_le_of_skipExponent h)
  · simp only [Except.ok.injEq] at h
    exact h ▸ Nat.le_refl _

theorem length_le_of_skipNumberTail {s r : List Char} (h : skipNumberTail s = .ok r) :
    r.length ≤ s.length := by
  unfold skipNumberTail at h
  split at h
  · rename_i t
    rw [skipFraction.eq_def] at h
    split at h
    · simp at h
    · rename_i c u
      split at h
      · have := length_le_of_skipDecimalTail h
        have := length_skipDigits_le u
        simp only [List.length_cons]
        omega
      · simp at h
  · exact length_le_of_skipDecimalTail h

theorem length_lt_of_skipMagnitude {s r : List Char} (h : skipMagnitude s = .ok r) :
    r.length < s.length := by
  cases s with
  | nil => simp [skipMagnitude] at h
  | cons c t =>
    rw [List.length_cons, Nat.lt_succ_iff]
    simp only [skipMagnitude] at h
    split at h
    · split at h
      · split at h
        · simp at h
        · exact length_le_of_skipNumberTail h
      · simp only [Except.ok.injEq] at h
        simp [← h]
    · split at h
      · exact Nat.le_trans (length_le_of_skipNumberTail h) (length_skipDigits_le t)
      · simp at h

theorem length_lt_of_skipNumber {s r : List Char} (h : skipNumber s = .ok r) :
    r.length < s.length := by
  unfold skipNumber at h
  split at h
  · exact Nat.lt_succ_of_lt (length_lt_of_skipMagnitude h)
  · exact length_lt_of_skipMagnitude h

/-! ### Writing -/

/-- The written form of a number. Infinities and NaNs have none and are written as `null`. -/
def Number.text : Number → List Char
  | .integer n => Text.signedDecimal n
  | .floating x => if x.isFinite then x.render numberFormat else "null".toList

end QueueJournal.Json
