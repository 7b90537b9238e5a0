import QueueJournal.Json.Fault

/-!
# Blanks and words of a JSON text

Readers take the text from the front and hand on what they leave. Each has a lemma that says how
much shorter that is, which is what the loops over elements and members end by. Where one reader
goes on behind another, `bind_eq_ok` says what each of them took.
-/

namespace QueueJournal.Json

theorem bind_eq_ok {ε α β : Type} {x : Except ε α} {f : α → Except ε β} {b : β}
    (h : (x >>= f) = .ok b) : ∃ a, x = .ok a ∧ f a = .ok b := by
  cases x with
  | error e => cases h
  | ok a => exact ⟨a, rfl, h⟩

/-- The four characters that may stand between the tokens of a JSON text. -/
def isSpace (c : Char) : Bool :=
  c == ' ' || c == '\n' || c == '\t' || c == '\r'

/-- The text without the blanks in front of it. -/
def skipSpace (s : List Char) : List Char :=
  s.dropWhile isSpace

theorem length_skipSpace_le (s : List Char) : (skipSpace s).length ≤ s.length :=
  (List.dropWhile_sublist _).length_le

theorem length_lt_of_skipSpace {s r : List Char} {c : Char} (h : skipSpace s = c :: r) :
    r.length < s.length := by
  have := length_skipSpace_le s
  rw [h, List.length_cons] at this
  omega

/-- Takes the given characters off the text. -/
def readWord : List Char → List Char → Except Fault (List Char)
  | [], s => .ok s
  | _ :: _, [] => .error (.atEnd .endInValue)
  | w :: word, c :: s => if c = w then readWord word s else .error (.onNext .badWord (c :: s))

theorem length_le_of_readWord {word s r : List Char} (h : readWord word s = .ok r) :
    r.length ≤ s.length := by
  induction word generalizing s with
  | nil =>
    simp only [readWord, Except.ok.injEq] at h
    exact h ▸ Nat.le_refl _
  | cons w word ih =>
    cases s with
    | nil => simp [readWord] at h
    | cons c s =>
      rw [readWord] at h
      split at h
      · exact Nat.le_succ_of_le (ih h)
      · simp at h

/-- Takes the colon behind a key. -/
def readColon (s : List Char) : Except Fault (List Char) :=
  match skipSpace s with
  | [] => .error (.atEnd .endInObject)
  | c :: r => if c = ':' then .ok r else .error (.onNext .noColon (c :: r))

theorem length_lt_of_readColon {s r : List Char} (h : readColon s = .ok r) :
    r.length < s.length := by
  rw [readColon] at h
  split at h
  · simp at h
  · rename_i c t hs
    split at h
    · simp only [Except.ok.injEq] at h
      exact h ▸ length_lt_of_skipSpace hs
    · simp at h

end QueueJournal.Json
