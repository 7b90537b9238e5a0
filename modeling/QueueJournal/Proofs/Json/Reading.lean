import QueueJournal.Json.Reader
import QueueJournal.Json.Writer
import QueueJournal.Proofs.Json.Literal

/-!
# What is read of a value

The reader of values keeps what is open on a stack, so what holds of the value that comes out at the
end is carried by what holds of the stack (`Fits`). Whatever is read is a value that a program can
hold: its integers are of sixty-four bits and its keys increase (`Valid`), and it is no deeper than
there is room for (`fit_of_read`).
-/

namespace QueueJournal.Json

variable {room : Nat} {around : List Open} {s r : List Char} {c : Char}

/-! ### One step of the reader -/

/-- Reads on in an array whose latest elements come first in `done`. -/
def goOnInArray (room : Nat) (around : List Open) (done : List Json) :
    NextElement → Except Fault (Json × List Char)
  | .done rest => readBehind room around (.array done.reverse) rest
  | .more rest => readInside room (.array done :: around) rest

/-- Reads on in an object with the members in `done`. -/
def goOnInObject (room : Nat) (around : List Open) (done : List (String × Json)) :
    NextKey → Except Fault (Json × List Char)
  | .done rest => readBehind room around (.object done) rest
  | .more key rest =>
    (readColon rest).bind (readInside room (.object done (String.ofList key) :: around))

theorem readInside_array (hs : skipSpace s = '[' :: r) (hroom : around.length < room) :
    readInside room around s = (nextElement true r).bind (goOnInArray room around []) := by
  rw [readInside]
  split
  case h_1 hnil => simp [hs] at hnil
  case h_2 c' r' hcons =>
    obtain ⟨rfl, rfl⟩ := List.cons.inj (hs.symm.trans hcons)
    dsimp only
    rw [if_pos rfl, if_pos hroom]
    split
    case h_1 h => rw [h]; rfl
    case h_2 h => rw [h]; rfl
    case h_3 h => rw [h]; rfl

theorem readInside_object (hs : skipSpace s = '\x7b' :: r) (hroom : around.length < room) :
    readInside room around s = (nextKey true r).bind (goOnInObject room around []) := by
  rw [readInside]
  split
  case h_1 hnil => simp [hs] at hnil
  case h_2 c' r' hcons =>
    obtain ⟨rfl, rfl⟩ := List.cons.inj (hs.symm.trans hcons)
    dsimp only
    rw [if_neg (by decide), if_pos rfl, if_pos hroom]
    split
    case h_1 h => rw [h]; rfl
    case h_2 h => rw [h]; rfl
    case h_3 h =>
      rw [h]
      simp only [Except.bind, goOnInObject]
      split
      case h_1 h' => rw [h']
      case h_2 h' => rw [h']

theorem readInside_tooDeep (hs : skipSpace s = c :: r) (hc : c = '[' ∨ c = '\x7b')
    (hroom : room ≤ around.length) :
    ∃ unread, readInside room around s = .error (.placed .tooDeep unread) := by
  refine ⟨Text.byteCount (c :: r) - 1, ?_⟩
  rw [readInside]
  split
  case h_1 hnil => simp [hs] at hnil
  case h_2 c' r' hcons =>
    obtain ⟨rfl, rfl⟩ := List.cons.inj (hs.symm.trans hcons)
    dsimp only
    split
    case isTrue =>
      rw [if_neg (by omega)]
      rfl
    case isFalse harray =>
      rw [if_pos (hc.resolve_left harray), if_neg (by omega)]
      rfl

theorem readInside_scalar (hs : skipSpace s = c :: r) (harray : c ≠ '[') (hobject : c ≠ '\x7b') :
    readInside room around s =
      (readScalar (c :: r)).bind fun (v, rest) ↦ readBehind room around v rest := by
  rw [readInside]
  split
  case h_1 hnil => simp [hs] at hnil
  case h_2 c' r' hcons =>
    obtain ⟨rfl, rfl⟩ := List.cons.inj (hs.symm.trans hcons)
    dsimp only
    rw [if_neg harray, if_neg hobject]
    split
    case h_1 h => rw [← hs, h]; rfl
    case h_2 h => rw [← hs, h]; rfl

theorem readInside_nil (hs : skipSpace s = []) :
    readInside room around s = .error (.atEnd .endInValue) := by
  rw [readInside]
  split
  case h_1 => rfl
  case h_2 hcons => simp [hs] at hcons

theorem readBehind_nil (v : Json) (s : List Char) : readBehind room [] v s = .ok (v, s) := by
  unfold readBehind
  rfl

theorem readBehind_array (done : List Json) (v : Json) (s : List Char) :
    readBehind room (.array done :: around) v s =
      (nextElement false s).bind (goOnInArray room around (v :: done)) := by
  rw [readBehind]
  split
  case h_1 h => rw [h]; rfl
  case h_2 h => dsimp only; rw [h]; rfl
  case h_3 h => dsimp only; rw [h]; rfl

theorem readBehind_object (done : List (String × Json)) (key : String) (v : Json) (s : List Char) :
    readBehind room (.object done key :: around) v s =
      (nextKey false s).bind (goOnInObject room around (insertMember key v done)) := by
  rw [readBehind]
  split
  case h_1 h => rw [h]; rfl
  case h_2 h => dsimp only; rw [h]; rfl
  case h_3 h =>
    dsimp only
    rw [h]
    simp only [Except.bind, goOnInObject]
    split
    case h_1 h' => rw [h']
    case h_2 h' => rw [h']

/-! ### Values that a program can hold -/

/-- Integers are of sixty-four bits, and the keys of an object increase. -/
inductive Valid : Json → Prop where
  /-- The value without content. -/
  | null : Valid .null
  /-- A truth value. -/
  | bool (b : Bool) : Valid (.bool b)
  /-- A number that fits its kind. -/
  | number {n : Number} (hrange : n.InRange) : Valid (.number n)
  /-- A text. -/
  | string (s : String) : Valid (.string s)
  /-- Valid values in order. -/
  | array {elements : List Json} (helements : ∀ v ∈ elements, Valid v) : Valid (.array elements)
  /-- Valid values by key. -/
  | object {members : List (String × Json)} (hsorted : members.Pairwise fun m m' ↦ m.1 < m'.1)
    (hmembers : ∀ m ∈ members, Valid m.2) : Valid (.object members)

theorem elementsDepth_le_iff {elements : List Json} {n : Nat} :
    elementsDepth elements ≤ n ↔ ∀ v ∈ elements, v.depth ≤ n := by
  induction elements with
  | nil => simp [elementsDepth]
  | cons v elements ih => rw [elementsDepth, Nat.max_le, ih, List.forall_mem_cons]

theorem membersDepth_le_iff {members : List (String × Json)} {n : Nat} :
    membersDepth members ≤ n ↔ ∀ m ∈ members, m.2.depth ≤ n := by
  induction members with
  | nil => simp [membersDepth]
  | cons m members ih => rw [membersDepth, Nat.max_le, ih, List.forall_mem_cons]

/-! ### Scalars that are read -/

/-- A significand stays below the greatest of sixty-four bits. -/
theorem absorb_lt {n : Nat} (hn : n < UInt64.size) (digits : List Char) :
    (absorb n digits).1 < UInt64.size := by
  induction digits generalizing n with
  | nil => exact hn
  | cons d digits ih =>
    rw [absorb]
    split
    case isTrue hnext => exact ih hnext
    case isFalse => exact hn

theorem inRange_withSign (negative : Bool) (x : Binary64) : (withSign negative x).InRange :=
  trivial

theorem inRange_of_finishDecimal {negative : Bool} {significand : Nat} {exponent : Int} {n : Number}
    (h : finishDecimal negative significand exponent s = .ok (n, r)) : n.InRange := by
  rw [finishDecimal] at h
  split at h
  · obtain ⟨rfl, -⟩ := Prod.mk.inj (Except.ok.inj h)
    exact inRange_withSign ..
  · cases h

theorem inRange_of_readExponent {negative : Bool} {significand : Nat} {exponent : Int} {n : Number}
    (h : readExponent negative significand exponent s = .ok (n, r)) : n.InRange := by
  simp only [readExponent] at h
  split at h
  · cases h
  · split at h
    · split at h
      · exact inRange_of_finishDecimal h
      · split at h
        · cases h
        · obtain ⟨rfl, -⟩ := Prod.mk.inj (Except.ok.inj h)
          exact inRange_withSign ..
    · cases h

theorem inRange_of_readFraction {negative : Bool} {significand : Nat} {exponent : Int} {n : Number}
    (h : readFraction negative significand exponent s = .ok (n, r)) : n.InRange := by
  simp only [readFraction] at h
  split at h
  · cases h
  · split at h
    · unfold readDecimalTail at h
      split at h
      · exact inRange_of_readExponent h
      · exact inRange_of_readExponent h
      · exact inRange_of_finishDecimal h
    · cases h

theorem inRange_finishInteger (negative : Bool) {significand : Nat}
    (h : significand < UInt64.size) : (finishInteger negative significand).InRange := by
  have hmin : Int64.minValue.toInt = -(1 <<< 63 : Nat) := by decide
  rw [finishInteger]
  split
  · split
    · exact inRange_withSign ..
    · exact ⟨by omega, by omega⟩
  · exact ⟨by omega, by omega⟩

/-- The integers that are read are of sixty-four bits. -/
theorem inRange_of_readNumber {n : Number} (h : readNumber s = .ok (n, r)) : n.InRange := by
  have hmagnitude : ∀ negative s, readMagnitude negative s = .ok (n, r) → n.InRange := by
    intro negative s h
    simp only [readMagnitude] at h
    split at h
    · split at h <;> cases h
    · cases h
    · split at h
      · exact inRange_of_readFraction h
      · exact inRange_of_readExponent h
      · exact inRange_of_readExponent h
      · split at h
        · obtain ⟨rfl, -⟩ := Prod.mk.inj (Except.ok.inj h)
          exact inRange_finishInteger _ (absorb_lt (by decide) _)
        · exact inRange_of_finishDecimal h
  unfold readNumber at h
  split at h
  · exact hmagnitude _ _ h
  · exact hmagnitude _ _ h

/-- A scalar that is read is a value that a program can hold, and `null` is spelled so. -/
theorem valid_of_readScalar {v : Json} (h : readScalar (c :: s) = .ok (v, r)) :
    v.Valid ∧ v.depth = 0 ∧ (v = .null → c = 'n') := by
  have hconstant : ∀ {value : Json} {letters s : List Char},
      readConstant value letters s = .ok (v, r) → v = value := fun h ↦ by
    rw [readConstant] at h
    split at h
    · cases h
    · exact (Prod.mk.inj (Except.ok.inj h)).1.symm
  unfold readScalar at h
  split at h
  case h_1 => cases h
  case h_2 heq =>
    obtain rfl := hconstant h
    exact ⟨.null, rfl, fun _ ↦ (List.cons.inj heq).1⟩
  case h_3 =>
    obtain rfl := hconstant h
    exact ⟨.bool true, rfl, fun hv ↦ by cases hv⟩
  case h_4 =>
    obtain rfl := hconstant h
    exact ⟨.bool false, rfl, fun hv ↦ by cases hv⟩
  case h_5 =>
    split at h
    · cases h
    · obtain ⟨rfl, -⟩ := Prod.mk.inj (Except.ok.inj h)
      exact ⟨.string _, rfl, fun hv ↦ by cases hv⟩
  case h_6 =>
    split at h
    · split at h
      · cases h
      · rename_i hread
        obtain ⟨rfl, -⟩ := Prod.mk.inj (Except.ok.inj h)
        exact ⟨.number (inRange_of_readNumber hread), rfl, fun hv ↦ by cases hv⟩
    · cases h

/-! ### Members that are kept sorted -/

theorem mem_insertMember {key : String} {v : Json} {members : List (String × Json)}
    {m : String × Json} (h : m ∈ insertMember key v members) : m = (key, v) ∨ m ∈ members := by
  induction members with
  | nil => exact .inl (List.mem_singleton.1 h)
  | cons m' members ih =>
    rw [insertMember] at h
    split at h
    · exact List.mem_cons.1 h
    · split at h
      · exact (List.mem_cons.1 h).imp_right fun h ↦ List.mem_cons_of_mem _ h
      · rcases List.mem_cons.1 h with rfl | h
        · exact .inr List.mem_cons_self
        · exact (ih h).imp_right fun h ↦ List.mem_cons_of_mem _ h

/-- The keys go on to increase. -/
theorem pairwise_insertMember (key : String) (v : Json) {members : List (String × Json)}
    (h : members.Pairwise fun m m' ↦ m.1 < m'.1) :
    (insertMember key v members).Pairwise fun m m' ↦ m.1 < m'.1 := by
  induction members with
  | nil => exact List.pairwise_singleton _ _
  | cons m members ih =>
    obtain ⟨hm, hmembers⟩ := List.pairwise_cons.1 h
    rw [insertMember]
    split
    case isTrue hlt =>
      refine List.pairwise_cons.2 ⟨fun m' hm' ↦ ?_, h⟩
      rcases List.mem_cons.1 hm' with rfl | hm'
      · exact hlt
      · exact String.lt_trans hlt (hm m' hm')
    case isFalse hnlt =>
      split
      case isTrue heq =>
        subst heq
        exact List.pairwise_cons.2 ⟨hm, hmembers⟩
      case isFalse hne =>
        refine List.pairwise_cons.2 ⟨fun m' hm' ↦ ?_, ih hmembers⟩
        rcases mem_insertMember hm' with rfl | hm'
        · exact Std.lt_of_le_of_ne (String.not_lt.1 hnlt) (Ne.symm hne)
        · exact hm m' hm'

/-! ### Values that are read -/

/-- A program can hold the value, and there is room for it inside so many others. -/
structure Fit (room taken : Nat) (v : Json) : Prop where
  /-- A program can hold it. -/
  valid : v.Valid
  /-- There is room for it. -/
  depth : taken + v.depth ≤ room

theorem Fit.array {taken : Nat} {elements : List Json} (hroom : taken < room)
    (h : ∀ v ∈ elements, Fit room (taken + 1) v) : Fit room taken (.array elements) where
  valid := .array fun v hv ↦ (h v hv).valid
  depth := by
    have hdepth : elementsDepth elements ≤ room - (taken + 1) :=
      elementsDepth_le_iff.2 fun v hv ↦ by have := (h v hv).depth; omega
    rw [Json.depth]
    omega

theorem Fit.object {taken : Nat} {members : List (String × Json)} (hroom : taken < room)
    (hsorted : members.Pairwise fun m m' ↦ m.1 < m'.1)
    (h : ∀ m ∈ members, Fit room (taken + 1) m.2) : Fit room taken (.object members) where
  valid := .object hsorted fun m hm ↦ (h m hm).valid
  depth := by
    have hdepth : membersDepth members ≤ room - (taken + 1) :=
      membersDepth_le_iff.2 fun m hm ↦ by have := (h m hm).depth; omega
    rw [Json.depth]
    omega

/-- There is room for what is open, and for what has been read of it. -/
def Fits (room : Nat) : List Open → Prop
  | [] => True
  | .array done :: around =>
    around.length < room ∧ (∀ v ∈ done, Fit room (around.length + 1) v) ∧ Fits room around
  | .object done _ :: around =>
    around.length < room ∧ (done.Pairwise fun m m' ↦ m.1 < m'.1) ∧
      (∀ m ∈ done, Fit room (around.length + 1) m.2) ∧ Fits room around

theorem Fits.length_le (h : Fits room around) : around.length ≤ room := by
  match around, h with
  | [], _ => exact Nat.zero_le _
  | .array _ :: _, h => exact h.1
  | .object _ _ :: _, h => exact h.1

/-- What is read from the texts of less than `n` characters fits, and is `null` only where that is
written and nothing is open. -/
def InsideFits (room n : Nat) : Prop :=
  ∀ {around : List Open} {s r : List Char} {v : Json}, s.length < n → Fits room around →
    readInside room around s = .ok (v, r) →
    Fit room 0 v ∧ (v = .null → around = [] ∧ ∃ t, skipSpace s = 'n' :: t)

/-- The same of what is read once a value is complete. -/
def BehindFits (room n : Nat) : Prop :=
  ∀ {around : List Open} {value : Json} {s r : List Char} {v : Json}, s.length < n →
    Fits room around → Fit room around.length value →
    readBehind room around value s = .ok (v, r) →
    Fit room 0 v ∧ (v = .null → around = [] ∧ value = .null)

theorem length_lt_of_nextKey {first : Bool} {next : NextKey} (h : nextKey first s = .ok next)
    {n : Nat} (hn : s.length ≤ n) :
    ∀ rest, next = .done rest ∨ (∃ key, next = .more key rest) → rest.length < n := by
  rintro rest (rfl | ⟨key, rfl⟩)
  · exact Nat.lt_of_lt_of_le (length_lt_of_nextKey_done h) hn
  · exact Nat.lt_of_lt_of_le (length_lt_of_nextKey_more h) hn

section Step

variable {n : Nat} (inside : InsideFits room n) (behind : BehindFits room n) {v : Json}
include inside behind

theorem fit_of_goOnInArray {done : List Json} {next : NextElement}
    (hshort : ∀ rest, next = .done rest ∨ next = .more rest → rest.length < n)
    (hroom : around.length < room) (hdone : ∀ v ∈ done, Fit room (around.length + 1) v)
    (hfits : Fits room around) (h : goOnInArray room around done next = .ok (v, r)) :
    Fit room 0 v ∧ v ≠ .null := by
  cases next with
  | done rest =>
    have hvalue : Fit room around.length (.array done.reverse) :=
      .array hroom fun v hv ↦ hdone v (List.mem_reverse.1 hv)
    obtain ⟨hfit, hnull⟩ := behind (hshort rest (.inl rfl)) hfits hvalue h
    exact ⟨hfit, fun hv ↦ by cases (hnull hv).2⟩
  | more rest =>
    have hopen : Fits room (.array done :: around) := ⟨hroom, hdone, hfits⟩
    obtain ⟨hfit, hnull⟩ := inside (hshort rest (.inr rfl)) hopen h
    exact ⟨hfit, fun hv ↦ by cases (hnull hv).1⟩

theorem fit_of_goOnInObject {done : List (String × Json)} {next : NextKey}
    (hshort : ∀ rest, next = .done rest ∨ (∃ key, next = .more key rest) → rest.length < n)
    (hroom : around.length < room) (hsorted : done.Pairwise fun m m' ↦ m.1 < m'.1)
    (hdone : ∀ m ∈ done, Fit room (around.length + 1) m.2) (hfits : Fits room around)
    (h : goOnInObject room around done next = .ok (v, r)) : Fit room 0 v ∧ v ≠ .null := by
  cases next with
  | done rest =>
    obtain ⟨hfit, hnull⟩ :=
      behind (hshort rest (.inl rfl)) hfits (.object hroom hsorted hdone) h
    exact ⟨hfit, fun hv ↦ by cases (hnull hv).2⟩
  | more key rest =>
    obtain ⟨rest', hcolon, h⟩ := bind_eq_ok h
    have hrest := hshort rest (.inr ⟨key, rfl⟩)
    have hlt := length_lt_of_readColon hcolon
    have hopen : Fits room (.object done (String.ofList key) :: around) :=
      ⟨hroom, hsorted, hdone, hfits⟩
    obtain ⟨hfit, hnull⟩ := inside (Nat.lt_trans hlt hrest) hopen h
    exact ⟨hfit, fun hv ↦ by cases (hnull hv).1⟩

theorem insideFits_succ : InsideFits room (n + 1) := by
  intro around s r v hn hfits h
  cases hs : skipSpace s with
  | nil =>
    rw [readInside_nil hs] at h
    cases h
  | cons c t =>
    have ht := length_lt_of_skipSpace hs
    by_cases hbracket : c = '[' ∨ c = '\x7b'
    · by_cases hroom : around.length < room
      · rcases hbracket with rfl | rfl
        · rw [readInside_array hs hroom] at h
          obtain ⟨next, hnext, h⟩ := bind_eq_ok h
          have hshort : ∀ rest, next = .done rest ∨ next = .more rest → rest.length < n := by
            rintro rest (rfl | rfl)
            · have := length_lt_of_nextElement_done hnext
              omega
            · have := length_le_of_nextElement_more hnext
              omega
          obtain ⟨hfit, hnull⟩ :=
            fit_of_goOnInArray inside behind hshort hroom (List.forall_mem_nil _) hfits h
          exact ⟨hfit, fun hv ↦ absurd hv hnull⟩
        · rw [readInside_object hs hroom] at h
          obtain ⟨next, hnext, h⟩ := bind_eq_ok h
          have hshort := length_lt_of_nextKey hnext (n := n) (by omega)
          obtain ⟨hfit, hnull⟩ :=
            fit_of_goOnInObject inside behind hshort hroom .nil (List.forall_mem_nil _) hfits h
          exact ⟨hfit, fun hv ↦ absurd hv hnull⟩
      · obtain ⟨unread, hdeep⟩ := readInside_tooDeep hs hbracket (Nat.not_lt.1 hroom)
        rw [hdeep] at h
        cases h
    · obtain ⟨harray, hobject⟩ := not_or.1 hbracket
      rw [readInside_scalar hs harray hobject] at h
      obtain ⟨⟨value, rest⟩, hread, h⟩ := bind_eq_ok h
      obtain ⟨hvalid, hdepth, hspelled⟩ := valid_of_readScalar hread
      have hlt := length_lt_of_readScalar hread
      rw [List.length_cons] at hlt
      have hvalue : Fit room around.length value := ⟨hvalid, by rw [hdepth]; exact hfits.length_le⟩
      obtain ⟨hfit, hnull⟩ := behind (by omega) hfits hvalue h
      exact ⟨hfit, fun hv ↦ ⟨(hnull hv).1, t, by rw [hspelled (hnull hv).2]⟩⟩

theorem behindFits_succ : BehindFits room (n + 1) := by
  intro around value s r v hn hfits hvalue h
  match around, hfits with
  | [], _ =>
    rw [readBehind_nil] at h
    obtain ⟨rfl, -⟩ := Prod.mk.inj (Except.ok.inj h)
    exact ⟨hvalue, fun hv ↦ ⟨rfl, hv⟩⟩
  | .array done :: around, ⟨hroom, hdone, hfits⟩ =>
    rw [readBehind_array] at h
    obtain ⟨next, hnext, h⟩ := bind_eq_ok h
    have hshort : ∀ rest, next = .done rest ∨ next = .more rest → rest.length < n := by
      rintro rest (rfl | rfl)
      · have := length_lt_of_nextElement_done hnext
        omega
      · have := length_lt_of_nextElement_more hnext
        omega
    obtain ⟨hfit, hnull⟩ := fit_of_goOnInArray inside behind hshort hroom
      (List.forall_mem_cons.2 ⟨hvalue, hdone⟩) hfits h
    exact ⟨hfit, fun hv ↦ absurd hv hnull⟩
  | .object done key :: around, ⟨hroom, hsorted, hdone, hfits⟩ =>
    rw [readBehind_object] at h
    obtain ⟨next, hnext, h⟩ := bind_eq_ok h
    have hshort := length_lt_of_nextKey hnext (n := n) (by omega)
    have hmembers : ∀ m ∈ insertMember key value done, Fit room (around.length + 1) m.2 := by
      intro m hm
      rcases mem_insertMember hm with rfl | hm
      · exact hvalue
      · exact hdone m hm
    obtain ⟨hfit, hnull⟩ := fit_of_goOnInObject inside behind hshort hroom
      (pairwise_insertMember key value hsorted) hmembers hfits h
    exact ⟨hfit, fun hv ↦ absurd hv hnull⟩

end Step

theorem insideFits (room n : Nat) : InsideFits room n ∧ BehindFits room n := by
  induction n with
  | zero =>
    exact ⟨fun hn ↦ absurd hn (Nat.not_lt_zero _), fun hn ↦ absurd hn (Nat.not_lt_zero _)⟩
  | succ n ih => exact ⟨insideFits_succ ih.1 ih.2, behindFits_succ ih.1 ih.2⟩

/-- **What is read is a value that a program can hold**, and there was room for it; it is `null`
only where that is written. -/
theorem fit_of_read {v : Json} (h : read room s = .ok (v, r)) :
    v.Valid ∧ v.depth ≤ room ∧ (v = .null → ∃ t, skipSpace s = 'n' :: t) := by
  have hfits : Fits room [] := trivial
  obtain ⟨hfit, hnull⟩ := (insideFits room (s.length + 1)).1 (Nat.lt_succ_self _) hfits h
  exact ⟨hfit.valid, (Nat.zero_add v.depth).symm ▸ hfit.depth, fun hv ↦ (hnull hv).2⟩

end QueueJournal.Json
