import QueueJournal.Proofs.Json.Literal
import QueueJournal.Proofs.Json.Reading

/-!
# A value that is written is read back

A value is written without regard to how deep it goes, but read only where there is room for all the
arrays and objects that lie inside one another. A value without floating-point numbers (`FloatFree`)
is read back as it was where there is room for it, and elsewhere the first bracket too many is a
fault (`readsBack`). Both come down from one induction over the value: what has been read of an
array or an object when the fault is met does not matter.
-/

namespace QueueJournal.Json

variable {room : Nat} {around : List Open} {s r : List Char} {c : Char}

/-! ### Values without floating-point numbers -/

/-- There are no floating-point numbers in the value. -/
inductive FloatFree : Json → Prop where
  /-- The value without content. -/
  | null : FloatFree .null
  /-- A truth value. -/
  | bool (b : Bool) : FloatFree (.bool b)
  /-- An integer. -/
  | integer (n : Int) : FloatFree (.number (.integer n))
  /-- A text. -/
  | string (s : String) : FloatFree (.string s)
  /-- None is in an element. -/
  | array {elements : List Json} (helements : ∀ v ∈ elements, FloatFree v) :
    FloatFree (.array elements)
  /-- None is in the value of a member. -/
  | object {members : List (String × Json)} (hmembers : ∀ m ∈ members, FloatFree m.2) :
    FloatFree (.object members)

/-! ### What is written -/

theorem text_integer (n : Int) : (Json.number (.integer n)).text = Text.signedDecimal n := by
  rw [text, pieces, List.flatten_singleton, Number.text]

theorem text_string (s : String) (r : List Char) :
    (Json.string s).text ++ r = '"' :: (s.toList.flatMap writeChar ++ '"' :: r) := by
  simp [text, pieces, flatten_stringPieces]

theorem text_array (elements : List Json) (r : List Char) : (Json.array elements).text ++ r =
    '[' :: ((elementPieces true elements).flatten ++ ']' :: r) := by
  simp [text, pieces]

theorem text_object (members : List (String × Json)) (r : List Char) :
    (Json.object members).text ++ r =
      '\x7b' :: ((memberPieces true members).flatten ++ '\x7d' :: r) := by
  simp [text, pieces]

/-- What is written begins with no blank and no closing bracket, and as `null` does for it only. -/
theorem exists_text_eq_cons {v : Json} (hfree : v.FloatFree) :
    ∃ c s, v.text = c :: s ∧ isSpace c = false ∧ c ≠ ']' ∧ (c = 'n' → v = .null) := by
  cases hfree with
  | null => exact ⟨'n', _, rfl, by decide, by decide, fun _ ↦ rfl⟩
  | bool b => cases b <;> exact ⟨_, _, rfl, by decide, by decide, fun h ↦ absurd h (by decide)⟩
  | integer n =>
    obtain ⟨c, s, hs, hc⟩ := exists_signedDecimal_eq_cons n
    refine ⟨c, s, (text_integer n).trans hs, isSpace_eq_false_of_beginsNumber hc, ?_, ?_⟩
    · rintro rfl; cases hc
    · rintro rfl; cases hc
  | string s =>
    have htext := text_string s []
    rw [List.append_nil] at htext
    exact ⟨_, _, htext, by decide, by decide, fun h ↦ absurd h (by decide)⟩
  | array => exact ⟨'[', _, rfl, by decide, by decide, fun h ↦ absurd h (by decide)⟩
  | object => exact ⟨'\x7b', _, rfl, by decide, by decide, fun h ↦ absurd h (by decide)⟩

theorem lineFeed_notMem_elementPieces {elements : List Json}
    (h : ∀ v ∈ elements, '\n' ∉ v.text) (first : Bool) :
    '\n' ∉ (elementPieces first elements).flatten := by
  induction elements generalizing first with
  | nil => exact List.not_mem_nil
  | cons v elements ih =>
    obtain ⟨hv, helements⟩ := List.forall_mem_cons.1 h
    have hcomma : '\n' ∉ (comma first).flatten := by cases first <;> decide
    rw [elementPieces, List.flatten_append, List.flatten_append]
    exact List.not_mem_append (List.not_mem_append hcomma hv) (ih helements false)

theorem lineFeed_notMem_memberPieces {members : List (String × Json)}
    (h : ∀ m ∈ members, '\n' ∉ m.2.text) (first : Bool) :
    '\n' ∉ (memberPieces first members).flatten := by
  induction members generalizing first with
  | nil => exact List.not_mem_nil
  | cons m members ih =>
    obtain ⟨hm, hmembers⟩ := List.forall_mem_cons.1 h
    have hcomma : '\n' ∉ (comma first).flatten := by cases first <;> decide
    have hkey := lineFeed_notMem_stringPieces m.1.toList
    rw [memberPieces, List.flatten_append, List.flatten_append, List.flatten_append,
      List.flatten_append]
    exact List.not_mem_append (List.not_mem_append
      (List.not_mem_append (List.not_mem_append hcomma hkey) (by decide)) hm) (ih hmembers false)

/-- A value is written on one line. -/
theorem lineFeed_notMem_text {v : Json} (hfree : v.FloatFree) : '\n' ∉ v.text := by
  induction hfree with
  | null => decide
  | bool b => cases b <;> decide
  | integer n =>
    rw [text_integer]
    exact lineFeed_notMem_signedDecimal n
  | string s =>
    rw [text, pieces]
    exact lineFeed_notMem_stringPieces s.toList
  | @array elements _ ih =>
    rw [← List.append_nil (text _), text_array]
    exact List.not_mem_cons_of_ne_of_not_mem (by decide)
      (List.not_mem_append (lineFeed_notMem_elementPieces ih true) (by decide))
  | @object members _ ih =>
    rw [← List.append_nil (text _), text_object]
    exact List.not_mem_cons_of_ne_of_not_mem (by decide)
      (List.not_mem_append (lineFeed_notMem_memberPieces ih true) (by decide))

/-! ### Reading what has been written -/

/-- A key that is greater than all others goes behind them. -/
theorem insertMember_append {key : String} {v : Json} {members : List (String × Json)}
    (h : ∀ m ∈ members, m.1 < key) : insertMember key v members = members ++ [(key, v)] := by
  induction members with
  | nil => rfl
  | cons m members ih =>
    obtain ⟨hm, hmembers⟩ := List.forall_mem_cons.1 h
    rw [insertMember, if_neg (String.lt_asymm hm), if_neg (String.ne_of_lt hm).symm, ih hmembers]
    rfl

/-- A value is read back where there is room for it, and is too deep otherwise. -/
def ReadsBack (v : Json) : Prop :=
  ∀ (room : Nat) (around : List Open) (r : List Char), EndsNumber r → around.length ≤ room →
    (around.length + v.depth ≤ room →
      readInside room around (v.text ++ r) = readBehind room around v r) ∧
    (room < around.length + v.depth →
      ∃ unread, readInside room around (v.text ++ r) = .error (.placed .tooDeep unread))

/-- There is always room for a value without parts. -/
theorem readsBack_of_scalar {v : Json} {s : List Char} (hs : v.text = c :: s)
    (hspace : isSpace c = false) (harray : c ≠ '[') (hobject : c ≠ '\x7b') (hdepth : v.depth = 0)
    (hread : ∀ r, EndsNumber r → readScalar (v.text ++ r) = .ok (v, r)) : v.ReadsBack := by
  intro room around r hr hroom
  have h := @readInside_scalar room around _ _ _ (skipSpace_cons hspace (s ++ r)) harray hobject
  rw [← List.cons_append, ← hs, hread r hr] at h
  exact ⟨fun _ ↦ h, fun hdeep ↦ by omega⟩

theorem readScalar_of_beginsNumber (hc : beginsNumber c = true) (s : List Char) :
    readScalar (c :: s) = (readNumber (c :: s)).map fun (n, rest) ↦ (.number n, rest) := by
  unfold readScalar
  split
  case h_1 h => cases h
  case h_2 h => rw [(List.cons.inj h).1] at hc; cases hc
  case h_3 h => rw [(List.cons.inj h).1] at hc; cases hc
  case h_4 h => rw [(List.cons.inj h).1] at hc; cases hc
  case h_5 h => rw [(List.cons.inj h).1] at hc; cases hc
  case h_6 h =>
    rw [← (List.cons.inj h).1, if_pos hc]
    cases readNumber (c :: s) <;> rfl

theorem readsBack_integer {n : Int} (hrange : (Number.integer n).InRange) :
    (Json.number (.integer n)).ReadsBack := by
  obtain ⟨hlow, hhigh⟩ := hrange
  obtain ⟨c, s, hs, hc⟩ := exists_signedDecimal_eq_cons n
  refine readsBack_of_scalar ((text_integer n).trans hs) (isSpace_eq_false_of_beginsNumber hc)
    ?_ ?_ rfl fun r hr ↦ ?_
  · rintro rfl; cases hc
  · rintro rfl; cases hc
  · have hread := readNumber_signedDecimal hlow hhigh hr
    rw [text_integer]
    rw [hs, List.cons_append] at hread ⊢
    rw [readScalar_of_beginsNumber hc, hread]
    rfl

theorem readsBack_string (s : String) : (Json.string s).ReadsBack := by
  have htext := text_string s []
  rw [List.append_nil] at htext
  refine readsBack_of_scalar htext (by decide) (by decide) (by decide) rfl fun r _ ↦ ?_
  rw [text_string, readScalar]
  simp only [readChars_flatMap_writeChar, String.ofList_toList]

/-- **Elements are read back** up to the first that is too deep. -/
theorem readInside_elements {elements : List Json} (hread : ∀ v ∈ elements, v.ReadsBack)
    (hfree : ∀ v ∈ elements, v.FloatFree) (first : Bool) (done : List Json)
    (hroom : around.length < room) (r : List Char) :
    (around.length + 1 + elementsDepth elements ≤ room →
      (nextElement first ((elementPieces first elements).flatten ++ ']' :: r)).bind
          (goOnInArray room around done) =
        readBehind room around (.array (done.reverse ++ elements)) r) ∧
    (room < around.length + 1 + elementsDepth elements →
      ∃ unread, (nextElement first ((elementPieces first elements).flatten ++ ']' :: r)).bind
          (goOnInArray room around done) = .error (.placed .tooDeep unread)) := by
  induction elements generalizing first done with
  | nil =>
    rw [elementPieces, List.flatten_nil, List.nil_append, nextElement_done, List.append_nil]
    exact ⟨fun _ ↦ rfl, fun hdeep ↦ by simp only [elementsDepth] at hdeep; omega⟩
  | cons v elements ih =>
    obtain ⟨hv, helements⟩ := List.forall_mem_cons.1 hread
    obtain ⟨hvfree, hfree⟩ := List.forall_mem_cons.1 hfree
    obtain ⟨c, s, hs, hspace, hclose, -⟩ := exists_text_eq_cons hvfree
    let rest := (elementPieces false elements).flatten ++ ']' :: r
    have hrest : EndsNumber rest := by
      cases elements <;> exact ⟨rfl, by decide, by decide, by decide⟩
    have hpieces : (elementPieces first (v :: elements)).flatten ++ ']' :: r =
        (comma first).flatten ++ (v.text ++ rest) := by
      simp [elementPieces, rest, text]
    have hnext : nextElement first ((comma first).flatten ++ (v.text ++ rest)) =
        .ok (.more (v.text ++ rest)) := by
      rw [hs]
      exact nextElement_more first hspace hclose _
    obtain ⟨hshallow, hdeep⟩ := hv room (.array done :: around) rest hrest hroom
    have hbehind := @readBehind_array room around done v rest
    obtain ⟨ihshallow, ihdeep⟩ := ih helements hfree false (v :: done)
    rw [hpieces, hnext, Except.bind, goOnInArray]
    simp only [elementsDepth]
    rw [List.length_cons] at hshallow hdeep
    refine ⟨fun h ↦ ?_, fun h ↦ ?_⟩
    · rw [hshallow (by omega), hbehind, ihshallow (by omega), List.reverse_cons, List.append_assoc,
        List.singleton_append]
    · by_cases hvdeep : room < around.length + 1 + v.depth
      · exact hdeep hvdeep
      · rw [hshallow (by omega), hbehind]
        exact ihdeep (by omega)

/-- **Members are read back** up to the first that is too deep. -/
theorem readInside_members {members : List (String × Json)} (hread : ∀ m ∈ members, m.2.ReadsBack)
    (first : Bool) (done : List (String × Json))
    (hsorted : (done ++ members).Pairwise fun m m' ↦ m.1 < m'.1)
    (hroom : around.length < room) (r : List Char) :
    (around.length + 1 + membersDepth members ≤ room →
      (nextKey first ((memberPieces first members).flatten ++ '\x7d' :: r)).bind
          (goOnInObject room around done) =
        readBehind room around (.object (done ++ members)) r) ∧
    (room < around.length + 1 + membersDepth members →
      ∃ unread, (nextKey first ((memberPieces first members).flatten ++ '\x7d' :: r)).bind
          (goOnInObject room around done) = .error (.placed .tooDeep unread)) := by
  induction members generalizing first done with
  | nil =>
    rw [memberPieces, List.flatten_nil, List.nil_append, nextKey_done, List.append_nil]
    exact ⟨fun _ ↦ rfl, fun hdeep ↦ by simp only [membersDepth] at hdeep; omega⟩
  | cons m members ih =>
    obtain ⟨key, v⟩ := m
    have hv : v.ReadsBack := hread _ List.mem_cons_self
    let rest := (memberPieces false members).flatten ++ '\x7d' :: r
    have hrest : EndsNumber rest := by
      cases members <;> exact ⟨rfl, by decide, by decide, by decide⟩
    have hpieces : (memberPieces first ((key, v) :: members)).flatten ++ '\x7d' :: r =
        (comma first).flatten ++
          ((stringPieces key.toList).flatten ++ ':' :: (v.text ++ rest)) := by
      simp [memberPieces, rest, text]
    have hinsert : insertMember key v done = done ++ [(key, v)] :=
      insertMember_append fun m hm ↦ (List.pairwise_append.1 hsorted).2.2 m hm _ List.mem_cons_self
    obtain ⟨hshallow, hdeep⟩ := hv room (.object done key :: around) rest hrest hroom
    have hbehind := @readBehind_object room around done key v rest
    obtain ⟨ihshallow, ihdeep⟩ := ih (fun m hm ↦ hread m (List.mem_cons_of_mem _ hm)) false
      (done ++ [(key, v)]) (by rwa [List.append_assoc])
    rw [hinsert] at hbehind
    rw [hpieces, nextKey_more, Except.bind, goOnInObject, readColon_cons, String.ofList_toList,
      Except.bind]
    simp only [membersDepth]
    rw [List.length_cons] at hshallow hdeep
    refine ⟨fun h ↦ ?_, fun h ↦ ?_⟩
    · rw [hshallow (by omega), hbehind, ihshallow (by omega), List.append_assoc,
        List.singleton_append]
    · by_cases hvdeep : room < around.length + 1 + v.depth
      · exact hdeep hvdeep
      · rw [hshallow (by omega), hbehind]
        exact ihdeep (by omega)

/-- **A value that is written is read back where there is room for it, and only there.** -/
theorem readsBack {v : Json} (hvalid : v.Valid) (hfree : v.FloatFree) : v.ReadsBack := by
  induction hvalid with
  | null => exact readsBack_of_scalar (c := 'n') rfl rfl (by decide) (by decide) rfl fun _ _ ↦ rfl
  | bool b =>
    cases b with
    | true =>
      exact readsBack_of_scalar (c := 't') rfl rfl (by decide) (by decide) rfl fun _ _ ↦ rfl
    | false =>
      exact readsBack_of_scalar (c := 'f') rfl rfl (by decide) (by decide) rfl fun _ _ ↦ rfl
  | number hrange =>
    cases hfree
    exact readsBack_integer hrange
  | string s => exact readsBack_string s
  | @array elements _ ih =>
    cases hfree with | array hfree =>
    intro room around r hr hroom
    rw [text_array]
    by_cases hopen : around.length < room
    · have hread : ∀ v ∈ elements, v.ReadsBack := fun v hv ↦ ih v hv (hfree v hv)
      obtain ⟨hshallow, hdeep⟩ := readInside_elements hread hfree true [] hopen r
      rw [readInside_array (skipSpace_cons (by decide) _) hopen]
      simp only [depth]
      exact ⟨fun h ↦ hshallow (by omega), fun h ↦ hdeep (by omega)⟩
    · refine ⟨fun h ↦ by simp only [depth] at h; omega, fun _ ↦ ?_⟩
      exact readInside_tooDeep (skipSpace_cons (by decide) _) (.inl rfl) (by omega)
  | @object members hsorted _ ih =>
    cases hfree with | object hfree =>
    intro room around r hr hroom
    rw [text_object]
    by_cases hopen : around.length < room
    · have hread : ∀ m ∈ members, m.2.ReadsBack := fun m hm ↦ ih m hm (hfree m hm)
      obtain ⟨hshallow, hdeep⟩ := readInside_members hread true [] hsorted hopen r
      rw [readInside_object (skipSpace_cons (by decide) _) hopen]
      simp only [depth]
      exact ⟨fun h ↦ hshallow (by omega), fun h ↦ hdeep (by omega)⟩
    · refine ⟨fun h ↦ by simp only [depth] at h; omega, fun _ ↦ ?_⟩
      exact readInside_tooDeep (skipSpace_cons (by decide) _) (.inr rfl) (by omega)

end QueueJournal.Json
