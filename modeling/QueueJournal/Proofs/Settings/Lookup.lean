import QueueJournal.Proofs.Settings.Count

/-!
# What a look-up gives

`Settings.Outcome` says what comes of a look-up, with one rule for each way in which it can end. A
look-up gives settings exactly if every value that is there for a count is one, and there is
somebody on either side of the queue. Otherwise it fails, and what it complains of is the first
value that is no count, even if one in front of it is zero; zeros count only after that. The
journal's path has no part in this.

The rules speak of values as they are looked up and of the grammar of counts; that the settings are
made so is `outcome_iff`.
-/

namespace QueueJournal.Settings

/-! ### Amounts -/

/-- The settings that are counts. -/
inductive Quantity where
  /-- How many workers put items. -/
  | producers
  /-- How many workers take items. -/
  | consumers
  /-- How many items each producer puts. -/
  | items
deriving DecidableEq

namespace Quantity

/-- The key that a quantity is looked up by. -/
def key : Quantity → String
  | producers => producersKey
  | consumers => consumersKey
  | items => itemsKey

/-- What a quantity is where nothing is said. -/
def default : Quantity → Nat
  | producers => Settings.default.producers
  | consumers => Settings.default.consumers
  | items => Settings.default.itemsPerProducer

/-- The quantities that are looked up before. -/
def earlier : Quantity → List Quantity
  | producers => []
  | consumers => [producers]
  | items => [producers, consumers]

theorem key_ne_journalKey (x : Quantity) : x.key ≠ journalKey := by
  cases x <;> decide

end Quantity

/-- How much of a quantity there is. -/
def amount (s : Settings) : Quantity → Nat
  | .producers => s.producers
  | .consumers => s.consumers
  | .items => s.itemsPerProducer

variable {lookup lookup' : String → Option String} {x : Quantity} {n : Nat} {value p : String}
  {e : Failure} {s : Settings}

/-! ### What is looked up -/

/-- A look-up gives an amount: there is a value for it that is a count, or none at all. -/
def Gives (lookup : String → Option String) (x : Quantity) (n : Nat) : Prop :=
  (∃ value, lookup x.key = some value ∧ MakesCount value n) ∨
    (lookup x.key = none ∧ n = x.default)

/-- A look-up gives a path: a value as it is, unless there is none, or only blanks. -/
def GivesPath (lookup : String → Option String) (p : String) : Prop :=
  (lookup journalKey = some p ∧ ∃ c ∈ p.toList, Text.isBlank c = false) ∨
    ((∀ value, lookup journalKey = some value → ∀ c ∈ value.toList, Text.isBlank c = true) ∧
      p = default.journalPath)

/-- What comes of a look-up. -/
inductive Outcome (lookup : String → Option String) : Except Failure Settings → Prop where
  /-- Every amount is given, and there is somebody on either side. -/
  | settles {s : Settings} (amounts : ∀ x, Gives lookup x (s.amount x))
    (somebody : s.producers ≠ 0 ∧ s.consumers ≠ 0) (path : GivesPath lookup s.journalPath) :
    Outcome lookup (.ok s)
  /-- A value is no count, and it is the first. -/
  | malformed {x : Quantity} {value : String} (looked : lookup x.key = some value)
    (bad : ¬ ∃ n, MakesCount value n) (earlier : ∀ y ∈ x.earlier, ∃ n, Gives lookup y n) :
    Outcome lookup (.error (.setting x.key value))
  /-- Every amount is given, and there are no producers. -/
  | noProducers (amounts : ∀ x, ∃ n, Gives lookup x n) (nobody : Gives lookup .producers 0) :
    Outcome lookup (.error (.setting producersKey "0"))
  /-- Every amount is given, and there are producers, but no consumers. -/
  | noConsumers (amounts : ∀ x, ∃ n, Gives lookup x n) (somebody : ¬ Gives lookup .producers 0)
    (nobody : Gives lookup .consumers 0) : Outcome lookup (.error (.setting consumersKey "0"))

theorem count_eq_ok_iff_gives : count lookup x.key x.default = .ok n ↔ Gives lookup x n := by
  cases h : lookup x.key with
  | none => simp [count_of_none h, Gives, h, eq_comm]
  | some value => simp [count_eq_ok_iff h, Gives, h]

/-- A look-up gives an amount, or there is a value that is no count. -/
theorem exists_gives_or_malformed (lookup : String → Option String) (x : Quantity) :
    (∃ n, Gives lookup x n) ∨
      ∃ value, lookup x.key = some value ∧ ¬ ∃ n, MakesCount value n := by
  cases h : lookup x.key with
  | none => exact .inl ⟨x.default, .inr ⟨h, rfl⟩⟩
  | some value =>
    by_cases hcount : ∃ n, MakesCount value n
    · obtain ⟨n, hn⟩ := hcount
      exact .inl ⟨n, .inl ⟨value, h, hn⟩⟩
    · exact .inr ⟨value, rfl, hcount⟩

/-- A look-up gives one amount at most. -/
theorem Gives.unique {m : Nat} (h : Gives lookup x n) (h' : Gives lookup x m) : n = m :=
  Except.ok.inj ((count_eq_ok_iff_gives.2 h).symm.trans (count_eq_ok_iff_gives.2 h'))

theorem givesPath_iff : GivesPath lookup p ↔ p = path lookup := by
  cases h : lookup journalKey with
  | none => simp [GivesPath, path, h]
  | some value =>
    rw [GivesPath, h]
    cases hblank : Text.isAllBlank value.toList with
    | true =>
      have hpath : path lookup = default.journalPath := by simp [path, h, hblank]
      have hall : ∀ c ∈ value.toList, Text.isBlank c = true := by
        rwa [Text.isAllBlank_eq_all, List.all_eq_true] at hblank
      rw [hpath]
      constructor
      · rintro (⟨hvalue, c, hc, hnot⟩ | ⟨-, hdefault⟩)
        · obtain rfl := Option.some.inj hvalue
          simp [hall c hc] at hnot
        · exact hdefault
      · exact fun hdefault ↦ .inr ⟨fun v hv ↦ Option.some.inj hv ▸ hall, hdefault⟩
    | false =>
      have hpath : path lookup = value := by simp [path, h, hblank]
      obtain ⟨c, hc, hnot⟩ : ∃ c ∈ value.toList, ¬ Text.isBlank c = true := by
        rwa [Text.isAllBlank_eq_all, List.all_eq_false] at hblank
      rw [hpath]
      constructor
      · rintro (⟨hvalue, -⟩ | ⟨hall, -⟩)
        · exact (Option.some.inj hvalue).symm
        · exact absurd (hall value rfl c hc) hnot
      · rintro rfl
        exact .inl ⟨rfl, c, hc, Bool.eq_false_iff.2 hnot⟩

/-! ### What comes of it -/

/-- Where every amount is given, zeros decide. -/
theorem ofLookup_of_gives {given : Quantity → Nat} (h : ∀ x, Gives lookup x (given x)) :
    ofLookup lookup =
      if given .producers = 0 then .error (.setting producersKey "0")
      else if given .consumers = 0 then .error (.setting consumersKey "0")
      else .ok ⟨given .producers, given .consumers, given .items, path lookup⟩ := by
  have hproducers : count lookup producersKey default.producers = .ok (given .producers) :=
    count_eq_ok_iff_gives.2 (h .producers)
  have hconsumers : count lookup consumersKey default.consumers = .ok (given .consumers) :=
    count_eq_ok_iff_gives.2 (h .consumers)
  have hitems : count lookup itemsKey default.itemsPerProducer = .ok (given .items) :=
    count_eq_ok_iff_gives.2 (h .items)
  simp only [ofLookup, hproducers, hconsumers, hitems, bind, Except.bind]
  rfl

/-- The first value that is no count is complained of. -/
theorem ofLookup_of_malformed (looked : lookup x.key = some value)
    (bad : ¬ ∃ n, MakesCount value n) (earlier : ∀ y ∈ x.earlier, ∃ n, Gives lookup y n) :
    ofLookup lookup = .error (.setting x.key value) := by
  have hx : count lookup x.key x.default = .error (.setting x.key value) :=
    (count_eq_error_iff looked).2 ⟨rfl, bad⟩
  have hearlier : ∀ y ∈ x.earlier, ∃ n, count lookup y.key y.default = .ok n := fun y hy ↦
    (earlier y hy).imp fun n ↦ count_eq_ok_iff_gives.2
  cases x with
  | producers =>
    simp only [Quantity.key, Quantity.default] at hx
    simp only [ofLookup, hx, bind, Except.bind, Quantity.key]
  | consumers =>
    obtain ⟨producers, hproducers⟩ := hearlier .producers (by decide)
    simp only [Quantity.key, Quantity.default] at hx hproducers
    simp only [ofLookup, hproducers, hx, bind, Except.bind, Quantity.key]
  | items =>
    obtain ⟨producers, hproducers⟩ := hearlier .producers (by decide)
    obtain ⟨consumers, hconsumers⟩ := hearlier .consumers (by decide)
    simp only [Quantity.key, Quantity.default] at hx hproducers hconsumers
    simp only [ofLookup, hproducers, hconsumers, hx, bind, Except.bind, Quantity.key]

/-- Every amount is given, or there is a first value that is no count. -/
theorem forall_gives_or_exists_malformed (lookup : String → Option String) :
    (∀ x, ∃ n, Gives lookup x n) ∨
      ∃ x : Quantity, (∃ value, lookup x.key = some value ∧ ¬ ∃ n, MakesCount value n) ∧
        ∀ y ∈ x.earlier, ∃ n, Gives lookup y n := by
  rcases exists_gives_or_malformed lookup .producers with hproducers | hbad
  · rcases exists_gives_or_malformed lookup .consumers with hconsumers | hbad
    · rcases exists_gives_or_malformed lookup .items with hitems | hbad
      · exact .inl fun x ↦ by cases x <;> assumption
      · exact .inr ⟨.items, hbad, by simp [Quantity.earlier, hproducers, hconsumers]⟩
    · exact .inr ⟨.consumers, hbad, by simp [Quantity.earlier, hproducers]⟩
  · exact .inr ⟨.producers, hbad, by simp [Quantity.earlier]⟩

theorem outcome_ofLookup (lookup : String → Option String) :
    Outcome lookup (ofLookup lookup) := by
  rcases forall_gives_or_exists_malformed lookup with hall | ⟨x, ⟨value, looked, bad⟩, earlier⟩
  · choose given hgiven using hall
    rw [ofLookup_of_gives hgiven]
    split
    case isTrue hzero => exact .noProducers (fun x ↦ ⟨_, hgiven x⟩) (hzero ▸ hgiven .producers)
    case isFalse hsomebody =>
      split
      case isTrue hzero =>
        refine .noConsumers (fun x ↦ ⟨_, hgiven x⟩) (fun hnobody ↦ ?_) (hzero ▸ hgiven .consumers)
        exact hsomebody ((hgiven .producers).unique hnobody)
      case isFalse hconsumers =>
        refine .settles (fun x ↦ ?_) ⟨hsomebody, hconsumers⟩ (givesPath_iff.2 rfl)
        cases x <;> exact hgiven _
  · rw [ofLookup_of_malformed looked bad earlier]
    exact .malformed looked bad earlier

/-- **A look-up comes to what the rules say.** -/
theorem outcome_iff {r : Except Failure Settings} : ofLookup lookup = r ↔ Outcome lookup r := by
  refine ⟨fun h ↦ h ▸ outcome_ofLookup lookup, fun h ↦ ?_⟩
  cases h with
  | settles amounts somebody hpath =>
    rw [ofLookup_of_gives amounts, ← givesPath_iff.1 hpath]
    simp only [amount, somebody.1, somebody.2, if_false]
  | malformed looked bad earlier => exact ofLookup_of_malformed looked bad earlier
  | noProducers amounts nobody =>
    choose given hgiven using amounts
    rw [ofLookup_of_gives hgiven, if_pos ((hgiven .producers).unique nobody)]
  | noConsumers amounts somebody nobody =>
    choose given hgiven using amounts
    have hproducers : given .producers ≠ 0 := fun hzero ↦ somebody (hzero ▸ hgiven .producers)
    rw [ofLookup_of_gives hgiven, if_neg hproducers, if_pos ((hgiven .consumers).unique nobody)]

/-- A failed look-up complains of a quantity. -/
theorem Outcome.exists_quantity (h : Outcome lookup (.error e)) :
    ∃ (x : Quantity) (value : String), e = .setting x.key value := by
  cases h with
  | @malformed x value => exact ⟨x, value, rfl⟩
  | noProducers => exact ⟨.producers, "0", rfl⟩
  | noConsumers => exact ⟨.consumers, "0", rfl⟩

theorem Gives.congr (hagree : ∀ key, key ≠ journalKey → lookup' key = lookup key)
    (h : Gives lookup x n) : Gives lookup' x n := by
  rwa [Gives, hagree x.key x.key_ne_journalKey]

/-- A look-up fails the same way, whatever value there is for the journal's path. -/
theorem Outcome.congr (hagree : ∀ key, key ≠ journalKey → lookup' key = lookup key)
    (h : Outcome lookup (.error e)) : Outcome lookup' (.error e) := by
  have hsame : ∀ {x n}, Gives lookup' x n → Gives lookup x n :=
    Gives.congr fun key hkey ↦ (hagree key hkey).symm
  cases h with
  | @malformed x value looked bad earlier =>
    exact .malformed ((hagree x.key x.key_ne_journalKey).trans looked) bad
      fun y hy ↦ (earlier y hy).imp fun n ↦ .congr hagree
  | noProducers amounts nobody =>
    exact .noProducers (fun x ↦ (amounts x).imp fun n ↦ .congr hagree) (nobody.congr hagree)
  | noConsumers amounts somebody nobody =>
    exact .noConsumers (fun x ↦ (amounts x).imp fun n ↦ .congr hagree)
      (fun hnobody ↦ somebody (hsame hnobody)) (nobody.congr hagree)

/-- **What a look-up decides.** It gives settings or fails as the rules say, and the value for the
journal's path has no part in failing. -/
theorem lookup_decides (lookup : String → Option String) :
    (∀ r, ofLookup lookup = r ↔ Outcome lookup r) ∧
      ∀ lookup' : String → Option String, (∀ key, key ≠ journalKey → lookup' key = lookup key) →
        ∀ e, ofLookup lookup' = .error e ↔ ofLookup lookup = .error e := by
  refine ⟨fun r ↦ outcome_iff, fun lookup' hagree e ↦ ?_⟩
  rw [outcome_iff, outcome_iff]
  exact ⟨.congr fun key hkey ↦ (hagree key hkey).symm, .congr hagree⟩

/-- Without producers, it is still the number of consumers that is complained of, as it stands, if
that is no count. Amounts are read without their blanks, and a path with them. -/
theorem lookup_decides_in_order :
    Outcome (fun key ↦ [(producersKey, " 0"), (consumersKey, "two ")].lookup key)
        (.error (.setting "QUEUE_DEMO_CONSUMERS" "two ")) ∧
      Outcome (fun key ↦ [(producersKey, " 0"), (consumersKey, "2 ")].lookup key)
        (.error (.setting "QUEUE_DEMO_PRODUCERS" "0")) ∧
      Outcome (fun key ↦ [(producersKey, "+1"), (itemsKey, "00"), (journalKey, " a b ")].lookup key)
        (.ok ⟨1, 2, 0, " a b "⟩) ∧
      ofLookup (fun key ↦ if key = journalKey then some " " else [(itemsKey, "-1")].lookup key) =
        .error (.setting "QUEUE_DEMO_ITEMS" "-1") := by
  have hitems : ofLookup (fun key ↦ [(itemsKey, "-1")].lookup key) =
      .error (.setting "QUEUE_DEMO_ITEMS" "-1") := by decide
  refine ⟨((lookup_decides _).1 _).1 (by decide), ((lookup_decides _).1 _).1 (by decide),
    ((lookup_decides _).1 _).1 (by decide), ?_⟩
  exact ((lookup_decides _).2 _ (fun key hkey ↦ if_neg hkey) _).2 hitems

end QueueJournal.Settings
