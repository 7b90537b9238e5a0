import QueueJournal.Proofs.Settings.Lookup
import QueueJournal.Proofs.Text.Quoting

/-!
# What messages tell

The message about a setting determines the key and the value that it is about, whatever the value
looks like, since the quoted value can be told from the key that follows it
(`setting_inj_of_message`). Nothing unprintable gets into it but by the key
(`mem_key_of_isUnprintable`). The keys that settings are looked up by are printable, so what is said
about a look-up is one line that no value can break or imitate (`message_tells_setting`).
-/

namespace QueueJournal.Failure

variable {key key' value value' : String} {c : Char}

theorem message_setting (key value : String) : (setting key value).message =
    "invalid value ".toList ++ (Text.quoted value.toList ++ (" for ".toList ++ key.toList)) := by
  show "invalid value ".toList ++ Text.quoted value.toList ++ " for ".toList ++ key.toList = _
  rw [List.append_assoc, List.append_assoc]

/-- **A message about a setting determines the key and the value.** -/
theorem setting_inj_of_message (h : (setting key value).message = (setting key' value').message) :
    key = key' ∧ value = value' := by
  rw [message_setting, message_setting] at h
  obtain ⟨hvalue, hrest⟩ := Text.quoted_append_inj (List.append_cancel_left h)
  exact ⟨String.toList_inj.1 (List.append_cancel_left hrest), String.toList_inj.1 hvalue⟩

/-- An unprintable character of a message about a setting is one of the key. -/
theorem mem_key_of_isUnprintable (hmem : c ∈ (setting key value).message)
    (h : Text.isUnprintable c = true) : c ∈ key.toList := by
  have hword : ∀ {word : List Char}, word.all Text.isGraphic = true → c ∉ word := fun hall hc ↦ by
    simp [Text.isUnprintable_eq_false_of_all hall hc] at h
  rw [message_setting, List.mem_append, List.mem_append, List.mem_append] at hmem
  rcases hmem with hfront | hquoted | hfor | hkey
  · exact absurd hfront (hword (by decide))
  · simp [Text.isUnprintable_eq_false_of_mem_quoted hquoted] at h
  · exact absurd hfor (hword (by decide))
  · exact hkey

theorem isUnprintable_eq_false_of_mem_key {x : Settings.Quantity} (h : c ∈ x.key.toList) :
    Text.isUnprintable c = false := by
  have hkey : x.key.toList.all Text.isGraphic = true := by cases x <;> decide
  exact Text.isUnprintable_eq_false_of_all hkey h

/-- **A message about a setting tells the key and the value**, and no value can be told for another.
Only the key can bring anything unprintable into it; if there are no controls in the key, there are
none in the message. In particular all that is said about a failed look-up is printable, so it is
one line. -/
theorem message_tells_setting (key value : String) :
    (∀ key' value', (setting key' value').message = (setting key value).message →
        key' = key ∧ value' = value) ∧
      (∀ c ∈ (setting key value).message, Text.isUnprintable c = true → c ∈ key.toList) ∧
      ((∀ c ∈ key.toList, Text.isControl c = false) →
        ∀ c ∈ (setting key value).message, Text.isControl c = false) ∧
      ∀ lookup, Settings.ofLookup lookup = .error (setting key value) →
        ∀ c ∈ (setting key value).message, Text.isUnprintable c = false := by
  refine ⟨fun key' value' ↦ setting_inj_of_message, fun c ↦ mem_key_of_isUnprintable,
    fun hkey c hc ↦ ?_, fun lookup h c hc ↦ ?_⟩
  · by_contra hcontrol
    have hunprintable := Text.isUnprintable_of_isControl (Bool.not_eq_false _ ▸ hcontrol)
    exact hcontrol (hkey c (mem_key_of_isUnprintable hc hunprintable))
  · obtain ⟨x, value', heq⟩ := (Settings.outcome_iff.1 h).exists_quantity
    obtain ⟨rfl, -⟩ := setting.inj heq
    by_contra hunprintable
    rw [Bool.not_eq_false] at hunprintable
    have hmem := mem_key_of_isUnprintable hc hunprintable
    simp [isUnprintable_eq_false_of_mem_key hmem] at hunprintable

/-- A value that imitates the end of a message, and has a line feed and an escape besides. -/
theorem message_tells_setting_imitated :
    (setting "QUEUE_DEMO_ITEMS" "1\" for A\n\\n").message =
        "invalid value \"1\\\" for A\\n\\\\n\" for QUEUE_DEMO_ITEMS".toList ∧
      (∀ c ∈ (setting "QUEUE_DEMO_ITEMS" "1\" for A\n\\n").message, Text.isControl c = false) ∧
      ∀ c ∈ (setting "QUEUE_DEMO_ITEMS" "1\" for A\n\\n").message,
        Text.isUnprintable c = false := by
  have hkey : "QUEUE_DEMO_ITEMS".toList.any Text.isControl = false := by decide
  refine ⟨by decide +kernel, (message_tells_setting _ _).2.2.1 fun c hc ↦ ?_, ?_⟩
  · exact Bool.eq_false_iff.2 (List.any_eq_false.1 hkey c hc)
  · exact (message_tells_setting _ _).2.2.2
      (fun key ↦ [(Settings.itemsKey, "1\" for A\n\\n")].lookup key) (by decide)

end QueueJournal.Failure
