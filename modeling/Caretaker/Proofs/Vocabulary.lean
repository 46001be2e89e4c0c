import Caretaker.Company
import Caretaker.Workflow.Basic

/-!
# Lawful vocabularies

A vocabulary is lawful when each word leads back to the member it was written for.
All vocabularies that are stored are lawful, and the ones that are read without
regard to case are so for both readers.
-/

namespace Caretaker

open Json Text

/-- The word of a member leads back to that member. -/
class LawfulWorded (α : Type) [Worded α] : Prop where
  ofWord?_word (member : α) : ofWord? (word member) = some member

/-- Words are in upper case already. -/
class LawfulVocabulary (α : Type) [Vocabulary α] : Prop extends LawfulWorded α where
  upper_word (member : α) : upper (word member) = word member

export LawfulWorded (ofWord?_word)

attribute [simp] LawfulWorded.ofWord?_word

section

variable {α : Type}

theorem word_injective [Worded α] [LawfulWorded α] : Function.Injective (word : α → String) := by
  intro a b same
  have read := congrArg (ofWord? (α := α)) same
  rw [ofWord?_word, ofWord?_word] at read
  exact Option.some.inj read

@[simp]
theorem word_inj [Worded α] [LawfulWorded α] {a b : α} : word a = word b ↔ a = b :=
  word_injective.eq_iff

@[simp]
theorem word_beq_word [Worded α] [LawfulWorded α] [DecidableEq α] (a b : α) :
    (word a == word b) = decide (a = b) := by
  by_cases same : a = b <;> simp [same]

@[simp]
theorem parseWord_word [Vocabulary α] [LawfulVocabulary α] (member : α) :
    parseWord (word member) = .ok member := by
  rw [parseWord, LawfulVocabulary.upper_word, ofWord?_word]

end

instance : LawfulVocabulary Priority where
  ofWord?_word member := by cases member <;> rfl
  upper_word member := by cases member <;> decide +kernel

instance : LawfulVocabulary Status where
  ofWord?_word member := by cases member <;> rfl
  upper_word member := by cases member <;> decide +kernel

instance : LawfulVocabulary Trigger where
  ofWord?_word member := by cases member <;> rfl
  upper_word member := by cases member <;> decide +kernel

instance : LawfulVocabulary Role where
  ofWord?_word member := by cases member <;> rfl
  upper_word member := by cases member <;> decide +kernel

instance : LawfulWorded Approval where
  ofWord?_word member := by cases member <;> rfl

instance : LawfulWorded AssetStatus where
  ofWord?_word member := by cases member <;> rfl

instance : LawfulWorded TicketAction where
  ofWord?_word member := by cases member <;> rfl

instance : LawfulWorded PurchaseOrderAction where
  ofWord?_word member := by cases member <;> rfl

instance : LawfulWorded PartAction where
  ofWord?_word member := by
    cases member
    rfl

instance : LawfulWorded TaskAction where
  ofWord?_word member := by cases member <;> rfl

end Caretaker
