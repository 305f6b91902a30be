/-
Module: RecompilerAdapter.Proofs.InstructionClasses
Purpose: The classes of instruction words. The decoder tries its patterns one after the other. The classes
  are read off the fields of a word instead, in any order, and a word in none of them is undefined unless
  it is one of the two words that do nothing.
Trusted boundary: none
Main exports: IsIdle, IsBranch, IsSupervisorCall, IsForCoprocessor, IsUnmatched, Classified,
  decode_classified
-/
import RecompilerAdapter.Proofs.EncodedInstructions

namespace RecompilerAdapter.Instruction

variable {word : UInt32}

/-- The words that do nothing: the canonical one and zero. Zero is not an idle form of the
instruction set, but a memory that was never written is full of it. -/
def IsIdle (word : UInt32) : Prop :=
  word = Encoding.nop ∨ word = 0

/-- The form of a branch, which there is with a condition only. -/
def IsBranch (word : UInt32) : Prop :=
  field word 28 4 ≠ 15 ∧ field word 24 4 = 10

/-- The form of a supervisor call, which there is with a condition only. -/
def IsSupervisorCall (word : UInt32) : Prop :=
  field word 28 4 ≠ 15 ∧ field word 24 4 = 15

/-- The forms of coprocessor instructions. They exist with and without a condition, and the latter
are the second forms of the former. -/
def IsForCoprocessor (word : UInt32) : Prop :=
  12 ≤ field word 24 4 ∧ field word 24 4 ≤ 14

/-- The word has none of the forms. Such a word is undefined, unless it is one of the idle words,
which have none of them either. -/
def IsUnmatched (word : UInt32) : Prop :=
  ¬ IsBranch word ∧ ¬ IsSupervisorCall word ∧ ¬ IsForCoprocessor word

instance : DecidablePred IsBranch := fun word =>
  inferInstanceAs (Decidable (field word 28 4 ≠ 15 ∧ field word 24 4 = 10))

/-- The target of a branch: the low 24 bits are a signed number of words, counted from the address
eight bytes ahead. -/
def branchTarget (address word : UInt32) : UInt32 :=
  address + 8 + UInt32.ofInt (4 * (field word 0 24 : Int).bmod (2 ^ 24))

/-- What a word is read as, by its class. The classes exclude each other and leave no word out, so
this is a function of the word that does not mention the decoder. -/
inductive Classified (word : UInt32) : Instruction → Prop where
  | idle (isIdle : IsIdle word) : Classified word .idle
  | branch (isBranch : IsBranch word) : Classified word (.branch (branchOffset word))
  | supervisorCall (isCall : IsSupervisorCall word) :
      Classified word (.supervisorCall (word &&& 0x00FFFFFF))
  | coprocessor (isFor : IsForCoprocessor word) (instruction : CoprocessorInstruction) :
      Classified word (.coprocessor (register word 8) instruction)
  | undefined (notIdle : ¬ IsIdle word) (unmatched : IsUnmatched word) : Classified word .undefined

/-- Every word of the coprocessor space has one of the coprocessor forms. -/
theorem coprocessor?_inside (two : Bool) (inside : IsForCoprocessor word) :
    ∃ instruction, coprocessor? word two = some instruction := by
  obtain ⟨lower, upper⟩ := inside
  by_cases first : field word 24 4 = 14
  · have low : field word 4 1 < 2 ^ 1 := field_lt
    obtain clear | set : field word 4 1 = 0 ∨ field word 4 1 = 1 := by omega
    · exact ⟨_, coprocessor?_internalOperation first clear⟩
    · exact ⟨_, coprocessor?_oneWord first set⟩
  · by_cases twoWords : field word 21 7 = 98
    · exact ⟨_, coprocessor?_twoWords twoWords⟩
    · have transfer : field word 25 3 = 6 := by
        simp only [field, Nat.reducePow] at lower upper first ⊢
        omega
      exact ⟨_, coprocessor?_transferWords transfer twoWords⟩

/-- A word outside all classes is left over by all patterns. -/
theorem decode_unmatched (notIdle : ¬ IsIdle word) (unmatched : IsUnmatched word) :
    decode word = .undefined := by
  obtain ⟨noBranch, noCall, notFor⟩ := unmatched
  have noPattern (number : Nat) (pattern : UInt32) (isPattern : pattern.toNat = number * 2 ^ 24)
      (noForm : ¬ (field word 28 4 ≠ 15 ∧ field word 24 4 = number)) :
      (!(word >>> 28 == 0xF) && word &&& 0x0F000000 == pattern) = false := by
    rw [isSecond_eq, Bool.and_eq_false_iff, Bool.not_eq_false', decide_eq_true_iff,
      beq_eq_false_iff_ne]
    by_cases second : field word 28 4 = 15
    · exact .inl second
    · exact .inr fun same => noForm ⟨second, (and_eq_iff 24 4 rfl isPattern).1 same⟩
  have idle : ¬ (word = Encoding.nop ∨ word = 0) := notIdle
  rw [decode, if_neg idle, noPattern 10 _ rfl noBranch, noPattern 15 _ rfl noCall,
    coprocessor?_outside notFor]
  rfl

/-- Every word is read by its class. -/
theorem decode_classified (word : UInt32) : Classified word (decode word) := by
  by_cases isIdle : IsIdle word
  · have idle : word = Encoding.nop ∨ word = 0 := isIdle
    rw [decode, if_pos idle]
    exact .idle isIdle
  by_cases isFor : IsForCoprocessor word
  · obtain ⟨instruction, form⟩ := coprocessor?_inside _ isFor
    rw [decode_of_coprocessor? isFor rfl form]
    exact .coprocessor isFor instruction
  by_cases isBranch : IsBranch word
  · rw [decode_branch isBranch.1 isBranch.2]
    exact .branch isBranch
  by_cases isCall : IsSupervisorCall word
  · rw [decode_supervisorCall isCall.1 isCall.2]
    exact .supervisorCall isCall
  · rw [decode_unmatched isIdle ⟨isBranch, isCall, isFor⟩]
    exact .undefined isIdle ⟨isBranch, isCall, isFor⟩

/-- No word has two classes. -/
theorem IsIdle.unmatched (isIdle : IsIdle word) : IsUnmatched word := by
  rcases isIdle with rfl | rfl <;> exact ⟨by decide, by unfold IsSupervisorCall; decide, by
    unfold IsForCoprocessor; decide⟩

theorem IsForCoprocessor.not_branch (isFor : IsForCoprocessor word) : ¬ IsBranch word := by
  rintro ⟨-, kind⟩
  have := isFor.1
  omega

theorem IsSupervisorCall.not_branch (isCall : IsSupervisorCall word) : ¬ IsBranch word := by
  rintro ⟨-, kind⟩
  have := isCall.2
  omega

/-- The distance of a branch leads to its target. -/
theorem branchTarget_eq (address : UInt32) :
    branchTarget address word = address + 8 + branchOffset word := by
  rw [branchTarget, branchOffset_eq]

end RecompilerAdapter.Instruction
