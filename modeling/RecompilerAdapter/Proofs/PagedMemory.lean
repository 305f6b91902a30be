/-
Module: RecompilerAdapter.Proofs.PagedMemory
Purpose: Pages of guest memory. A page table is faithful if every mapped page holds what the guest's
  memory holds at the same addresses. Then the word that it yields for an aligned address is the guest's
  word there. For other addresses it is not, since a fetch from a page leaves out the two low bits of an
  address; but every instruction moves the program counter from an aligned address to another one.
Trusted boundary: none
Main exports: Aligned, GuestMemory, PageTable.Mapped, PageTable.Faithful
-/
import RecompilerAdapter.PageTable
import RecompilerAdapter.Proofs.EncodedInstructions
import RecompilerAdapter.Proofs.MirroredEngines

namespace RecompilerAdapter

variable {σ : Type}

/-! ### Aligned addresses -/

/-- An address of a word. -/
def Aligned (address : UInt32) : Prop :=
  address.toNat % 4 = 0

instance (address : UInt32) : Decidable (Aligned address) :=
  inferInstanceAs (Decidable (_ = _))

/-- Sums that wrap around keep to words, since the address space consists of whole words. -/
theorem Aligned.add {address distance : UInt32} (isAligned : Aligned address)
    (whole : Aligned distance) : Aligned (address + distance) := by
  unfold Aligned at *
  rw [UInt32.toNat_add]
  omega

theorem aligned_ofInt (words : Int) : Aligned (UInt32.ofInt (4 * words)) := by
  have wrapped : (UInt32.ofInt (4 * words)).toNat = (4 * words % 2 ^ 32).toNat % 2 ^ 32 :=
    UInt32.toNat_ofNat'
  unfold Aligned
  rw [wrapped]
  omega

/-- A branch goes some number of words forward or backward. -/
theorem aligned_branchOffset (word : UInt32) : Aligned (Instruction.branchOffset word) := by
  rw [Instruction.branchOffset_eq]
  exact aligned_ofInt _

theorem Instruction.decode_eq_branch {word offset : UInt32} (isBranch : decode word = .branch offset) :
    offset = branchOffset word := by
  unfold decode at isBranch
  simp only [Bool.and_eq_true] at isBranch
  split at isBranch
  · cases isBranch
  · split at isBranch
    · exact (Instruction.branch.inj isBranch).symm
    · split at isBranch
      · cases isBranch
      · split at isBranch <;> cases isBranch

/-- Whatever word is executed at an aligned address, the next address is aligned. -/
theorem Aligned.destination {address : UInt32} (isAligned : Aligned address) (word : UInt32) :
    Aligned (Stepping.destination address (Instruction.decode word)) := by
  have four : Aligned 4 := by decide
  have eight : Aligned 8 := by decide
  unfold Stepping.destination
  split
  · rename_i offset isBranch
    rw [Instruction.decode_eq_branch isBranch]
    exact (isAligned.add eight).add (aligned_branchOffset word)
  · exact isAligned.add four

/-! ### Addresses in pages -/

namespace PageTable

theorem pageNumber_eq (address : UInt32) : pageNumber address = address.toNat / pageSize := by
  rw [pageNumber, UInt32.toNat_shiftRight, Nat.shiftRight_eq_div_pow]
  rfl

theorem wordOffset_eq (address : UInt32) :
    wordOffset address = address.toNat % pageSize / 4 * 4 := by
  have masked : (address &&& 0xFFC).toNat = address.toNat &&& (2 ^ 10 - 1) <<< 2 := UInt32.toNat_and ..
  have low (value : Nat) : value &&& (2 ^ 10 - 1) <<< 2 = value / 4 % 2 ^ 10 * 4 := by
    apply Nat.eq_of_testBit_eq
    intro index
    rw [Nat.testBit_and, Nat.testBit_shiftLeft, Nat.testBit_two_pow_sub_one,
      show (4 : Nat) = 2 ^ 2 from rfl, Nat.testBit_mul_two_pow, Nat.testBit_mod_two_pow,
      Nat.testBit_div_two_pow]
    by_cases above : 2 ≤ index
    · simp [above, Bool.and_comm]
    · simp [above]
  rw [wordOffset, masked, low]
  show _ = address.toNat % 4096 / 4 * 4
  omega

/-- The index of a page is one of the table's. -/
theorem pageNumber_lt (address : UInt32) : pageNumber address < pageCount := by
  have bound := address.toNat_lt
  rw [pageNumber_eq]
  show address.toNat / 4096 < 1048576
  omega

/-- The bytes of a word lie in one page. -/
theorem wordOffset_add_le (address : UInt32) : wordOffset address + 4 ≤ pageSize := by
  rw [wordOffset_eq]
  show address.toNat % 4096 / 4 * 4 + 4 ≤ 4096
  omega

theorem pageNumber_mul_add {address : UInt32} (isAligned : Aligned address) :
    pageNumber address * pageSize + wordOffset address = address.toNat := by
  unfold Aligned at isAligned
  rw [pageNumber_eq, wordOffset_eq]
  show address.toNat / 4096 * 4096 + address.toNat % 4096 / 4 * 4 = address.toNat
  omega

end PageTable

/-! ### Faithful tables -/

/-- The guest's memory, byte by byte, as it is in a state of the caller. It is what pages and
callbacks are both compared with. -/
abbrev GuestMemory (σ : Type) : Type :=
  σ → UInt32 → UInt8

/-- The little-endian word at an address. -/
def GuestMemory.word (memory : GuestMemory σ) (own : σ) (address : UInt32) : UInt32 :=
  UInt32.ofNat (LittleEndian.ofBytes
    (List.ofFn fun place : Fin 4 => memory own (address + UInt32.ofNat place)))

theorem Page.word_eq (page : Page) {offset : Nat} (inside : offset + 4 ≤ pageSize) :
    page.word offset = UInt32.ofNat (LittleEndian.ofBytes
      (List.ofFn fun place : Fin 4 => page.get ⟨offset + place, by omega⟩)) := by
  have extracted : (page.toArray.extract offset (offset + 4)).toList =
      List.ofFn fun place : Fin 4 => page.get ⟨offset + place, by omega⟩ := by
    have size : page.toArray.size = pageSize := page.size_toArray
    apply List.ext_getElem
    · rw [Array.length_toList, Array.size_extract, List.length_ofFn]
      omega
    · intro index _ _
      rw [Array.getElem_toList, Array.getElem_extract, List.getElem_ofFn]
      rfl
  rw [Page.word, extracted]

namespace PageTable

/-- The page that an address is in is mapped. Words that lie in mapped pages are found without
asking anybody. -/
def Mapped (table : PageTable σ) (address : UInt32) : Prop :=
  (table.page? (pageNumber address)).isSome

/-- In a state of the caller, every mapped page holds what the guest's memory holds at the same
addresses. -/
def Faithful (table : PageTable σ) (memory : GuestMemory σ) (own : σ) : Prop :=
  ∀ number page, number < pageCount → table.page? number = some page →
    ∀ offset : Fin pageSize, (page own).get offset = memory own (UInt32.ofNat (number * pageSize + offset))

variable {table : PageTable σ} {memory : GuestMemory σ} {own : σ} {address : UInt32}

theorem fetch?_of_mapped (faithful : table.Faithful memory own) (isAligned : Aligned address)
    (mapped : table.Mapped address) : table.fetch? own address = some (memory.word own address) := by
  obtain ⟨page, isPage⟩ := Option.isSome_iff_exists.1 mapped
  have bytes := faithful _ page (pageNumber_lt address) isPage
  have whole := pageNumber_mul_add isAligned
  rw [fetch?, isPage, Option.map_some, Page.word_eq _ (wordOffset_add_le address), GuestMemory.word]
  congr
  funext place
  rw [bytes]
  apply congrArg
  rw [← Nat.add_assoc, whole, UInt32.ofNat_add, UInt32.ofNat_toNat]

theorem fetch?_of_not_mapped (unmapped : ¬ table.Mapped address) : table.fetch? own address = none := by
  have noPage : table.page? (pageNumber address) = none := by simpa [Mapped] using unmapped
  rw [fetch?, noPage, Option.map_none]

end PageTable

end RecompilerAdapter
