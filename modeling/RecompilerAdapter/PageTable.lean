/-
Module: RecompilerAdapter.PageTable
Purpose: Page tables. A page table maps guest pages to pages on the caller's side, which the engine then
  reads without asking. The caller keeps what it owns and may change it, so a mapped page is read from the
  caller's current state.
Trusted boundary: the definitions of this module
Main exports: Page, PageTable, PageTable.fetch?
-/
import RecompilerAdapter.Word.Width

namespace RecompilerAdapter

/-- The number of address bits inside a page. -/
def pageBits : Nat :=
  12

/-- The number of bytes of a page. -/
def pageSize : Nat :=
  Nat.pow 2 pageBits

/-- The number of pages of the address space. -/
def pageCount : Nat :=
  Nat.pow 2 (32 - pageBits)

/-- The contents of one page. -/
abbrev Page : Type :=
  Vector UInt8 pageSize

/-- The page mapped for each page number, as it is in a state of the caller; `none` where the table
has no entry. -/
structure PageTable (σ : Type) where
  page? : Nat → Option (σ → Page)

namespace Page

/-- The page filled with zeros. -/
def zeroed : Page :=
  Vector.replicate pageSize 0

/-- Stores a little-endian word at an offset; what would lie beyond the page is dropped. -/
def store (page : Page) (offset : Nat) (word : UInt32) : Page :=
  (LittleEndian.toBytes 4 word.toNat).zipIdx.foldl
    (fun page (byte, position) => page.setIfInBounds (offset + position) byte) page

/-- The little-endian word at an offset. -/
def word (page : Page) (offset : Nat) : UInt32 :=
  UInt32.ofNat (LittleEndian.ofBytes (page.toArray.extract offset (offset + 4)).toList)

end Page

namespace PageTable

/-- The page number of an address. -/
def pageNumber (address : UInt32) : Nat :=
  (address >>> 12).toNat

/-- The offset in its page of the aligned word that holds an address. -/
def wordOffset (address : UInt32) : Nat :=
  (address &&& 0xFFC).toNat

/-- The instruction word at an address, if its page is mapped. -/
def fetch? {σ : Type} (table : PageTable σ) (own : σ) (address : UInt32) : Option UInt32 :=
  (table.page? (pageNumber address)).map fun page => (page own).word (wordOffset address)

end PageTable

end RecompilerAdapter
