import Mathlib.Data.List.Basic
import Noticeboard.Search.Ranking

/-!
# Pages of a list

A page is a slice.  The pages of a list, one after another, are the list; all of them but the last
are full, and behind the last there is nothing.  The offset of a page stops at the largest 64-bit
number, which is behind the end of every list that fits in memory.
-/

namespace Noticeboard.Ranking

variable {E : Type} {settings : EngineSettings} {items : List E}

theorem pageSize_pos (settings : EngineSettings) : 0 < pageSize settings := by
  unfold pageSize
  omega

/-- The number of pages that a list of this length has. -/
def pageCount (settings : EngineSettings) (total : Nat) : Nat :=
  (total + pageSize settings - 1) / pageSize settings

theorem le_pageCount_mul (settings : EngineSettings) (total : Nat) :
    total ≤ pageCount settings total * pageSize settings := by
  have hpos := pageSize_pos settings
  have hlast : total + pageSize settings - 1 <
      (pageCount settings total + 1) * pageSize settings :=
    (Nat.div_lt_iff_lt_mul hpos).mp (Nat.lt_succ_self _)
  rw [Nat.succ_mul] at hlast
  omega

theorem mul_le_of_lt_pageCount {total k : Nat} (hk : k + 1 < pageCount settings total) :
    (k + 1) * pageSize settings ≤ total := by
  have hpos := pageSize_pos settings
  have hnext : (k + 2) * pageSize settings ≤ total + pageSize settings - 1 :=
    (Nat.le_div_iff_mul_le hpos).mp hk
  rw [Nat.succ_mul] at hnext
  omega

theorem pageCount_mono (settings : EngineSettings) {total more : Nat} (h : total ≤ more) :
    pageCount settings total ≤ pageCount settings more := by
  unfold pageCount
  exact Nat.div_le_div_right (by omega)

/-- A page is its slice, although the offset may stop short. -/
theorem paginate_eq (hlength : items.length < 0x10000000000000000) (page : UInt32) :
    paginate settings items page =
      (items.drop ((max page.toNat 1 - 1) * pageSize settings)).take (pageSize settings) := by
  unfold paginate offset
  generalize (max page.toNat 1 - 1) * pageSize settings = exact
  by_cases hfits : exact ≤ 0xFFFFFFFFFFFFFFFF
  · rw [Nat.min_eq_left hfits]
  · have hstopped : min exact 0xFFFFFFFFFFFFFFFF = 0xFFFFFFFFFFFFFFFF :=
      Nat.min_eq_right (by omega)
    rw [hstopped, List.drop_eq_nil_of_le (by omega), List.drop_eq_nil_of_le (by omega)]

theorem map_paginate {α : Type} (f : E → α) (items : List E) (page : UInt32) :
    (paginate settings items page).map f = paginate settings (items.map f) page := by
  simp [paginate, List.map_take, List.map_drop]

theorem paginate_succ (hlength : items.length < 0x10000000000000000) {k : Nat}
    (hk : k + 1 < 0x100000000) :
    paginate settings items (UInt32.ofNat (k + 1)) =
      (items.drop (k * pageSize settings)).take (pageSize settings) := by
  have hpage : (UInt32.ofNat (k + 1)).toNat = k + 1 := UInt32.toNat_ofNat_of_lt hk
  rw [paginate_eq hlength, hpage]
  congr 3
  omega

theorem flatMap_slices (size n : Nat) (items : List E) :
    ((List.range n).flatMap fun k => (items.drop (k * size)).take size) =
      items.take (n * size) := by
  induction n with
  | zero => simp
  | succ n ih =>
      rw [List.range_succ, List.flatMap_append, ih, Nat.succ_mul, List.take_add]
      simp

/-- The items of so many pages from the first on, one page after another. -/
def pagesTogether (count : Nat) (page : UInt32 → List E) : List E :=
  (List.range count).flatMap fun k => page (UInt32.ofNat (k + 1))

/-- All pages together are the list. -/
theorem pagesTogether_paginate (hlength : items.length < 0x10000000000000000)
    (hpages : pageCount settings items.length < 0x100000000) :
    pagesTogether (pageCount settings items.length) (paginate settings items) = items := by
  have hslices : pagesTogether (pageCount settings items.length) (paginate settings items) =
      (List.range (pageCount settings items.length)).flatMap fun k =>
        (items.drop (k * pageSize settings)).take (pageSize settings) := by
    apply List.flatMap_congr
    intro k hk
    have hlast := List.mem_range.mp hk
    exact paginate_succ hlength (by omega)
  rw [hslices, flatMap_slices, List.take_of_length_le (le_pageCount_mul settings items.length)]

/-- Every page before the last is full. -/
theorem length_paginate (hlength : items.length < 0x10000000000000000)
    (hpages : pageCount settings items.length < 0x100000000) {k : Nat}
    (hk : k + 1 < pageCount settings items.length) :
    (paginate settings items (UInt32.ofNat (k + 1))).length = pageSize settings := by
  have hfull := mul_le_of_lt_pageCount hk
  rw [Nat.succ_mul] at hfull
  rw [paginate_succ hlength (by omega), List.length_take, List.length_drop]
  omega

/-- Behind the last page there is nothing. -/
theorem paginate_eq_nil (hlength : items.length < 0x10000000000000000) {page : UInt32}
    (hpage : pageCount settings items.length < page.toNat) :
    paginate settings items page = [] := by
  have hend : items.length ≤ (max page.toNat 1 - 1) * pageSize settings :=
    calc
      items.length ≤ pageCount settings items.length * pageSize settings :=
        le_pageCount_mul settings items.length
      _ ≤ (max page.toNat 1 - 1) * pageSize settings :=
        Nat.mul_le_mul_right _ (by omega)
  rw [paginate_eq hlength, List.drop_eq_nil_of_le hend, List.take_nil]

/-- A page of its own for every item. -/
def sampleSettings : EngineSettings :=
  { pageSize := 1 }

end Noticeboard.Ranking
