import Noticeboard.Proofs.Paging

/-!
# Pages by the places of their items

A list is cut into pages at the multiples of the page size.  An item stands on a page exactly if its
place in the list lies between two such multiples, which are whole numbers of any size.  The offset
stops at the largest 64-bit number, but no place in a list is as far as that.
-/

namespace Noticeboard.Ranking

variable {E : Type} {settings : EngineSettings} {items : List E}

/-- The items at the places from `first` on and before `past`, in the order of the list. -/
def itemsBetween (first past : Nat) (items : List E) : List E :=
  (items.zipIdx.filter fun item => decide (first ≤ item.2 ∧ item.2 < past)).map Prod.fst

/-! ## Items and their places

Places may be counted from any number on, so that the rest of a list is counted like the list. -/

theorem filter_zipIdx_lt (past start : Nat) (items : List E) :
    ((items.zipIdx start).filter fun item => decide (item.2 < past)) =
      (items.take (past - start)).zipIdx start := by
  induction items generalizing start with
  | nil => simp
  | cons item rest ih =>
      rw [List.zipIdx_cons, List.filter_cons, ih]
      by_cases hbefore : start < past
      · have htaken : past - start = past - (start + 1) + 1 := by omega
        simp [hbefore, htaken]
      · have hnone : past - start = 0 := by omega
        have hnext : past - (start + 1) = 0 := by omega
        simp [hbefore, hnone, hnext]

theorem filter_zipIdx_ge (first start : Nat) (items : List E) :
    ((items.zipIdx start).filter fun item => decide (first ≤ item.2)) =
      (items.drop (first - start)).zipIdx (max first start) := by
  induction items generalizing start with
  | nil => simp
  | cons item rest ih =>
      rw [List.zipIdx_cons, List.filter_cons, ih]
      by_cases hfrom : first ≤ start
      · have hnone : first - start = 0 := by omega
        have hnext : first - (start + 1) = 0 := by omega
        have hplace : max first (start + 1) = start + 1 := by omega
        simp [hfrom, hnone, hnext, hplace]
      · have hdropped : first - start = first - (start + 1) + 1 := by omega
        have hplace : max first (start + 1) = max first start := by omega
        simp [hfrom, hdropped, hplace]

/-- Items between two places are what is left of a beginning of the list. -/
theorem itemsBetween_eq (first past : Nat) (items : List E) :
    itemsBetween first past items = (items.drop first).take (past - first) := by
  have hboth : (items.zipIdx.filter fun item => decide (first ≤ item.2 ∧ item.2 < past)) =
      (items.zipIdx.filter fun item => decide (item.2 < past)).filter
        fun item => decide (first ≤ item.2) := by
    simp only [List.filter_filter, Bool.decide_and]
  rw [itemsBetween, hboth, filter_zipIdx_lt, filter_zipIdx_ge, List.zipIdx_map_fst, Nat.sub_zero,
    Nat.sub_zero, List.drop_take]

/-! ## Pages -/

/-- On every page of a list that fits in memory stand the items between two multiples of the page
size, in their order, and the page tells the length of the whole list. -/
theorem pages_by_places (hlength : items.length < 0x10000000000000000) (page : UInt32) :
    paginate settings items page =
        itemsBetween ((max page.toNat 1 - 1) * max settings.pageSize.toNat 1)
          (max page.toNat 1 * max settings.pageSize.toNat 1) items ∧
      pageOf settings items page =
        ⟨paginate settings items page, page, max settings.pageSize.toNat 1, items.length,
          none⟩ := by
  have hnext : max page.toNat 1 - (max page.toNat 1 - 1) = 1 := by omega
  have hsize : max page.toNat 1 * pageSize settings -
      (max page.toNat 1 - 1) * pageSize settings = pageSize settings := by
    rw [← Nat.sub_mul, hnext, Nat.one_mul]
  refine ⟨?_, rfl⟩
  calc
    paginate settings items page =
        (items.drop ((max page.toNat 1 - 1) * pageSize settings)).take (pageSize settings) :=
      paginate_eq hlength page
    _ = itemsBetween ((max page.toNat 1 - 1) * pageSize settings)
        (max page.toNat 1 * pageSize settings) items := by
      rw [itemsBetween_eq, hsize]

/-- The greatest page of the greatest size: its offset stops short, and nothing stands on it. -/
theorem greatest_page_is_empty :
    let settings : EngineSettings := { pageSize := 0xFFFFFFFFFFFFFFFF }
    offset settings 0xFFFFFFFF < (0xFFFFFFFF - 1) * pageSize settings ∧
      ["a", "b", "c"].length < 0x10000000000000000 ∧
      paginate settings ["a", "b", "c"] 0xFFFFFFFF = [] ∧
      paginate settings ["a", "b", "c"] 0 = ["a", "b", "c"] ∧
      (pageOf settings ["a", "b", "c"] 0xFFFFFFFF).total = 3 := by
  intro settings
  have hlength : ["a", "b", "c"].length < 0x10000000000000000 := by decide
  have hgreatest := @pages_by_places _ settings _ hlength 0xFFFFFFFF
  have hfirst := @pages_by_places _ settings _ hlength 0
  refine ⟨by decide, hlength, ?_, ?_, ?_⟩
  · rw [hgreatest.1]
    decide +kernel
  · rw [hfirst.1]
    decide +kernel
  · rw [hgreatest.2]
    rfl

end Noticeboard.Ranking
