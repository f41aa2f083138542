import GradedReading.Search.Cursor

/-!
# GradedReading.Proofs.Search.Ranks

Results are numbered without gaps.

What a cursor hands out gets the ranks from the cursor's next rank on, and the cursor's next rank
moves by as many. So the results of one call of `fetch` have consecutive ranks, whatever the
provider answers, and no two of them the same.
-/

namespace GradedReading.Search

open Web

/-- The results have the ranks from `first` on. -/
def RanksFrom (first : Nat) (rs : List SearchResult) : Prop :=
  rs.map SearchResult.rank = List.range' first rs.length

theorem RanksFrom.cons {first : Nat} {r : SearchResult} {rs : List SearchResult}
    (hr : r.rank = first) (h : RanksFrom (first + 1) rs) : RanksFrom first (r :: rs) := by
  unfold RanksFrom at h ⊢
  rw [List.map_cons, hr, h, List.length_cons, List.range'_succ]

theorem RanksFrom.append {first : Nat} {as bs : List SearchResult} (ha : RanksFrom first as)
    (hb : RanksFrom (first + as.length) bs) : RanksFrom first (as ++ bs) := by
  unfold RanksFrom at ha hb ⊢
  rw [List.map_append, ha, hb, List.length_append, List.range'_append_1]

theorem RanksFrom.nodup {first : Nat} {rs : List SearchResult} (h : RanksFrom first rs) :
    (rs.map SearchResult.rank).Nodup := by
  rw [h]
  exact List.nodup_range'

theorem RanksFrom.mem {first : Nat} {rs : List SearchResult} (h : RanksFrom first rs)
    {r : SearchResult} (hr : r ∈ rs) : first ≤ r.rank ∧ r.rank < first + rs.length := by
  have hrank : r.rank ∈ rs.map SearchResult.rank := List.mem_map_of_mem hr
  rw [h] at hrank
  exact List.mem_range'_1.1 hrank

/-- What is handed out starts at the cursor's next rank, which moves by as many. -/
theorem ranksFrom_go (blacklist : Blacklist) (n : Nat) (waiting : List SearchResult) (c : Cursor) :
    RanksFrom c.nextRank (Cursor.take.go blacklist n waiting c).1 ∧
    (Cursor.take.go blacklist n waiting c).2.nextRank =
      c.nextRank + (Cursor.take.go blacklist n waiting c).1.length := by
  fun_induction Cursor.take.go blacklist n waiting c with
  | case1 => exact ⟨rfl, rfl⟩
  | case2 => exact ⟨rfl, rfl⟩
  | case3 n r waiting c hskip ih => exact ih
  | case4 n r waiting c hskip out c' hgo ih =>
      rw [hgo] at ih
      obtain ⟨hranks, hnext⟩ := ih
      -- this result has the next rank, and the others follow it
      refine ⟨hranks.cons rfl, ?_⟩
      have hnext : c'.nextRank = c.nextRank + 1 + out.length := hnext
      simp only [List.length_cons]
      omega

theorem ranksFrom_take (blacklist : Blacklist) (n : Nat) (c : Cursor) :
    RanksFrom c.nextRank (c.take blacklist n).1 ∧
    (c.take blacklist n).2.nextRank = c.nextRank + (c.take blacklist n).1.length :=
  ranksFrom_go blacklist n c.buffered { c with buffered := [] }

theorem query_go (blacklist : Blacklist) (n : Nat) (waiting : List SearchResult) (c : Cursor) :
    (Cursor.take.go blacklist n waiting c).2.query = c.query := by
  fun_induction Cursor.take.go blacklist n waiting c with
  | case1 => rfl
  | case2 => rfl
  | case3 n r waiting c hskip ih => exact ih
  | case4 n r waiting c hskip out c' hgo ih =>
      rw [hgo] at ih
      exact ih

theorem query_take (blacklist : Blacklist) (n : Nat) (c : Cursor) :
    (c.take blacklist n).2.query = c.query :=
  query_go blacklist n c.buffered { c with buffered := [] }

namespace Fetch

/-- What a call has collected has consecutive ranks, up to the cursor's next one, and what it
answers is what it has collected. -/
structure Numbered (f : Fetch) : Prop where
  out : ∃ first, RanksFrom first f.out ∧ f.cursor.nextRank = first + f.out.length
  verdict : ∀ rs, f.verdict = some (.value rs) → rs = f.out

theorem Numbered.decide {f : Fetch} (h : f.Numbered) : f.decide.Numbered := by
  unfold Fetch.decide
  split
  · exact ⟨h.out, fun rs hv => by simpa [eq_comm] using hv⟩
  · exact h

theorem numbered_start (blacklist : Blacklist) (target : Nat) (c : Cursor) :
    (start blacklist target c).Numbered := by
  obtain ⟨hranks, hnext⟩ := ranksFrom_take blacklist target c
  exact Numbered.decide ⟨⟨c.nextRank, hranks, hnext⟩, by simp⟩

theorem Numbered.step {f : Fetch} (h : f.Numbered) (blacklist : Blacklist)
    (reply : Reply SearchError Page) : (f.step blacklist reply).Numbered := by
  cases reply with
  | panic m => exact ⟨h.out, by simp [Fetch.step]⟩
  | error e =>
      refine ⟨h.out, fun rs hv => ?_⟩
      by_cases hempty : f.out.isEmpty = true
      · simp [Fetch.step, hempty] at hv
      · simpa [Fetch.step, hempty, eq_comm] using hv
  | value p =>
      obtain ⟨first, hfirst, hcursor⟩ := h.out
      obtain ⟨hranks, hnext⟩ := ranksFrom_take blacklist f.need (f.cursor.receive p)
      -- a page that is taken in leaves the next rank where it is
      have hstart : (f.cursor.receive p).nextRank = first + f.out.length := hcursor
      rw [hstart] at hranks hnext
      refine Numbered.decide ⟨⟨first, hfirst.append hranks, ?_⟩, by simp⟩
      have hlen := hnext.trans (Nat.add_assoc ..)
      rwa [← List.length_append] at hlen

/-- A call that ends well answers results with consecutive ranks. -/
theorem Numbered.ranksFrom {f : Fetch} (h : f.Numbered) {rs : List SearchResult}
    (hv : f.verdict = some (.value rs)) : ∃ first, RanksFrom first rs := by
  obtain ⟨first, hranks, -⟩ := h.out
  rw [h.verdict rs hv]
  exact ⟨first, hranks⟩

/-! ### From one cursor to the next -/

/-- The call has gone on from this cursor, when it had collected what is in `old`: it is about the
same query, and what it has collected since is ranked between the two cursors. -/
structure GoesOn (c : Cursor) (old : List SearchResult) (f : Fetch) : Prop where
  query : f.cursor.query = c.query
  nextRank_le : c.nextRank ≤ f.cursor.nextRank
  out : ∀ r ∈ f.out, r ∈ old ∨ c.nextRank ≤ r.rank ∧ r.rank < f.cursor.nextRank

variable {c : Cursor} {old : List SearchResult} {f : Fetch}

theorem GoesOn.decide (h : f.GoesOn c old) : f.decide.GoesOn c old := by
  unfold Fetch.decide
  split
  · exact ⟨h.query, h.nextRank_le, h.out⟩
  · exact h

/-- What a cursor hands out is added to what was collected. -/
theorem goesOn_take (blacklist : Blacklist) (n : Nat) (c : Cursor) (old : List SearchResult)
    (f : Fetch) (hout : f.out = old ++ (c.take blacklist n).1)
    (hcursor : f.cursor = (c.take blacklist n).2) : f.GoesOn c old := by
  obtain ⟨hranks, hnext⟩ := ranksFrom_take blacklist n c
  refine ⟨hcursor ▸ query_take blacklist n c, by rw [hcursor, hnext]; exact Nat.le_add_right _ _,
    fun r hr => ?_⟩
  rw [hout] at hr
  refine (List.mem_append.1 hr).imp_right fun hnew => ?_
  rw [hcursor, hnext]
  exact hranks.mem hnew

theorem goesOn_start (blacklist : Blacklist) (target : Nat) (c : Cursor) :
    (start blacklist target c).GoesOn c [] :=
  (goesOn_take blacklist target c [] _ (List.nil_append _).symm rfl).decide

theorem goesOn_step (blacklist : Blacklist) (reply : Reply SearchError Page) (f : Fetch) :
    (f.step blacklist reply).GoesOn f.cursor f.out := by
  cases reply with
  | panic m | error e => exact ⟨rfl, Nat.le_refl _, fun r hr => .inl hr⟩
  | value p =>
      -- a page that is taken in changes neither the query nor the next rank
      obtain ⟨hquery, hle, hout⟩ := (goesOn_take blacklist f.need (f.cursor.receive p) f.out
        { cursor := _, out := _, need := _, pages := f.pages - 1, verdict := none } rfl rfl).decide
      exact ⟨hquery, hle, hout⟩

end Fetch

end GradedReading.Search
