import GradedReading.Entries
import Mathlib.Algebra.Ring.Nat

/-!
# GradedReading.Proofs.Document.Entries

Dictionaries: what is put into one is found in it.

To look a key up is to find the first entry with it. As keys ascend there is one such entry at most,
so that each entry is the one that is found (`get?_of_mem`), and a dictionary is known by what is
found in it (`ext_get?`).
-/

namespace GradedReading.Entries

open Std

variable {κ α β : Type} [Ord κ]

/-! ### Lists of entries -/

theorem find?_cons (k : κ) (e : κ × α) (es : List (κ × α)) :
    find? k (e :: es) = if compare k e.1 = .eq then some e.2 else find? k es := by
  rw [find?, List.find?_cons]
  cases h : compare k e.1 <;> rfl

/-- What comes before all keys is not found. -/
theorem find?_eq_none {k : κ} {es : List (κ × α)} (h : ∀ e ∈ es, compare k e.1 = .lt) :
    find? k es = none := by
  rw [find?, List.find?_eq_none.2 fun e he => by simp [h e he]]
  rfl

/-- A value takes the place of the one that was there. -/
theorem sum_map_place [TransOrd κ] (size : α → Nat) (k : κ) (v : α) {es : List (κ × α)}
    (hes : es.Pairwise fun e f => compare e.1 f.1 = .lt) :
    ((place k v es).map fun e => size e.2).sum + ((find? k es).map size).getD 0 =
      (es.map fun e => size e.2).sum + size v := by
  induction es with
  | nil => simp [place, find?]
  | cons e es ih =>
      obtain ⟨hfirst, hrest⟩ := List.pairwise_cons.1 hes
      rw [place, find?_cons]
      cases h : compare k e.1 with
      | lt =>
          have hnone : find? k es = none :=
            find?_eq_none fun f hf => TransCmp.lt_trans h (hfirst f hf)
          simp [hnone]
          omega
      | eq =>
          simp
          omega
      | gt =>
          have := ih hrest
          simp only [reduceCtorEq, if_false, List.map_cons, List.sum_cons]
          omega

section Lists

variable [LawfulEqOrd κ] {es : List (κ × α)}

theorem find?_of_mem (hes : es.Pairwise fun e f => compare e.1 f.1 = .lt) {e : κ × α}
    (he : e ∈ es) : find? e.1 es = some e.2 := by
  induction es with
  | nil => exact absurd he List.not_mem_nil
  | cons e' es ih =>
      obtain ⟨hfirst, hrest⟩ := List.pairwise_cons.1 hes
      rw [find?_cons]
      rcases List.mem_cons.1 he with rfl | htail
      · rw [if_pos (by simp)]
      · have hne : compare e.1 e'.1 ≠ .eq := fun heq => by
          have hlt := hfirst e htail
          rw [Std.compare_eq_iff_eq.1 heq] at hlt
          simp at hlt
        rw [if_neg hne]
        exact ih hrest htail

theorem find?_place [DecidableEq κ] (j k : κ) (v : α) (es : List (κ × α)) :
    find? j (place k v es) = if j = k then some v else find? j es := by
  induction es with
  | nil => simp only [place, find?_cons, Std.compare_eq_iff_eq]
  | cons e es ih =>
      rw [place]
      cases h : compare k e.1 with
      | lt => simp only [find?_cons, Std.compare_eq_iff_eq]
      | eq =>
          obtain rfl := Std.compare_eq_iff_eq.1 h
          simp only [find?_cons, Std.compare_eq_iff_eq]
          split <;> rfl
      | gt =>
          have hne : k ≠ e.1 := fun heq => by simp [heq] at h
          simp only [find?_cons, Std.compare_eq_iff_eq, ih]
          by_cases hj : j = e.1
          · rw [if_pos hj, if_pos hj, if_neg (by rw [hj]; exact hne.symm)]
          · rw [if_neg hj, if_neg hj]

end Lists

/-! ### Dictionaries -/

theorem get?_map (f : α → β) (k : κ) (es : Entries κ α) :
    (es.map f).get? k = (es.get? k).map f := by
  rw [get?, get?, find?, find?, map, List.find?_map, Option.map_map, Option.map_map]
  rfl

variable [LawfulEqOrd κ]

theorem mem_of_get? {es : Entries κ α} {k : κ} {v : α} (h : es.get? k = some v) : (k, v) ∈ es := by
  obtain ⟨e, he, rfl⟩ := Option.map_eq_some_iff.1 h
  have hkey : k = e.1 := by simpa using List.find?_some he
  rw [hkey]
  exact List.mem_of_find?_eq_some he

/-- **Each entry of a dictionary is found.** -/
theorem get?_of_mem {es : Entries κ α} {e : κ × α} (he : e ∈ es) : es.get? e.1 = some e.2 :=
  find?_of_mem es.ascending he

theorem nodup_toList (es : Entries κ α) : es.toList.Nodup :=
  es.ascending.imp fun h heq => by simp [heq] at h

variable [TransOrd κ]

/-- What was put in is found, and so is all else that was there. -/
theorem get?_put [DecidableEq κ] (j k : κ) (v : α) (es : Entries κ α) :
    (es.put k v).get? j = if j = k then some v else es.get? j :=
  find?_place j k v es.toList

/-- **Dictionaries in which the same is found are the same.** -/
theorem ext_get? {es fs : Entries κ α} (h : ∀ k, es.get? k = fs.get? k) : es = fs := by
  have hmem {gs hs : Entries κ α} (heq : ∀ k, gs.get? k = hs.get? k)
      {e : κ × α} (he : e ∈ gs) : e ∈ hs :=
    mem_of_get? ((heq e.1).symm.trans (get?_of_mem he))
  have hperm : es.toList.Perm fs.toList :=
    (List.perm_ext_iff_of_nodup es.nodup_toList fs.nodup_toList).2 fun e =>
      ⟨hmem h, hmem fun k => (h k).symm⟩
  refine ext (hperm.eq_of_pairwise (fun e f _ _ hef hfe => ?_) es.ascending fs.ascending)
  rw [OrientedCmp.gt_of_lt hef] at hfe
  exact absurd hfe nofun

theorem sum_map_put (size : α → Nat) (k : κ) (v : α) (es : Entries κ α) :
    ((es.put k v).toList.map fun e => size e.2).sum + ((es.get? k).map size).getD 0 =
      (es.toList.map fun e => size e.2).sum + size v :=
  sum_map_place size k v es.ascending

end GradedReading.Entries
