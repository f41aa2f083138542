import GradedReading.Text.CodePoints
import Mathlib.Algebra.Ring.Nat
import Mathlib.Data.List.Chain

/-!
# GradedReading.Proofs.Text.CodePoints

Sets of code points given by ascending edges.

**Key idea:** where the edges ascend, the bisection finds how many of them lie at or below a code
point (`bisect_spec`), so a code point between an edge with an even number and the next edge belongs
to the set (`contains_of_edges`). To look up many code points at once both they and the set are
written as the bits of one number each (`contains_of_covers`).
-/

namespace GradedReading.Text.CodePoints

/-- Each edge comes after the one before it. -/
def Ascending (s : CodePoints) : Prop := s.edges.toList.IsChain (· < ·)

instance (s : CodePoints) : Decidable s.Ascending :=
  inferInstanceAs (Decidable (s.edges.toList.IsChain (· < ·)))

theorem Ascending.getD_le {s : CodePoints} (hs : s.Ascending) {i j : Nat} (hij : i ≤ j)
    (hj : j < s.edges.size) : s.edges.getD i 0 ≤ s.edges.getD j 0 := by
  obtain rfl | hlt := Nat.eq_or_lt_of_le hij
  · exact Nat.le_refl _
  · have hi : i < s.edges.size := by omega
    have hpairwise := List.pairwise_iff_getElem.1 (List.isChain_iff_pairwise.1 hs)
    have hedges : s.edges[i] < s.edges[j] := hpairwise i j (by simpa) (by simpa) hlt
    simpa [Array.getD, hi, hj] using Nat.le_of_lt hedges

/-- **The bisection** separates the edges at or below a code point from those above it. -/
theorem bisect_spec {s : CodePoints} (hs : s.Ascending) (c : Nat) {fuel lo hi : Nat}
    (hfuel : hi - lo < 2 ^ fuel) (hlo : lo ≤ hi) (hhi : hi ≤ s.edges.size)
    (hbelow : ∀ i < lo, s.edges.getD i 0 ≤ c)
    (habove : ∀ i, hi ≤ i → i < s.edges.size → c < s.edges.getD i 0) :
    (∀ i < bisect s.edges c fuel lo hi, s.edges.getD i 0 ≤ c) ∧
      ∀ i, bisect s.edges c fuel lo hi ≤ i → i < s.edges.size → c < s.edges.getD i 0 := by
  induction fuel generalizing lo hi with
  | zero =>
      obtain rfl : lo = hi := by omega
      exact ⟨hbelow, habove⟩
  | succ fuel ih =>
      rw [Nat.pow_succ] at hfuel
      rw [bisect]
      split
      · next hlt =>
        dsimp only
        split
        · next hmid =>
          refine ih (by omega) (by omega) hhi (fun i hi' => ?_) habove
          exact (hs.getD_le (by omega) (by omega)).trans hmid
        · next hmid =>
          refine ih (by omega) (by omega) (by omega) hbelow fun i hi' hsize => ?_
          exact (Nat.lt_of_not_le hmid).trans_le (hs.getD_le hi' hsize)
      · obtain rfl : lo = hi := by omega
        exact ⟨hbelow, habove⟩

theorem rank_spec {s : CodePoints} (hs : s.Ascending) (c : Nat) :
    (∀ i < s.rank c, s.edges.getD i 0 ≤ c) ∧
      ∀ i, s.rank c ≤ i → i < s.edges.size → c < s.edges.getD i 0 := by
  refine bisect_spec hs c ?_ (Nat.zero_le _) (Nat.le_refl _) (by simp) fun i hi hsize => by omega
  have hlog := Nat.lt_log2_self (n := s.edges.size)
  rw [Nat.pow_succ]
  omega

/-- The code points from an edge with an even number up to the next edge belong to the set. -/
theorem contains_of_edges {s : CodePoints} (hs : s.Ascending) {front rest : List Nat}
    {lo hi c : Nat} (hedges : s.edges.toList = front ++ lo :: hi :: rest)
    (heven : front.length % 2 = 0) (hlo : lo ≤ c) (hhi : c < hi) : s.contains c = true := by
  have hsize : s.edges.size = front.length + rest.length + 2 := by
    rw [← Array.length_toList, hedges]
    simp only [List.length_append, List.length_cons]
    omega
  have hgetD (i : Nat) : s.edges.getD i 0 = (front ++ lo :: hi :: rest).getD i 0 := by
    rw [← hedges, Array.getD_eq_getD_getElem?, List.getD_eq_getElem?_getD, Array.getElem?_toList]
  have hfirst : s.edges.getD front.length 0 = lo := by simp [hgetD]
  have hsecond : s.edges.getD (front.length + 1) 0 = hi := by simp [hgetD]
  obtain ⟨hbelow, habove⟩ := rank_spec hs c
  have hgt : front.length < s.rank c := by
    by_contra hle
    have := habove front.length (by omega) (by omega)
    omega
  have hle : s.rank c ≤ front.length + 1 := by
    by_contra hlt
    have := hbelow (front.length + 1) (by omega)
    omega
  have hrank : s.rank c = front.length + 1 := by omega
  simp only [contains, hrank, decide_eq_true_eq]
  omega

/-! ### Sets as the bits of numbers

Numbers of any size are computed with as a whole, so that many code points are looked up at once. -/

/-- The number with a bit for each of the code points. -/
def bitsOf : List Nat → Nat
  | [] => 0
  | n :: ns => 2 ^ n ||| bitsOf ns

/-- The number with a bit for each code point from an edge with an even number up to the next
edge. -/
def bitsFrom : List Nat → Nat
  | lo :: hi :: rest => (2 ^ (hi - lo) - 1) <<< lo ||| bitsFrom rest
  | _ => 0

theorem testBit_bitsOf {ns : List Nat} {n : Nat} : (bitsOf ns).testBit n = true ↔ n ∈ ns := by
  induction ns with
  | nil => simp [bitsOf]
  | cons m ns ih =>
      rw [bitsOf, Nat.testBit_or, Bool.or_eq_true, ih, Nat.testBit_two_pow, List.mem_cons,
        decide_eq_true_eq, eq_comm]

theorem exists_edges_of_testBit {edges : List Nat} {c : Nat}
    (h : (bitsFrom edges).testBit c = true) :
    ∃ front lo hi rest, edges = front ++ lo :: hi :: rest ∧ front.length % 2 = 0 ∧ lo ≤ c ∧
      c < hi := by
  fun_induction bitsFrom edges with
  | case1 lo hi rest ih =>
      rw [Nat.testBit_or, Bool.or_eq_true, Nat.testBit_shiftLeft, Nat.testBit_two_pow_sub_one,
        Bool.and_eq_true, decide_eq_true_eq, decide_eq_true_eq] at h
      rcases h with ⟨hlo, hhi⟩ | h
      · exact ⟨[], lo, hi, rest, rfl, rfl, hlo, by omega⟩
      · obtain ⟨front, lo', hi', rest', rfl, heven, hbetween⟩ := ih h
        refine ⟨lo :: hi :: front, lo', hi', rest', rfl, ?_, hbetween⟩
        rw [List.length_cons, List.length_cons]
        omega
  | case2 => simp at h

/-- The set has all these code points, as far as its bits tell. -/
def covers (s : CodePoints) (ns : List Nat) : Bool :=
  Nat.beq (bitsOf ns &&& bitsFrom s.edges.toList) (bitsOf ns)

/-- The lists have no code point in common. -/
def apart (ns ms : List Nat) : Bool := Nat.beq (bitsOf ns &&& bitsOf ms) 0

theorem contains_of_covers {s : CodePoints} (hs : s.Ascending) {ns : List Nat}
    (h : s.covers ns = true) {c : Nat} (hc : c ∈ ns) : s.contains c = true := by
  have hbit := testBit_bitsOf.2 hc
  rw [← Nat.eq_of_beq_eq_true h, Nat.testBit_and, Bool.and_eq_true] at hbit
  obtain ⟨front, lo, hi, rest, hedges, heven, hlo, hhi⟩ := exists_edges_of_testBit hbit.2
  exact contains_of_edges hs hedges heven hlo hhi

theorem not_mem_of_apart {ns ms : List Nat} (h : apart ns ms = true) {c : Nat} (hc : c ∈ ns) :
    c ∉ ms := by
  intro hmem
  have hbit : (bitsOf ns &&& bitsOf ms).testBit c = true := by
    rw [Nat.testBit_and, testBit_bitsOf.2 hc, testBit_bitsOf.2 hmem, Bool.and_self]
  rw [Nat.eq_of_beq_eq_true h] at hbit
  exact absurd hbit (by simp)

end GradedReading.Text.CodePoints
