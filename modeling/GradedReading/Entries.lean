/-!
# GradedReading.Entries

Small dictionaries: keys with their values, keys ascending, each key once.

**Key idea:** a dictionary carries the proof that its keys ascend, so that it shows its entries in
the order in which reports print them, and each entry is the one that is found under its key.
-/

namespace GradedReading

open Std

/-- Keys with their values. -/
structure Entries (κ : Type) (α : Type) [Ord κ] where
  toList : List (κ × α)
  /-- Keys ascend, so that each is there once. -/
  ascending : toList.Pairwise fun e f => compare e.1 f.1 = .lt

namespace Entries

variable {κ α β : Type} [Ord κ]

/-- No entry. -/
def empty : Entries κ α := ⟨[], .nil⟩

instance : Inhabited (Entries κ α) := ⟨empty⟩

instance [Repr κ] [Repr α] : Repr (Entries κ α) := ⟨fun es n => reprPrec es.toList n⟩

instance : Membership (κ × α) (Entries κ α) := ⟨fun es e => e ∈ es.toList⟩

instance [DecidableEq κ] [DecidableEq α] (e : κ × α) (es : Entries κ α) : Decidable (e ∈ es) :=
  inferInstanceAs (Decidable (e ∈ es.toList))

@[simp] theorem mem_toList {e : κ × α} {es : Entries κ α} : e ∈ es.toList ↔ e ∈ es := Iff.rfl

theorem ext {es fs : Entries κ α} (h : es.toList = fs.toList) : es = fs := by
  cases es
  cases fs
  cases h
  rfl

instance [DecidableEq κ] [DecidableEq α] : DecidableEq (Entries κ α) := fun es fs =>
  decidable_of_iff (es.toList = fs.toList) ⟨ext, congrArg toList⟩

/-! ### Putting values in -/

/-- Give `k` the value `v` in a list of entries, in the place of an earlier value. -/
def place (k : κ) (v : α) : List (κ × α) → List (κ × α)
  | [] => [(k, v)]
  | (k', v') :: rest =>
    match compare k k' with
    | .lt => (k, v) :: (k', v') :: rest
    | .eq => (k, v) :: rest
    | .gt => (k', v') :: place k v rest

theorem mem_place {k : κ} {v : α} {es : List (κ × α)} {e : κ × α} (he : e ∈ place k v es) :
    e = (k, v) ∨ e ∈ es := by
  induction es with
  | nil => exact .inl (List.mem_singleton.1 he)
  | cons e' es ih =>
      rw [place] at he
      cases h : compare k e'.1 with
      | lt =>
          simp only [h] at he
          exact List.mem_cons.1 he
      | eq =>
          simp only [h] at he
          exact (List.mem_cons.1 he).imp_right (List.mem_cons_of_mem _)
      | gt =>
          simp only [h] at he
          rcases List.mem_cons.1 he with rfl | htail
          · exact .inr List.mem_cons_self
          · exact (ih htail).imp_right (List.mem_cons_of_mem _)

variable [TransOrd κ] [LawfulEqOrd κ]

/-- **Entries stay in order.** -/
theorem pairwise_place (k : κ) (v : α) {es : List (κ × α)}
    (hes : es.Pairwise fun e f => compare e.1 f.1 = .lt) :
    (place k v es).Pairwise fun e f => compare e.1 f.1 = .lt := by
  induction es with
  | nil => exact List.pairwise_singleton ..
  | cons e es ih =>
      obtain ⟨hfirst, hrest⟩ := List.pairwise_cons.1 hes
      rw [place]
      cases h : compare k e.1 with
      | lt =>
          refine List.pairwise_cons.2 ⟨fun f hf => ?_, hes⟩
          rcases List.mem_cons.1 hf with rfl | htail
          · exact h
          · exact TransCmp.lt_trans h (hfirst f htail)
      | eq =>
          refine List.pairwise_cons.2 ⟨fun f hf => ?_, hrest⟩
          rw [Std.compare_eq_iff_eq.1 h]
          exact hfirst f hf
      | gt =>
          refine List.pairwise_cons.2 ⟨fun f hf => ?_, ih hrest⟩
          rcases mem_place hf with rfl | htail
          · exact OrientedCmp.lt_of_gt h
          · exact hfirst f htail

/-- Give `k` the value `v`, in the place of an earlier value. -/
def put (k : κ) (v : α) (es : Entries κ α) : Entries κ α :=
  ⟨place k v es.toList, pairwise_place k v es.ascending⟩

/-- The entries of a list of pairs; of two with one key the later one stays. -/
def ofList (pairs : List (κ × α)) : Entries κ α :=
  pairs.foldl (fun es (k, v) => es.put k v) empty

/-! ### Looking values up -/

omit [TransOrd κ] [LawfulEqOrd κ] in
/-- The value of `k` in a list of entries. -/
def find? (k : κ) (es : List (κ × α)) : Option α :=
  (es.find? fun e => compare k e.1 == .eq).map (·.2)

omit [TransOrd κ] [LawfulEqOrd κ] in
/-- The value of `k`. -/
def get? (k : κ) (es : Entries κ α) : Option α := find? k es.toList

/-- Apply `f` to the value of `k`, starting from `fresh` if it has none. -/
def update (k : κ) (fresh : α) (f : α → α) (es : Entries κ α) : Entries κ α :=
  es.put k (f ((es.get? k).getD fresh))

omit [TransOrd κ] [LawfulEqOrd κ] in
/-- Other values under the same keys. -/
def map (f : α → β) (es : Entries κ α) : Entries κ β :=
  ⟨es.toList.map (Prod.map id f), List.pairwise_map.2 es.ascending⟩

end Entries

/-- Insert a key into an ascending list, unless it is there. -/
def insertKey {κ : Type} [Ord κ] (k : κ) : List κ → List κ
  | [] => [k]
  | k' :: rest =>
    match compare k k' with
    | .lt => k :: k' :: rest
    | .eq => k' :: rest
    | .gt => k' :: insertKey k rest

end GradedReading
