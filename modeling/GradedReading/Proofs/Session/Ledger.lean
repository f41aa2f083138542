import GradedReading.Proofs.Pipeline.Harvest
import GradedReading.Proofs.Session.Forward

/-!
# GradedReading.Proofs.Session.Ledger

Which operations of a session belong to the same search.

**Key idea:** a session has a cursor and a collection and does not know where either came from. The
*ledger* of a run does: it notes for each launch the search that the operation begins or continues,
and which search the cursor belongs to that the session took over last. What a session ought to show
of a search can then be said: the documents of the completed operations that belong to it.

Nothing in a session depends on its ledger.
-/

namespace GradedReading

open Search

namespace Pipeline

/-- What an operation brought in, if it completed. -/
def completion? (n : Nat) (p : Pipeline) : Option Collection :=
  match (p.job? n).bind (·.outcome) with
  | some (.completed c _) => some c
  | _ => none

variable {sv : Services} {p p' : Pipeline} {n : Nat}

theorem completion?_eq_some {c : Collection} : p.completion? n = some c ↔
    ∃ j k, p.job? n = some j ∧ j.outcome = some (.completed c k) := by
  unfold completion?
  rcases p.job? n with _ | j
  · simp
  · rcases hout : j.outcome with _ | _ | _ | _ <;> simp [hout]

/-- What completed is over. -/
theorem Fine.isOver_of_completion? (h : p.Fine sv) {c : Collection}
    (hc : p.completion? n = some c) : p.isOver n = true := by
  obtain ⟨j, k, hj, hout⟩ := completion?_eq_some.1 hc
  rw [isOver_eq, hj, Option.any_some]
  rcases h.ending hj with hway | ⟨o, hend⟩
  · simp [hway.outcome] at hout
  · exact hend.isTerminal

/-- What is over neither completes any more nor becomes incomplete. -/
theorem Fine.completion?_reaches (h : p.Fine sv) (hp : Reaches sv p p')
    (hover : p.isOver n = true) : p'.completion? n = p.completion? n := by
  rw [isOver_eq] at hover
  obtain ⟨j, hj, hterminal⟩ := (Option.any_eq_true ..).1 hover
  obtain ⟨ops, hops⟩ := h.job?_reaches hp hj
  rw [completion?, completion?, hops, hj, Job.applyAll_of_isTerminal hterminal]
  rfl

end Pipeline

/-! ### Ledgers -/

/-- What is noted of one operation that was launched. -/
structure Launch where
  operation : Nat
  /-- The search that the operation begins or continues, if it does either. A search goes by the
  number of the operation that began it. -/
  search : Option Nat
  /-- What is searched for. -/
  query : Option Query
  /-- There were no documents at the time. -/
  blank : Bool
deriving DecidableEq, Repr

/-- What is noted of a run. -/
structure Ledger where
  launches : List Launch
  /-- The search whose cursor the session took over last. -/
  continued : Option Nat
deriving DecidableEq, Repr

namespace Launch

/-- The search that an operation belongs to. -/
def search? (n : Nat) (xs : List Launch) : Option Nat :=
  (xs.find? (·.operation == n)).bind (·.search)

/-- The documents of the completed operations of a search, in the order of the operations. -/
def documents (r : Nat) (p : Pipeline) (xs : List Launch) : List Document :=
  (xs.filter (·.search == some r)).flatMap fun x =>
    ((p.completion? x.operation).map (·.documents)).getD []

/-- The search was begun by an operation. -/
def Begun (r : Nat) (xs : List Launch) : Prop := ∃ x ∈ xs, x.operation = r ∧ x.search = some r

/-- What a session shows can be due to a search: the operation that began it completed, or there
were no documents when it was launched. -/
def Stands (r : Nat) (p : Pipeline) (xs : List Launch) : Prop :=
  ∃ x ∈ xs, x.operation = r ∧ (x.blank = true ∨ (p.completion? x.operation).isSome = true)

end Launch

namespace Ledger

/-- Nothing was launched. -/
def empty : Ledger := ⟨[], none⟩

end Ledger

namespace Session

/-- The search that an operation begins or continues if it is launched in an act. -/
def Act.search? (n : Nat) (continued : Option Nat) : Act → Option Nat
  | .search .. => some n
  | .more .. => continued
  | _ => none

/-- What an operation searches for if it is launched in an act. -/
def Act.query? (s : Session) : Act → Option Query
  | .search q .. => some q
  | .more .. => s.stash.cursor.map (·.query)
  | _ => none

/-- Between two states of a session the cursor of the current operation was taken over. -/
def handsOver (s s' : Session) : Bool :=
  s.active.any fun n =>
    match s.pipeline.place? n, s'.pipeline.place? n with
    | some (.here _), some .gone => true
    | _, _ => false

end Session

namespace Ledger

/-- What is noted of the cursor. -/
def taken (s s' : Session) (l : Ledger) : Ledger :=
  if s.handsOver s' then { l with continued := s.active.bind fun n => Launch.search? n l.launches }
  else l

/-- One more launch is noted. -/
def noting (x : Launch) (l : Ledger) : Ledger := { l with launches := l.launches ++ [x] }

/-- What is noted of one act. -/
def after (s : Session) (a : Session.Act) (s' : Session) (l : Ledger) : Ledger :=
  let l := l.taken s s'
  let launch := fun n =>
    { operation := n, search := a.search? n l.continued, query := a.query? s
      blank := s.collection.isNone }
  { l with launches := l.launches ++ (s'.launched.drop s.launched.length).map launch }

end Ledger

/-- What is noted of a run. -/
def Session.ledger (sv : Services) : Session → Ledger → List Session.Act → Ledger
  | _, l, [] => l
  | s, l, a :: acts =>
    match s.act? sv a with
    | some s' => s'.ledger sv (l.after s a s') acts
    | none => l

/-! ### What stays as it is noted -/

namespace Launch

variable {p p' : Pipeline} {r : Nat} {x : Launch} {xs : List Launch}

theorem documents_concat (r : Nat) (p : Pipeline) (xs : List Launch) (x : Launch) :
    documents r p (xs ++ [x]) = documents r p xs ++ if x.search = some r then
      ((p.completion? x.operation).map (·.documents)).getD [] else [] := by
  unfold documents
  by_cases hx : x.search = some r <;> simp [List.filter_append, hx]

/-- An operation of another search brings nothing in. -/
theorem documents_concat_of_ne (hx : x.search ≠ some r) (p : Pipeline) (xs : List Launch) :
    documents r p (xs ++ [x]) = documents r p xs := by
  rw [documents_concat, if_neg hx, List.append_nil]

theorem documents_eq_nil (h : ∀ x ∈ xs, x.search ≠ some r) (p : Pipeline) :
    documents r p xs = [] := by
  have hnone : xs.filter (·.search == some r) = [] :=
    List.filter_eq_nil_iff.2 fun x hx => by simpa using h x hx
  rw [documents, hnone, List.flatMap_nil]

section Congr

variable (h : ∀ x ∈ xs, p'.completion? x.operation = p.completion? x.operation)
include h

theorem documents_congr (r : Nat) : documents r p' xs = documents r p xs := by
  refine List.flatMap_congr fun x hx => ?_
  rw [h x (List.mem_of_mem_filter hx)]

theorem stands_congr (r : Nat) : Stands r p' xs ↔ Stands r p xs := by
  refine exists_congr fun x => and_congr_right fun hx => ?_
  rw [h x hx]

end Congr

/-- The launch of an operation is the only one. -/
theorem search?_concat (hxs : ∀ y ∈ xs, y.operation ≠ x.operation) :
    search? x.operation (xs ++ [x]) = x.search := by
  have hnone : xs.find? (·.operation == x.operation) = none :=
    List.find?_eq_none.2 fun y hy => by simpa using hxs y hy
  simp [search?, hnone]

theorem Begun.concat (h : Begun r xs) (x : Launch) : Begun r (xs ++ [x]) := by
  obtain ⟨y, hy, hbegun⟩ := h
  exact ⟨y, List.mem_append_left _ hy, hbegun⟩

/-- A search that stands and was not begun by the last launch stood before. -/
theorem Stands.of_concat (h : Stands r p (xs ++ [x])) : Stands r p xs ∨
    x.operation = r ∧ (x.blank = true ∨ (p.completion? x.operation).isSome = true) := by
  obtain ⟨y, hy, hop, hstands⟩ := h
  rcases List.mem_append.1 hy with hold | hnew
  · exact .inl ⟨y, hold, hop, hstands⟩
  · obtain rfl := List.mem_singleton.1 hnew
    exact .inr ⟨hop, hstands⟩

end Launch

/-! ### What a session shows -/

/-- A client sees these documents of one language. -/
def Shows (l : Language) (ds : List Document) : Option Collection → Prop
  | none => ds = []
  | some kept => kept.documents = ds ∧ kept.language = l

/-- What a completed operation of the same language adds is there. -/
theorem Shows.merged {l : Language} {ds : List Document} {base : Option Collection}
    (h : Shows l ds base) {c : Collection} (hc : Job.InLanguage l c) :
    Shows l (ds ++ c.documents) (some (Session.merged base c)) := by
  cases base with
  | none =>
      obtain rfl : ds = [] := h
      exact ⟨rfl, hc.1⟩
  | some b =>
      obtain ⟨rfl, rfl⟩ := h
      refine ⟨?_, rfl⟩
      -- no document is dropped, since all have the language
      have hall : c.documents.filter (·.language = b.language) = c.documents :=
        List.filter_eq_self.2 fun d hd => by simpa using hc.2 d hd
      simp [Session.merged, Collection.addAll, hall]

/-- Whoever continues the search with this cursor adds to its documents. -/
structure Ready (xs : List Launch) (p : Pipeline) (r : Nat) (c : Cursor)
    (collection : Option Collection) : Prop where
  begun : Launch.Begun r xs
  about : ∀ x ∈ xs, x.search = some r → x.query = some c.query
  ranks : ((Launch.documents r p xs).map (·.rank)).Nodup
  below : ∀ d ∈ Launch.documents r p xs, d.rank < c.nextRank
  shown : Launch.Stands r p xs → Shows c.query.language (Launch.documents r p xs) collection

theorem Ready.congr {xs : List Launch} {p p' : Pipeline} {r : Nat} {c : Cursor}
    {collection : Option Collection} (h : Ready xs p r c collection)
    (hsame : ∀ x ∈ xs, p'.completion? x.operation = p.completion? x.operation) :
    Ready xs p' r c collection where
  begun := h.begun
  about := h.about
  ranks := Launch.documents_congr hsame r ▸ h.ranks
  below := Launch.documents_congr hsame r ▸ h.below
  shown hstands := by
    rw [Launch.documents_congr hsame r]
    exact h.shown ((Launch.stands_congr hsame r).1 hstands)

/-- What another operation has done since does not matter to a search that it does not belong to. -/
theorem Ready.concat {x : Launch} {xs : List Launch} {p : Pipeline} {r : Nat} {c : Cursor}
    {collection : Option Collection} (h : Ready xs p r c collection) (hx : x.search ≠ some r)
    (hop : x.operation ≠ r) : Ready (xs ++ [x]) p r c collection where
  begun := h.begun.concat x
  about y hy hr := by
    rcases List.mem_append.1 hy with hold | hnew
    · exact h.about y hold hr
    · rw [List.mem_singleton.1 hnew] at hr
      exact absurd hr hx
  ranks := (Launch.documents_concat_of_ne hx p xs).symm ▸ h.ranks
  below := (Launch.documents_concat_of_ne hx p xs).symm ▸ h.below
  shown hstands := by
    rw [Launch.documents_concat_of_ne hx]
    exact h.shown (hstands.of_concat.resolve_right fun hroot => hop hroot.1)

end GradedReading
