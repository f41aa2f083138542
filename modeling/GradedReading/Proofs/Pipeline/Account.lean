import GradedReading.Proofs.Pipeline.Order
import GradedReading.Proofs.Pipeline.Reach

/-!
# GradedReading.Proofs.Pipeline.Account

What an operation reports adds up, whatever happens to its pipeline.

**Key idea:** `Counted` says how much was reported and `Precedes` in which order. Both are kept by
every step of a course, so they hold of every operation after any run. What is left is to read them
off for a job whose completion was reported: then nothing is left to count, and everything that was
found or given is accounted for.
-/

namespace GradedReading

open Search Instr

namespace Job

theorem extracted_sublist_fetched (j : Job) : j.extracted.Sublist j.fetched := by
  unfold extracted fetched
  induction j.events with
  | nil => exact List.Sublist.slnil
  | cons e events ih =>
      cases e with
      | crawled r extracted =>
          cases extracted with
          | true => exact ih.cons_cons r
          | false => exact ih.cons r
      | _ => exact ih

theorem mem_fetched {j : Job} {r : SearchResult} {extracted : Bool}
    (h : .crawled r extracted ∈ j.events) : r ∈ j.fetched :=
  List.mem_filterMap.2 ⟨_, h, rfl⟩

/-- A job that reported its completion ended with it. -/
theorem outcome_of_completed_mem {j : Job} (h : j.UnderWay ∨ ∃ o, Ended o j) {c : Collection}
    {k : Nat} (hmem : .completed c k ∈ j.events) : j.outcome = some (.completed c k) := by
  rcases h with hway | ⟨o, hend⟩
  · simpa [JobEvent.isTerminal] using hway.events _ hmem
  · obtain ⟨earlier, hevents, hearlier⟩ := hend.events
    rw [hevents, List.mem_append, List.mem_singleton] at hmem
    rcases hmem with hbefore | hlast
    · simpa [JobEvent.isTerminal] using hearlier _ hbefore
    · rw [hend.outcome]
      cases o <;> simp_all [JobOutcome.event]

end Job

/-! ### Accounts -/

/-- What the job of a search reports about the results that were found. -/
structure SearchAccount (found : List SearchResult) (j : Job) : Prop where
  /-- Results are told apart by their ranks. -/
  ranks : (found.map (·.rank)).Nodup
  /-- Each result is reported as fetched at most once. -/
  fetched : j.fetched.Subperm found
  /-- No two documents are of the same result. -/
  documents : (j.documents.map (·.rank)).Nodup
  /-- A document is reported after its result was reported to have text. -/
  precedes : ∀ before d later, j.events = before ++ .parsed d :: later →
    ∃ r ∈ found, .crawled r true ∈ before ∧ r.rank = d.rank
  /-- On completion each result was reported once, and gave a document or counts as a failure. -/
  completed : ∀ c k, .completed c k ∈ j.events →
    j.fetched.Perm found ∧ j.documents = c.documents ∧ c.size + k = found.length

/-- What the job of a parse reports about the sources that it was given. -/
structure ParseAccount (sv : Services) (sources : List Source) (j : Job) : Prop where
  /-- Nothing is reported as fetched. -/
  fetched : j.fetched = []
  /-- Each source gives at most one document. -/
  documents : ∃ parsed : List (Source × Document), (parsed.map Prod.snd).Perm j.documents ∧
    (parsed.map Prod.fst).Subperm sources ∧
    ∀ x ∈ parsed, sv.Gives x.1 x.2 ∧ x.2.rank = x.1.rank
  /-- A document is reported after all the sources. -/
  precedes : ∀ before d later, j.events = before ++ .parsed d :: later →
    .begins (sources.map (·.toSourceInfo)) ∈ before
  /-- On completion each source gave a document or counts as a failure. -/
  completed : ∀ c k, .completed c k ∈ j.events →
    j.documents = c.documents ∧ c.size + k = sources.length

namespace Course

/-- Everything that the steps of a course keep. -/
structure Sound (sv : Services) (c : Course) : Prop where
  tidy : c.Tidy
  balanced : c.Balanced
  counted : c.Counted sv
  textFirst : c.sources? = none → c.TextFirst
  sourcesFirst : ∀ sources, c.sources? = some sources → c.SourcesFirst sources

variable {sv : Services} {n : Nat} {c c' : Course}

theorem IsNew.sound (h : c.IsNew) : c.Sound sv :=
  ⟨h.tidy, h.balanced, h.counted, fun _ => h.textFirst, fun sources _ => h.sourcesFirst sources⟩

theorem Sound.step (h : c.Sound sv) (hkeep : sv.parsers.KeepsRanks) (hstep : Step sv n c c') :
    c'.Sound sv where
  tidy := h.tidy.step hstep
  balanced := h.balanced.step h.tidy hstep
  counted := h.counted.step h.tidy h.balanced hstep
  textFirst hplan :=
    have hplan : c.sources? = none := hstep.sources?_eq ▸ hplan
    (h.textFirst hplan).step h.tidy h.counted hkeep hplan hstep
  sourcesFirst sources hplan :=
    have hplan : c.sources? = some sources := hstep.sources?_eq ▸ hplan
    (h.sourcesFirst sources hplan).step h.tidy h.counted hplan hstep

/-- A job that reported its completion has counted everything. -/
theorem Sound.of_completed (h : c.Sound sv) {d : Collection} {k : Nat}
    (hmem : .completed d k ∈ c.job.events) : ↑c.job.fetched = c.found ∧
      c.job.documents = d.documents ∧ c.begun = true ∧
      d.size + k = c.assigned.length + c.found.card := by
  have hout := Job.outcome_of_completed_mem h.tidy.ending hmem
  obtain ⟨-, hdone, -, rfl, rfl⟩ := h.tidy.accounted.completed d k hout
  obtain ⟨hslots, -⟩ := h.counted.clear _ _ hout
  have hintact : c.job.IsIntact := Or.inr ⟨_, _, hout⟩
  have hfetched := h.counted.fetched_eq hintact
  have hsettled := h.counted.settled_eq hintact
  rw [total_fetches_eq_zero h.tidy.orderly hslots, add_zero] at hfetched
  rw [hslots, add_zero] at hsettled
  refine ⟨hfetched, h.tidy.documents, ?_, hsettled⟩
  rcases hbegun : c.begun with _ | _
  · simp [(h.tidy.idle hbegun).2.2.2] at hdone
  · rfl

theorem Counted.fetched_le_found (h : c.Counted sv) : ↑c.job.fetched ≤ c.found :=
  le_trans (le_add_of_nonneg_right zero_le) h.fetched_le

theorem Sound.searchAccount (h : c.Sound sv) (hplan : c.sources? = none)
    {found : List SearchResult} (hfound : c.found = ↑found) : SearchAccount found c.job := by
  have htext := h.textFirst hplan
  have hfetched : c.job.fetched.Subperm found :=
    Multiset.coe_le.1 (hfound ▸ h.counted.fetched_le_found)
  have hranks : (found.map (·.rank)).Nodup := by
    have hnodup := h.counted.ranks
    rw [hfound] at hnodup
    exact Multiset.coe_nodup.1 hnodup
  refine ⟨hranks, hfetched, ?_, ?_, ?_⟩
  · -- documents are of results with text, and those were found
    have hextracted : c.job.extracted.Subperm found :=
      (c.job.extracted_sublist_fetched.subperm).trans hfetched
    have hle : (c.job.documents : Multiset Document).map (·.rank) ≤
        (found : Multiset SearchResult).map (·.rank) :=
      le_trans htext.documents_le (Multiset.map_le_map (Multiset.coe_le.2 hextracted))
    exact Multiset.coe_nodup.1 (Multiset.nodup_of_le hle (Multiset.coe_nodup.2 hranks))
  · intro before d later hsplit
    obtain ⟨r, hr, hrank⟩ := htext.precedes before d later hsplit
    have hevents : .crawled r true ∈ c.job.events := hsplit ▸ List.mem_append_left _ hr
    exact ⟨r, hfetched.subset (Job.mem_fetched hevents), hr, hrank⟩
  · intro d k hmem
    obtain ⟨hall, hdocuments, -, hsize⟩ := h.of_completed hmem
    have hassigned : c.assigned = [] := by simp [assigned, hplan]
    refine ⟨Multiset.coe_eq_coe.1 (hall.trans hfound), hdocuments, ?_⟩
    simpa [hassigned, hfound] using hsize

theorem Sound.parseAccount (h : c.Sound sv) (hkeep : sv.parsers.KeepsRanks)
    {sources : List Source} (hplan : c.sources? = some sources) :
    ParseAccount sv sources c.job := by
  have hfirst := h.sourcesFirst sources hplan
  refine ⟨?_, ?_, hfirst.precedes, ?_⟩
  · have hnone := h.counted.fetched_le_found
    rw [hfirst.found] at hnone
    exact (Multiset.coe_eq_zero _).1 (Multiset.le_zero.1 hnone)
  · obtain ⟨given, hgiven⟩ := Quot.exists_rep c.given
    have hgiven : ↑given = c.given := hgiven
    have hdocuments := le_trans (le_add_of_nonneg_right zero_le) h.counted.documents_le
    have hsources := le_trans (le_add_of_nonneg_right zero_le) hfirst.given_le
    rw [← hgiven, Multiset.map_coe, Multiset.coe_le] at hdocuments hsources
    -- the documents are those of some pairs, and the sources of these pairs were given
    obtain ⟨reported, hperm, hsub⟩ := hdocuments
    obtain ⟨parsed, hparsed, rfl⟩ := List.sublist_map_iff.1 hsub
    have hassigned : c.assigned.Subperm sources := by
      rcases hbegun : c.begun with _ | _ <;>
        simp [assigned, hbegun, hplan, List.nil_subperm, List.Subperm.refl]
    refine ⟨parsed, hperm, ?_, fun x hx => ?_⟩
    · exact (hparsed.map Prod.fst).subperm.trans (hsources.trans hassigned)
    · have hx : sv.Gives x.1 x.2 := h.counted.gives x (hgiven ▸ hparsed.subset hx)
      exact ⟨hx, hx.rank_eq hkeep⟩
  · intro d k hmem
    obtain ⟨-, hdocuments, hbegun, hsize⟩ := h.of_completed hmem
    refine ⟨hdocuments, ?_⟩
    simpa [assigned, hbegun, hplan, hfirst.found] using hsize

end Course

namespace Pipeline

/-- The results that a task found for an operation. -/
def foundBy (n : Nat) (t : PoolTask SearchTask (List SearchResult)) : List SearchResult :=
  match t.outcome with
  | some (.completed rs) => if t.task.operation = n then rs else []
  | _ => []

/-- The results that the search of an operation found. -/
def found (n : Nat) (p : Pipeline) : List SearchResult := p.pools.search.tasks.flatMap (foundBy n)

theorem found_task (n : Nat) (t : PoolTask SearchTask (List SearchResult)) :
    (t.share n .search).2.1 = ↑(foundBy n t) := by
  unfold PoolTask.share foundBy
  by_cases hop : t.task.operation = n
  · rcases t.outcome with _ | _ | _ | _ <;> simp [Stage.operationOf, hop, Stage.found]
  · rcases t.outcome with _ | _ | _ | _ <;> simp [Stage.operationOf, hop]

theorem found_tasks (n : Nat) (tasks : List (PoolTask SearchTask (List SearchResult))) :
    (tasks.map (PoolTask.share n .search)).sum.2.1 = ↑(tasks.flatMap (foundBy n)) := by
  induction tasks with
  | nil => rfl
  | cons t tasks ih =>
      rw [List.map_cons, List.sum_cons, List.flatMap_cons, ← Multiset.coe_add, ← ih, ← found_task]
      rfl

/-- Only a search finds something. -/
theorem found_pool (n : Nat) {s : Stage} (hs : s ≠ .search) (pool : Pool s.Task s.Yield) :
    (pool.share n s).2.1 = 0 := by
  refine sum_share_eq_zero foundPart fun t _ => ?_
  unfold PoolTask.share
  split
  · split
    · rfl
    · cases s with
      | search => exact absurd rfl hs
      | crawl | parse => rfl
  · rfl

theorem found_scripts (n : Nat) (scripts : List Script) :
    (scripts.map (Script.share n)).sum.2.1 = 0 := by
  refine sum_share_eq_zero foundPart fun x _ => ?_
  unfold Script.share
  split
  · rfl
  · split <;> rfl

/-- The results that were found are those in the share of the operation. -/
theorem found_share (n : Nat) (p : Pipeline) : (p.share n).2.1 = ↑(p.found n) := by
  have hcrawl := found_pool n (s := .crawl) (by simp) p.pools.crawl
  have hparse := found_pool n (s := .parse) (by simp) p.pools.parse
  have hsearch := found_tasks n p.pools.search.tasks
  rw [← found, ← Pool.share] at hsearch
  simp [share, Pools.share, found_scripts, hsearch, hcrawl, hparse]

/-- What an operation reports adds up. -/
def Accounts (sv : Services) (n : Nat) (p : Pipeline) (o : Operation) : Prop :=
  match o.plan with
  | .search .. => SearchAccount (p.found n) o.job
  | .parse sources => ParseAccount sv sources o.job

/-- **What an operation reports adds up.** Whatever calls and moves a pipeline went through, in any
order and with any services whose parsers keep ranks: a search reports each result once at most and
its document after it, a parse reports its sources before their documents, and an operation that
reports its completion has accounted for every result and every source. -/
theorem accounts_of_run (sv : Services) (hkeep : sv.parsers.KeepsRanks) (settings : Settings)
    (acts : List Act) {p : Pipeline} (hrun : (ofSettings settings).run? sv acts = some p) {n : Nat}
    {o : Operation} (ho : p.operations[n]? = some o) : p.Accounts sv n o := by
  obtain ⟨-, hall⟩ : p.Sound sv False ∧ ∀ n c, p.course? n = some c → c.Sound sv :=
    courses_reachable (fun _ _ h => h.sound) (fun _ _ _ hstep h => h.step hkeep hstep)
      (fun h => h.elim) hrun
  have hsound := hall n _ (course?_of_eq ho rfl)
  unfold Accounts
  split
  · next place target hplan =>
    exact hsound.searchAccount (by simp [Course.of, Operation.sources?, hplan]) (found_share n p)
  · next sources hplan =>
    exact hsound.parseAccount hkeep (by simp [Course.of, Operation.sources?, hplan])

/-- Services that find two results, of which the second has no page. -/
def fruitful : Services where
  provider := ⟨fun _ _ _ => .value ⟨[{ (default : SearchResult) with url := "a" }, default], true⟩⟩
  crawler := ⟨fun calls _ => if calls = 0 then .value ⟨"a", "", "Haus"⟩ else .panic "no page"⟩
  parsers :=
    { supports := fun _ => true
      create := fun l => .ok ⟨fun _ source => .value (.fresh source l default default)⟩ }
  blocked := .empty
  waits := .none

theorem keepsRanks_fruitful : fruitful.parsers.KeepsRanks := by
  intro l engine hcreate calls source d hd
  obtain rfl := Except.ok.inj hcreate
  obtain rfl := Reply.value.inj hd
  rfl

/-- The first script goes on, so many times. -/
def advances (n : Nat) : List Act := List.replicate n (.move (.advance 0))

/-- A worker takes a task, goes through its body in so many steps, settles it and follows it up. -/
def serves (s : Stage) (i steps follows : Nat) : List Act :=
  [.move (.take s), .move (.look s i), .move (.start s i)] ++
    List.replicate steps (.move (.body s i)) ++ [.move (.settle s i)] ++ advances follows ++
    [.move (.letGo s i)]

/-- A search and a parse that take turns. -/
def sideBySide : List Act :=
  [.call (.search ⟨.german, "Haus", false⟩ 2 default), .call (.begin 0)] ++ advances 2 ++
    [.call (.parse .german [{ (default : Source) with text := "Haus" }] default),
      .call (.begin 1)] ++
    advances 5 ++ serves .search 0 3 5 ++ serves .crawl 0 1 3 ++ serves .parse 0 3 1 ++
    serves .crawl 1 1 1 ++ serves .parse 1 3 1

/-- Both are complete in the end. -/
theorem accounts_sideBySide : fruitful.parsers.KeepsRanks ∧
    ∃ p a b, (ofSettings (.standard 1)).run? fruitful sideBySide = some p ∧
      p.operations[0]? = some a ∧ a.job.state = .complete ∧ p.Accounts fruitful 0 a ∧
      p.operations[1]? = some b ∧ b.job.state = .complete ∧ p.Accounts fruitful 1 b := by
  have hend : ((ofSettings (.standard 1)).run? fruitful sideBySide).any (fun p =>
      p.operations[0]?.any (fun o => decide (o.job.state = .complete)) &&
        p.operations[1]?.any (fun o => decide (o.job.state = .complete))) = true := by
    decide +kernel
  obtain ⟨p, hrun, hp⟩ := (Option.any_eq_true ..).1 hend
  obtain ⟨hfirst, hsecond⟩ := Bool.and_eq_true_iff.1 hp
  obtain ⟨a, ha, hacomplete⟩ := (Option.any_eq_true ..).1 hfirst
  obtain ⟨b, hb, hbcomplete⟩ := (Option.any_eq_true ..).1 hsecond
  exact ⟨keepsRanks_fruitful, p, a, b, hrun, ha, of_decide_eq_true hacomplete,
    accounts_of_run fruitful keepsRanks_fruitful _ _ hrun ha, hb, of_decide_eq_true hbcomplete,
    accounts_of_run fruitful keepsRanks_fruitful _ _ hrun hb⟩

end Pipeline

end GradedReading
