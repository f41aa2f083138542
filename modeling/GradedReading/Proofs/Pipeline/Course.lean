import GradedReading.Pipeline.Basic
import GradedReading.Proofs.Job.Slots
import GradedReading.Proofs.Pipeline.Agenda
import GradedReading.Proofs.Search.Ranks

/-!
# GradedReading.Proofs.Pipeline.Course

One operation of a pipeline, seen alone.

**Key idea:** of all that happens in a pipeline, an operation notices six kinds of things: it is
begun, it is cancelled, a script tells its job something, a script hands a task to a pool, which
accepts or refuses it, and a task is settled. Everything else, such as what happens to other
operations, leaves its *course* as it is. So a statement about an operation is proved once for these
six steps, whatever the pools, the clock and the other operations do.

Design points:

* a task may be settled at any time and with any failure, as a worker, the watchdog or a shutdown
  sees fit;
* a task is discarded only if the job's flag is set;
* what a task gives when it succeeds is what its service may give, and nothing else is known of it.
-/

namespace GradedReading

open Search Instr

/-- A parser of the factory made this document of this source. -/
def Services.Gives (sv : Services) (source : Source) (d : Document) : Prop :=
  ∃ l engine calls fresh keywords, sv.parsers.create l = .ok engine ∧
    engine.parse calls source = .value fresh ∧ Pipeline.complete keywords fresh = .completed d

/-- Every parser of the factory gives a document the rank of its source. -/
def Parser.Factory.KeepsRanks (factory : Parser.Factory) : Prop :=
  ∀ l engine, factory.create l = .ok engine →
    ∀ calls source d, engine.parse calls source = .value d → d.rank = source.rank

theorem rank_of_complete {keywords : KeywordSet} {d d' : Document}
    (h : Pipeline.complete keywords d = .completed d') : d'.rank = d.rank := by
  unfold Pipeline.complete at h
  split at h
  · simp at h
  · next marked hmark =>
    -- neither the mark nor the hits change the source
    have hrank : marked.rank = d.rank := by
      unfold Document.markParsed at hmark
      split at hmark
      · simp at hmark
      · obtain rfl : _ = marked := by simpa using hmark
        rfl
    obtain rfl : _ = d' := by simpa using h
    rw [← hrank]
    split <;> rfl

theorem Services.Gives.rank_eq {sv : Services} (hkeep : sv.parsers.KeepsRanks) {source : Source}
    {d : Document} (h : sv.Gives source d) : d.rank = source.rank := by
  obtain ⟨l, engine, calls, fresh, keywords, hcreate, hparse, hcomplete⟩ := h
  rw [rank_of_complete hcomplete, hkeep l engine hcreate calls source fresh hparse]

/-- What a task of a stage may give. -/
def Stage.Yields (sv : Services) : (s : Stage) → s.Task → s.Yield → Prop
  | .search, _, rs => ∃ first, RanksFrom first rs
  | .crawl, _, _ => True
  | .parse, t, d => sv.Gives t.source d

theorem Stage.yields_fresh {sv : Services} {s : Stage} {t : s.Task} {y : s.Yield}
    (h : s.Yields sv t y) : s.Yields sv (s.fresh t) y := by cases s <;> exact h

/-- The results in the outcome of a search. -/
def Stage.found : (s : Stage) → TaskOutcome s.Yield → Multiset SearchResult
  | .search, .completed rs => ↑rs
  | _, _ => 0

/-- The document in the outcome of a parse, with its source. -/
def Stage.given : (s : Stage) → s.Task → TaskOutcome s.Yield → Multiset (Source × Document)
  | .parse, t, .completed d => {(t.source, d)}
  | _, _, _ => 0

@[simp] theorem Stage.given_fresh (s : Stage) (t : s.Task) (o : TaskOutcome s.Yield) :
    s.given (s.fresh t) o = s.given t o := by cases s <;> cases o <;> rfl

@[simp] theorem Instr.after_fresh (s : Stage) (t : s.Task) (o : TaskOutcome s.Yield) :
    after s (s.fresh t) o = after s t o := by cases s <;> rfl

/-- An operation, seen alone. -/
structure Course where
  job : Job
  begun : Bool
  /-- The sources, if they were given rather than searched for. -/
  sources? : Option (List Source)
  /-- What is under way. -/
  agenda : Multiset (List Instr)
  /-- What the searches found. -/
  found : Multiset SearchResult
  /-- What the parses gave, each document with its source. -/
  given : Multiset (Source × Document)

namespace Course

/-- The script that begins the operation with this number. -/
def script (n : Nat) (c : Course) : List Instr :=
  match c.sources? with
  | none => beginSearch n
  | some sources => beginParses n sources

/-- The operation was just added. -/
structure IsNew (c : Course) : Prop where
  job : ∃ kind l, c.job = .create kind l
  begun : c.begun = false
  agenda : c.agenda = 0
  found : c.found = 0
  given : c.given = 0

/-- One thing that happens to the operation with this number. -/
inductive Step (sv : Services) (n : Nat) : Course → Course → Prop
  | begin {c : Course} (h : c.begun = false) :
      Step sv n c { c with begun := true, agenda := entry (c.script n) + c.agenda }
  | cancel (c : Course) : Step sv n c { c with job := (c.job.apply .cancel).2 }
  /-- A script tells the job something, and ends if the job has to be live and is not. -/
  | tell {c : Course} {i : Instr} {op : Job.Op} {rest rest' : List Instr}
      {others : Multiset (List Instr)} (h : c.agenda = (i :: rest) ::ₘ others)
      (hop : i.op? = some op) (hrest : rest' = rest ∨ rest' = [] ∧ (c.job.apply op).1 = false) :
      Step sv n c { c with job := (c.job.apply op).2, agenda := entry rest' + others }
  | accept {c : Course} {s : Stage} {t : s.Task} {rest : List Instr}
      {others : Multiset (List Instr)} (h : c.agenda = (submit s t :: rest) ::ₘ others) :
      Step sv n c { c with agenda := [submit s (s.fresh t)] ::ₘ (entry rest + others) }
  | refuse {c : Course} {s : Stage} {t : s.Task} {rest : List Instr}
      {others : Multiset (List Instr)} (h : c.agenda = (submit s t :: rest) ::ₘ others)
      (e : TaskError) : Step sv n c { c with agenda := (refused s t e :: rest) ::ₘ others }
  | settle {c : Course} {s : Stage} {t : s.Task} {others : Multiset (List Instr)}
      (h : c.agenda = [submit s t] ::ₘ others) (o : TaskOutcome s.Yield)
      (hdiscard : o = .discarded → c.job.flag = true)
      (hyield : ∀ y, o = .completed y → s.Yields sv t y) :
      Step sv n c { c with
        agenda := entry (after s t o) + others
        found := s.found o + c.found
        given := s.given t o + c.given }

/-! ### What every step keeps -/

/-- The scripts are orderly, the books of the job agree with each other, and nothing is under way
before the operation is begun. -/
structure Tidy (c : Course) : Prop where
  orderly : ∀ e ∈ c.agenda, Orderly e
  ending : c.job.UnderWay ∨ ∃ o, Job.Ended o c.job
  accounted : c.job.Accounted
  documents : c.job.documents = c.job.collection.documents
  idle : c.begun = false →
    c.agenda = 0 ∧ c.found = 0 ∧ c.given = 0 ∧ c.job.fanOutDone = false

theorem IsNew.tidy {c : Course} (h : c.IsNew) : c.Tidy := by
  obtain ⟨kind, l, hjob⟩ := h.job
  refine ⟨by simp [h.agenda], ?_, ?_, ?_, fun _ => ⟨h.agenda, h.found, h.given, ?_⟩⟩
  · rw [hjob]
    exact Or.inl (Job.underWay_create kind l)
  · rw [hjob]
    exact Job.accounted_create kind l
  · rw [hjob]
    rfl
  · rw [hjob]
    rfl

theorem orderly_script (n : Nat) (c : Course) : Orderly (c.script n) := by
  unfold script
  split
  · exact orderly_beginSearch n
  · exact orderly_beginParses n _

/-- What is on the agenda keeps the operation from being new. -/
theorem Tidy.begun {c : Course} (h : c.Tidy) {e : List Instr} {others : Multiset (List Instr)}
    (he : c.agenda = e ::ₘ others) : c.begun = true := by
  -- before it is begun there is nothing on the agenda
  rcases hbegun : c.begun with _ | _
  · have hempty := (h.idle hbegun).1
    simp [he] at hempty
  · rfl

/-- Whatever a script is about to tell the job is proper. -/
theorem Tidy.isProper {c : Course} (h : c.Tidy) {i : Instr} {rest : List Instr}
    {others : Multiset (List Instr)} (he : c.agenda = (i :: rest) ::ₘ others) : i.IsProper := by
  have hscript : Orderly (i :: rest) := h.orderly _ (he ▸ Multiset.mem_cons_self ..)
  exact hscript.1

/-- A script does not end early while the job is live. -/
theorem Tidy.rest_eq {c : Course} (h : c.Tidy) (hlive : c.job.isLive = true) {op : Job.Op}
    {rest rest' : List Instr}
    (hrest : rest' = rest ∨ rest' = [] ∧ (c.job.apply op).1 = false) : rest' = rest := by
  refine hrest.resolve_right fun hearly => ?_
  rw [h.accounted.answer_eq, hlive] at hearly
  exact Bool.noConfusion hearly.2

/-- Telling the job something proper leaves its books in agreement. -/
theorem Tidy.apply {c : Course} (h : c.Tidy) (op : Job.Op) (hord : op.isOrdinary = true)
    (he : ∀ e, op = .announce e → ∃ sources, e = .begins sources) :
    ((c.job.apply op).2.UnderWay ∨ ∃ o, Job.Ended o (c.job.apply op).2) ∧
    (c.job.apply op).2.Accounted ∧
    (c.job.apply op).2.documents = (c.job.apply op).2.collection.documents := by
  have hd : ∀ d, op ≠ .announce (.parsed d) := fun d hop => by simpa using he _ hop
  refine ⟨?_, h.accounted.apply op, Job.documents_apply h.documents h.accounted hd⟩
  rcases h.ending with hway | ⟨o, hend⟩
  · exact hway.apply hord
  · exact Or.inr ⟨o, hend.apply op⟩

/-- Another agenda of orderly scripts is as good, once the operation is begun. -/
theorem Tidy.of_agenda {c : Course} (h : c.Tidy) (hbegun : c.begun = true)
    {agenda : Multiset (List Instr)} (hagenda : ∀ e ∈ agenda, Orderly e)
    (found : Multiset SearchResult) (given : Multiset (Source × Document)) :
    ({ c with agenda, found, given } : Course).Tidy where
  orderly := hagenda
  ending := h.ending
  accounted := h.accounted
  documents := h.documents
  idle hnot := absurd hnot (by simp [hbegun])

theorem orderly_entry_add {script : List Instr} {others : Multiset (List Instr)}
    (hs : Orderly script) (ho : ∀ e ∈ others, Orderly e) :
    ∀ e ∈ entry script + others, Orderly e := by
  intro e he
  rcases Multiset.mem_add.1 he with hnew | hold
  · rw [mem_entry hnew]
    exact hs
  · exact ho e hold

theorem Tidy.step {sv : Services} {n : Nat} {c c' : Course} (h : c.Tidy) (hstep : Step sv n c c') :
    c'.Tidy := by
  cases hstep with
  | begin hnot =>
      refine ⟨orderly_entry_add (orderly_script n c) h.orderly, h.ending, h.accounted, h.documents,
        fun hn => absurd hn (by simp)⟩
  | cancel =>
      obtain ⟨hending, haccounted, hdocuments⟩ := h.apply .cancel rfl (by simp)
      refine ⟨h.orderly, hending, haccounted, hdocuments, fun hnot => ?_⟩
      obtain ⟨hagenda, hfound, hgiven, hdone⟩ := h.idle hnot
      -- cancelling does not say that the fan-out is done
      refine ⟨hagenda, hfound, hgiven, ?_⟩
      have hiff := Job.fanOutDone_apply c.job .cancel
      simpa [hdone] using hiff
  | @tell i op rest rest' others he hop hrest =>
      have hall : ∀ e ∈ (i :: rest) ::ₘ others, Orderly e := he ▸ h.orderly
      obtain ⟨hproper, -, horderly⟩ := hall _ (Multiset.mem_cons_self ..)
      obtain ⟨hending, haccounted, hdocuments⟩ :=
        h.apply op (hproper op hop).1 (hproper op hop).2
      have hrest' : Orderly rest' := by
        rcases hrest with rfl | ⟨rfl, -⟩
        · exact horderly
        · trivial
      have hothers : ∀ e ∈ others, Orderly e := fun e hmem => hall e (Multiset.mem_cons_of_mem hmem)
      refine ⟨orderly_entry_add hrest' hothers, hending, haccounted, hdocuments,
        fun hnot => absurd hnot ?_⟩
      simp [h.begun he]
  | @accept s t rest others he =>
      have hall : ∀ e ∈ (submit s t :: rest) ::ₘ others, Orderly e := he ▸ h.orderly
      obtain ⟨-, -, horderly⟩ := hall _ (Multiset.mem_cons_self ..)
      refine h.of_agenda (h.begun he) (fun e hmem => ?_) c.found c.given
      rcases Multiset.mem_cons.1 hmem with rfl | hold
      · exact orderly_submit s (s.fresh t)
      · exact orderly_entry_add horderly
          (fun e hmem => hall e (Multiset.mem_cons_of_mem hmem)) e hold
  | @refuse s t rest others he err =>
      have hall : ∀ e ∈ (submit s t :: rest) ::ₘ others, Orderly e := he ▸ h.orderly
      have hhead := hall _ (Multiset.mem_cons_self ..)
      refine h.of_agenda (h.begun he) (fun e hmem => ?_) c.found c.given
      rcases Multiset.mem_cons.1 hmem with rfl | hold
      · exact hhead.refused err
      · exact hall e (Multiset.mem_cons_of_mem hold)
  | @settle s t others he o =>
      have hall : ∀ e ∈ [submit s t] ::ₘ others, Orderly e := he ▸ h.orderly
      exact h.of_agenda (h.begun he) (orderly_entry_add (orderly_after s t o) fun e hmem =>
        hall e (Multiset.mem_cons_of_mem hmem)) _ _

end Course

end GradedReading
