import GradedReading.Proofs.Pipeline.Counts

/-!
# GradedReading.Proofs.Pipeline.Order

What an operation has reported before it reports a document.

**Key idea:** a document is reported once it was parsed, and what is parsed was on the agenda as a
source. So the sources that were parsed or are to be parsed have to be compared with what was
reported before: with the results that have text in an operation that searches, and with the sources
that it was begun with in one that was given them.

Both comparisons hold while the job is live, which is as long as it reports anything.
-/

namespace GradedReading

open Search Instr

/-! ### Before each document -/

/-- Whenever a document is reported, what was reported before meets a condition. -/
def Precedes (P : List JobEvent → Document → Prop) (events : List JobEvent) : Prop :=
  ∀ before d later, events = before ++ .parsed d :: later → P before d

section Precedes

variable {P : List JobEvent → Document → Prop}

theorem precedes_nil : Precedes P [] := by
  intro before d later h
  simp at h

theorem Precedes.append {events new : List JobEvent} (h : Precedes P events)
    (hnew : ∀ before d later, new = before ++ .parsed d :: later → P (events ++ before) d) :
    Precedes P (events ++ new) := by
  intro before d later hsplit
  -- the document is among the new events or among the old ones
  rcases List.append_eq_append_iff.1 hsplit with ⟨gap, rfl, hgap⟩ | ⟨gap, hevents, hgap⟩
  · exact hnew gap d later hgap
  · cases gap with
    | nil =>
        have hd := hnew [] d later (by simpa using hgap.symm)
        simpa [hevents] using hd
    | cons e gap =>
        obtain ⟨rfl, -⟩ : JobEvent.parsed d = e ∧ later = gap ++ new := by simpa using hgap
        exact h before d gap hevents

/-- The condition is asked for when a job takes a document. -/
theorem Precedes.apply {j : Job} (h : Precedes P j.events) (hacc : j.Accounted) {op : Job.Op}
    (hproper : ∀ e, op = .announce e → ∃ sources, e = .begins sources)
    (hd : ∀ d, j.isLive = true → op = .parseComplete d → P j.events d) :
    Precedes P (j.apply op).2.events := by
  rcases hlive : j.isLive with _ | _
  · rw [(Job.apply_of_isTerminal (hacc.isTerminal hlive) op).2]
    exact h
  obtain ⟨o, hevents⟩ := Job.events_apply hlive op
  rw [hevents]
  refine Precedes.append (h.append fun before d later hsplit => ?_) fun before d later hsplit => ?_
  · -- an operation reports one event
    have hone : before = [] ∧ op = .parseComplete d := by
      cases op with
      | announce e =>
          obtain ⟨sources, rfl⟩ := hproper e rfl
          simp [Job.Op.reports, List.singleton_eq_append_iff] at hsplit
      | crawlComplete r extracted =>
          simp [Job.Op.reports, List.singleton_eq_append_iff] at hsplit
      | parseComplete d' =>
          by_cases hl : d'.language = j.collection.language
          · obtain ⟨rfl, rfl, -⟩ : before = [] ∧ d = d' ∧ later = [] := by
              simpa [Job.Op.reports, hl, List.singleton_eq_append_iff] using hsplit
            exact ⟨rfl, rfl⟩
          · simp [Job.Op.reports, hl] at hsplit
      | _ => simp [Job.Op.reports] at hsplit
    rw [hone.1, List.append_nil]
    exact hd d hlive hone.2
  · cases o with
    | none => simp at hsplit
    | some o => cases o <;> simp [JobOutcome.event, List.singleton_eq_append_iff] at hsplit

end Precedes

/-- A result with the rank of the document was reported to have text. -/
def HasText (before : List JobEvent) (d : Document) : Prop :=
  ∃ r, .crawled r true ∈ before ∧ r.rank = d.rank

/-- The sources that are to be parsed were reported. -/
def Announced (sources : List Source) (before : List JobEvent) (_ : Document) : Prop :=
  .begins (sources.map (·.toSourceInfo)) ∈ before

theorem Job.mem_extracted {j : Job} {r : SearchResult} :
    r ∈ j.extracted ↔ .crawled r true ∈ j.events := by
  simp only [Job.extracted, List.mem_filterMap]
  constructor
  · rintro ⟨e, he, hr⟩
    cases e with
    | crawled r' extracted => cases extracted <;> simp_all [JobEvent.extracted?]
    | _ => simp [JobEvent.extracted?] at hr
  · intro h
    exact ⟨_, h, rfl⟩

namespace Instr

/-! ### What is to be parsed -/

theorem parses_of_op? {i : Instr} {op : Job.Op} (h : i.op? = some op) : parses i = 0 :=
  weight_of_op? h

section Task

variable (s : Stage) (t : s.Task)

@[simp] theorem sourceOf_fresh : sourceOf s (s.fresh t) = sourceOf s t := by cases s <;> rfl

theorem parses_refused_le (e : TaskError) : parses (refused s t e) ≤ parses (submit s t) := by
  cases s <;> exact zero_le

theorem extracts_refused (e : TaskError) : extracts (refused s t e) = extracts (submit s t) := by
  cases s <;> rfl

variable {s} (o : TaskOutcome s.Yield)

/-- A source is handed on only when its result is about to be reported to have text. -/
theorem parses_after_le : ((s.given t o).map Prod.fst + weigh parses (after s t o)).map (·.rank) ≤
    (sourceOf s t).map (·.rank) + weigh extracts (after s t o) := by
  cases o with
  | discarded | failed e => cases s <;> exact zero_le
  | completed y =>
      cases s with
      | search =>
          simp [after, afterSearch, weigh_fanOut, parses, extracts, weight, sourceOf, Stage.given,
            Job.Op.extracts]
      | crawl | parse => exact le_rfl

/-- Only a crawl hands a source on. -/
theorem parses_after_le_of_fetches (h : resultOf s t = 0) :
    (s.given t o).map Prod.fst + weigh parses (after s t o) ≤ sourceOf s t := by
  cases s with
  | crawl => simp [resultOf] at h
  | parse => cases o <;> first | exact le_rfl | exact zero_le
  | search =>
      cases o with
      | completed rs =>
          simp [after, afterSearch, weigh_fanOut, parses, weight, sourceOf, Stage.given]
      | failed e | discarded => exact zero_le

theorem submit_ne_beginParses (rest : List Instr) (sources : List Source) (n : Nat) :
    submit s t :: rest ≠ beginParses n sources := by
  simp [beginParses]

end Task

theorem parses_beginParses (n : Nat) (sources : List Source) :
    weigh parses (beginParses n sources) = ↑sources := by
  simp [beginParses, weigh_fanOut, parses, weight, sourceOf, ParseTask.ofSource,
    sum_map_singleton]

/-- Whatever is about to be reported to have text is about to be parsed. -/
theorem total_extracts_le {agenda : Multiset (List Instr)} (h : ∀ e ∈ agenda, Orderly e) :
    total extracts agenda ≤ (total parses agenda).map (·.rank) := by
  have hmap : (total parses agenda).map (·.rank) =
      ((agenda.map (weigh parses)).map (Multiset.map (·.rank))).sum :=
    map_multiset_sum (Multiset.mapAddMonoidHom _) _
  rw [hmap, Multiset.map_map]
  exact Multiset.sum_map_le_sum_map _ _ fun e he => (h e he).isFair.extracts_le

end Instr

namespace Course

variable {sv : Services} {n : Nat} {c c' : Course}

theorem Step.sources?_eq (h : Step sv n c c') : c'.sources? = c.sources? := by cases h <;> rfl

/-- Documents have the ranks of their sources. -/
theorem Counted.ranks_given (h : c.Counted sv) (hkeep : sv.parsers.KeepsRanks) :
    (c.given.map Prod.snd).map (·.rank) = (c.given.map Prod.fst).map (·.rank) := by
  rw [Multiset.map_map, Multiset.map_map]
  exact Multiset.map_congr rfl fun x hx => (h.gives x hx).rank_eq hkeep

/-- A document that a script brings was given. -/
theorem Counted.exists_given (h : c.Counted sv) {i : Instr} {d : Document} {rest : List Instr}
    {others : Multiset (List Instr)} (he : c.agenda = (i :: rest) ::ₘ others)
    (hop : i.op? = some (.parseComplete d)) : ∃ source, (source, d) ∈ c.given := by
  have hd : d ∈ total delivers c.agenda := by
    rw [total_tell delivers he, delivers, weight_of_op? hop]
    simp [Job.Op.delivers]
  have hle := le_trans (le_add_of_nonneg_left zero_le) h.documents_le
  simpa using Multiset.mem_of_le hle hd

/-! ### Operations that search -/

/-- What is parsed in an operation that searches was reported to have text. -/
structure TextFirst (c : Course) : Prop where
  given_le : c.job.isLive = true →
    (c.given.map Prod.fst + total parses c.agenda).map (·.rank) ≤
      (c.job.extracted : Multiset SearchResult).map (·.rank) + total extracts c.agenda
  documents_le : (c.job.documents : Multiset Document).map (·.rank) ≤
    (c.job.extracted : Multiset SearchResult).map (·.rank)
  precedes : Precedes HasText c.job.events

theorem IsNew.textFirst (h : c.IsNew) : c.TextFirst := by
  obtain ⟨kind, l, hjob⟩ := h.job
  refine ⟨?_, ?_, ?_⟩
  · simp [h.given, h.agenda]
  · simp [hjob, Job.create, Job.documents]
  · rw [hjob]
    exact precedes_nil

/-- What was parsed was reported to have text, whatever is still to be reported. -/
theorem TextFirst.ranks_le (h : c.TextFirst) (ht : c.Tidy) (hlive : c.job.isLive = true) :
    (c.given.map Prod.fst).map (·.rank) ≤
      (c.job.extracted : Multiset SearchResult).map (·.rank) := by
  have hgiven := h.given_le hlive
  rw [Multiset.map_add] at hgiven
  exact le_of_add_le_add_right (le_trans hgiven (add_le_add le_rfl (total_extracts_le ht.orderly)))

/-- Telling the job something proper. -/
theorem TextFirst.apply (h : c.TextFirst) (ht : c.Tidy) (hc : c.Counted sv)
    (hkeep : sv.parsers.KeepsRanks) {op : Job.Op}
    (hproper : ∀ e, op = .announce e → ∃ sources, e = .begins sources)
    (hd : ∀ d, op = .parseComplete d → ∃ source, (source, d) ∈ c.given)
    (hdelivers : ↑c.job.documents + op.delivers ≤ c.given.map Prod.snd) :
    ((c.job.apply op).2.documents : Multiset Document).map (·.rank) ≤
      ((c.job.apply op).2.extracted : Multiset SearchResult).map (·.rank) ∧
    Precedes HasText (c.job.apply op).2.events := by
  refine ⟨?_, h.precedes.apply ht.accounted hproper fun d hlive hop => ?_⟩
  · rcases hlive : c.job.isLive with _ | _
    · rw [(Job.apply_of_isTerminal (ht.accounted.isTerminal hlive) op).2]
      exact h.documents_le
    · have hdocuments := Job.coe_documents_apply_le hproper hlive
      rw [Job.coe_extracted_apply hproper hlive]
      calc ((c.job.apply op).2.documents : Multiset Document).map (·.rank)
          ≤ (c.given.map Prod.snd).map (·.rank) :=
            Multiset.map_le_map (le_trans hdocuments hdelivers)
        _ = (c.given.map Prod.fst).map (·.rank) := hc.ranks_given hkeep
        _ ≤ _ := h.ranks_le ht hlive
        _ ≤ _ := le_add_of_nonneg_right zero_le
  · obtain ⟨source, hgiven⟩ := hd d hop
    have hrank : d.rank = source.rank := (hc.gives _ hgiven).rank_eq hkeep
    have hmem : source.rank ∈ (c.given.map Prod.fst).map (·.rank) :=
      Multiset.mem_map_of_mem _ (Multiset.mem_map_of_mem Prod.fst hgiven)
    -- its source was parsed, and what was parsed was reported to have text
    obtain ⟨r, hr, hrr⟩ := Multiset.mem_map.1 (Multiset.mem_of_le (h.ranks_le ht hlive) hmem)
    exact ⟨r, Job.mem_extracted.1 hr, hrr.trans hrank.symm⟩

theorem TextFirst.step (h : c.TextFirst) (ht : c.Tidy) (hc : c.Counted sv)
    (hkeep : sv.parsers.KeepsRanks) (hplan : c.sources? = none) (hstep : Step sv n c c') :
    c'.TextFirst := by
  cases hstep with
  | begin hnot =>
      refine ⟨fun hlive => ?_, h.documents_le, h.precedes⟩
      have hscript : c.script n = beginSearch n := by simp [script, hplan]
      simpa [hscript, beginSearch, parses, extracts, weight, sourceOf, Job.Op.extracts]
        using h.given_le hlive
  | cancel =>
      have hproper : ∀ e, Job.Op.cancel = .announce e → ∃ sources, e = .begins sources := by simp
      obtain ⟨hdocuments, hprecedes⟩ := h.apply ht hc hkeep hproper (by simp)
        (le_trans (add_le_add le_rfl zero_le) hc.documents_le)
      exact ⟨fun hlive => absurd hlive (by simp [Job.isLive_cancel]), hdocuments, hprecedes⟩
  | @tell i op rest rest' others he hop hrest =>
      have hproper := ht.isProper he
      have hdelivers := hc.documents_le
      rw [total_tell delivers he, delivers, weight_of_op? hop, ← add_assoc] at hdelivers
      obtain ⟨hdocuments, hprecedes⟩ := h.apply ht hc hkeep (hproper op hop).2
        (fun d hd => hc.exists_given he (hd ▸ hop))
        (le_trans (le_add_of_nonneg_right zero_le) hdelivers)
      refine ⟨fun hlive => ?_, hdocuments, hprecedes⟩
      have hbefore := ht.accounted.isLive_of_apply hlive
      obtain rfl : rest' = rest := ht.rest_eq hbefore hrest
      have hgiven := h.given_le hbefore
      rw [total_tell parses he, parses_of_op? hop, zero_add, total_tell extracts he, extracts,
        weight_of_op? hop, ← add_assoc, ← Job.coe_extracted_apply (hproper op hop).2 hbefore]
        at hgiven
      exact hgiven
  | @accept s t rest others he =>
      refine ⟨fun hlive => ?_, h.documents_le, h.precedes⟩
      have hgiven := h.given_le hlive
      rw [he] at hgiven
      rw [total_accept parses (sourceOf_fresh s t), total_accept extracts rfl]
      exact hgiven
  | @refuse s t rest others he err =>
      refine ⟨fun hlive => ?_, h.documents_le, h.precedes⟩
      have hgiven := h.given_le hlive
      rw [he] at hgiven
      rw [total_refuse extracts (extracts_refused s t err)]
      refine le_trans (Multiset.map_le_map (add_le_add le_rfl ?_)) hgiven
      simp only [total_cons, weigh_cons]
      exact add_le_add (add_le_add (parses_refused_le s t err) le_rfl) le_rfl
  | @settle s t others he o =>
      refine ⟨fun hlive => ?_, h.documents_le, h.precedes⟩
      have hgiven := h.given_le hlive
      have hparses : total parses c.agenda = sourceOf s t + total parses others := by
        simp [he, parses, weight]
      have hextracts : total extracts c.agenda = total extracts others := by
        simp [he, extracts, weight]
      rw [hparses, hextracts] at hgiven
      have hafter := parses_after_le t o
      simp only [Multiset.map_add, total_add, total_entry] at hgiven hafter ⊢
      -- the source of the task is on both sides
      refine le_of_add_le_add_left (a := (sourceOf s t).map (·.rank)) ?_
      have hsum := add_le_add hafter hgiven
      refine le_trans (le_of_eq ?_) (le_trans hsum (le_of_eq ?_)) <;> abel

/-! ### Operations that were given sources -/

/-- What is parsed in an operation that was given sources is one of them, and they were reported
first. -/
structure SourcesFirst (sources : List Source) (c : Course) : Prop where
  found : c.found = 0
  searches : total searches c.agenda = 0
  given_le : c.given.map Prod.fst + total parses c.agenda ≤ ↑c.assigned
  /-- They were reported, or nothing but beginning is on the agenda. -/
  announced : c.job.isLive = true → .begins (sources.map (·.toSourceInfo)) ∈ c.job.events ∨
    ∀ e ∈ c.agenda, ∃ n, e = beginParses n sources
  precedes : Precedes (Announced sources) c.job.events

theorem IsNew.sourcesFirst (h : c.IsNew) (sources : List Source) : c.SourcesFirst sources := by
  obtain ⟨kind, l, hjob⟩ := h.job
  refine ⟨h.found, by simp [h.agenda], ?_, fun _ => Or.inr ?_, ?_⟩
  · simp [h.given, h.agenda]
  · simp [h.agenda]
  · rw [hjob]
    exact precedes_nil

/-- A script that does something else shows that the sources were reported. -/
theorem SourcesFirst.begins_mem {sources : List Source} (h : c.SourcesFirst sources)
    (hlive : c.job.isLive = true) {script : List Instr} {others : Multiset (List Instr)}
    (he : c.agenda = script ::ₘ others) (hscript : ∀ n, script ≠ beginParses n sources) :
    .begins (sources.map (·.toSourceInfo)) ∈ c.job.events := by
  refine (h.announced hlive).resolve_right fun hall => ?_
  obtain ⟨n, hn⟩ := hall script (he ▸ Multiset.mem_cons_self ..)
  exact hscript n hn

theorem SourcesFirst.step {sources : List Source} (h : c.SourcesFirst sources) (ht : c.Tidy)
    (hc : c.Counted sv) (hplan : c.sources? = some sources) (hstep : Step sv n c c') :
    c'.SourcesFirst sources := by
  cases hstep with
  | begin hnot =>
      obtain ⟨hagenda, -, hgiven, -⟩ := ht.idle hnot
      have hscript : c.script n = beginParses n sources := by simp [script, hplan]
      refine ⟨h.found, ?_, ?_, fun _ => Or.inr fun e he => ⟨n, ?_⟩, h.precedes⟩
      · simp [hscript, hagenda, beginParses, weigh_fanOut, Instr.searches, weight, searchOf]
      · simp [hscript, hagenda, hgiven, parses_beginParses, assigned, hplan]
      · rw [hscript, hagenda, add_zero] at he
        exact mem_entry he
  | cancel =>
      refine ⟨h.found, h.searches, h.given_le, ?_, ?_⟩
      · intro hlive
        simp [Job.isLive_cancel] at hlive
      · exact h.precedes.apply ht.accounted (by simp) (by simp)
  | @tell i op rest rest' others he hop hrest =>
      have hshort : rest' = rest ∨ rest' = [] := hrest.imp_right And.left
      refine ⟨h.found, ?_, ?_, ?_, ?_⟩
      · have hle : total Instr.searches (entry rest' + others) ≤
            total Instr.searches (entry rest + others) := total_entry_add_le _ hshort
        have hzero := h.searches
        rw [total_tell Instr.searches he] at hzero
        exact Nat.le_zero.1 (le_trans hle (by omega))
      · have hle : total parses (entry rest' + others) ≤ total parses (entry rest + others) :=
          total_entry_add_le _ hshort
        have hgiven := h.given_le
        rw [total_tell parses he, parses_of_op? hop, zero_add] at hgiven
        exact le_trans (add_le_add le_rfl hle) hgiven
      · intro hlive
        have hbefore := ht.accounted.isLive_of_apply hlive
        refine Or.inl (Job.mem_events_apply hbefore op ?_)
        -- either the sources are reported right now, or they were reported before
        by_cases hbegins : ∃ m, i :: rest = beginParses m sources
        · obtain ⟨m, hm⟩ := hbegins
          obtain ⟨rfl, -⟩ := List.cons.inj hm
          obtain rfl := Option.some.inj hop
          exact Or.inr (List.mem_singleton_self _)
        · exact Or.inl (h.begins_mem hbefore he fun m hm => hbegins ⟨m, hm⟩)
      · refine h.precedes.apply ht.accounted (ht.isProper he op hop).2 fun d hlive hd => ?_
        refine h.begins_mem hlive he fun m hm => ?_
        obtain ⟨rfl, -⟩ := List.cons.inj hm
        simp [op?, hd] at hop
  | @accept s t rest others he =>
      refine ⟨h.found, ?_, ?_, fun hlive => Or.inl ?_, h.precedes⟩
      · exact (total_accept Instr.searches (searchOf_fresh s t) rest others).trans (he ▸ h.searches)
      · rw [total_accept parses (sourceOf_fresh s t), ← he]
        exact h.given_le
      · exact h.begins_mem hlive he (submit_ne_beginParses t rest sources)
  | @refuse s t rest others he err =>
      have hsearches := h.searches
      have hgiven := h.given_le
      rw [he] at hsearches hgiven
      refine ⟨h.found, ?_, ?_, fun hlive => Or.inl ?_, h.precedes⟩
      · simp only [total_cons, weigh_cons, searches_refused] at hsearches ⊢
        omega
      · refine le_trans (add_le_add le_rfl ?_) hgiven
        simp only [total_cons, weigh_cons]
        exact add_le_add (add_le_add (parses_refused_le s t err) le_rfl) le_rfl
      · exact h.begins_mem hlive he (submit_ne_beginParses t rest sources)
  | @settle s t others he o =>
      have hsearches := h.searches
      have hgiven := h.given_le
      have hfetches := le_trans (le_add_of_nonneg_left zero_le) hc.fetched_le
      rw [he, total_cons, weigh_cons, weigh_nil, add_zero] at hsearches hgiven hfetches
      -- the task is a parse: nothing is left to search or to fetch
      obtain ⟨hsearch, hothers⟩ := Nat.add_eq_zero_iff.1 hsearches
      have hresult : resultOf s t = 0 := by
        rw [h.found] at hfetches
        exact (add_eq_zero.1 (Multiset.le_zero.1 hfetches)).1
      have hfound : s.found o = 0 := found_of_searchOf t o hsearch
      refine ⟨by simp [hfound, h.found], ?_, ?_, fun hlive => Or.inl ?_, h.precedes⟩
      · simp only [total_add, total_entry, searches_after, zero_add]
        exact hothers
      · have hafter := parses_after_le_of_fetches t o hresult
        simp only [total_add, total_entry, Multiset.map_add]
        calc (s.given t o).map Prod.fst + c.given.map Prod.fst +
              (weigh parses (after s t o) + total parses others)
            = ((s.given t o).map Prod.fst + weigh parses (after s t o)) +
              (c.given.map Prod.fst + total parses others) := by abel
          _ ≤ sourceOf s t + (c.given.map Prod.fst + total parses others) :=
            add_le_add hafter le_rfl
          _ = c.given.map Prod.fst + (sourceOf s t + total parses others) := by abel
          _ ≤ _ := hgiven
      · exact h.begins_mem hlive he (submit_ne_beginParses t [] sources)

end Course

end GradedReading
