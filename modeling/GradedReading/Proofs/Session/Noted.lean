import GradedReading.Proofs.Session.Answer
import GradedReading.Proofs.Session.Appended

/-!
# GradedReading.Proofs.Session.Noted

Where the cursor of a session comes from.

**Key idea:** every operation that was launched has a cursor of the query that the ledger notes for
it, wherever that cursor is, or it has none. A session takes its cursor over from one of them. So
the cursor of a session is always one of a search that was begun, in the search's language, whatever
the operations have brought in and whether or not they completed.

An act that begins operations is answered before it launches anything, so the acts are followed here
with their answers.
-/

namespace GradedReading

open Search

namespace Launch

/-- The search was begun by an operation, with this query. -/
def BegunWith (r : Nat) (q : Query) (xs : List Launch) : Prop :=
  ∃ x ∈ xs, x.operation = r ∧ x.search = some r ∧ x.query = some q

/-- The operation pursues what is noted for it, or it does not search. -/
def Lasts (x : Launch) (p : Pipeline) : Prop :=
  match x.query with
  | some q => x.search.isSome = true ∧ ∃ c, c.query = q ∧ p.Pursues x.operation c
  | none => x.search = none ∧ p.place? x.operation = none

variable {x y : Launch} {xs : List Launch} {p p' : Pipeline} {r : Nat} {q q' : Query}

theorem BegunWith.concat (h : BegunWith r q xs) (x : Launch) : BegunWith r q (xs ++ [x]) := by
  obtain ⟨y, hy, hbegun⟩ := h
  exact ⟨y, List.mem_append_left _ hy, hbegun⟩

/-- An operation is launched once. -/
theorem eq_of_operation_eq (h : (xs.map (·.operation)).Nodup) (hx : x ∈ xs) (hy : y ∈ xs)
    (hop : x.operation = y.operation) : x = y := List.inj_on_of_nodup_map h hx hy hop

theorem search?_of_mem (h : (xs.map (·.operation)).Nodup) (hx : x ∈ xs) :
    search? x.operation xs = x.search := by
  obtain ⟨y, hy⟩ : ∃ y, xs.find? (·.operation == x.operation) = some y :=
    Option.isSome_iff_exists.1 (List.find?_isSome.2 ⟨x, hx, by simp⟩)
  have hop : y.operation = x.operation := by simpa using List.find?_some hy
  rw [search?, hy, Option.bind_some, eq_of_operation_eq h (List.mem_of_find?_eq_some hy) hx hop]

/-- A search is begun with one query. -/
theorem BegunWith.query_eq (h : BegunWith r q xs) (h' : BegunWith r q' xs)
    (hdistinct : (xs.map (·.operation)).Nodup) : q = q' := by
  obtain ⟨x, hx, hop, -, hq⟩ := h
  obtain ⟨y, hy, hop', -, hq'⟩ := h'
  obtain rfl := eq_of_operation_eq hdistinct hx hy (hop.trans hop'.symm)
  exact Option.some.inj (hq.symm.trans hq')

theorem BegunWith.search? (h : BegunWith r q xs) (hdistinct : (xs.map (·.operation)).Nodup) :
    Launch.search? r xs = some r := by
  obtain ⟨x, hx, rfl, hsearch, -⟩ := h
  exact (search?_of_mem hdistinct hx).trans hsearch

theorem Lasts.reaches (h : x.Lasts p) {sv : Services} (hp : p.Steady sv)
    (hx : x.operation < p.operations.length) (hreaches : Pipeline.Reaches sv p p') :
    x.Lasts p' := by
  unfold Lasts at h ⊢
  split
  · next hq =>
    rw [hq] at h
    obtain ⟨hsearch, c, hc, hpursues⟩ := h
    exact ⟨hsearch, c, hc, hpursues.reaches hp hreaches⟩
  · next hq =>
    rw [hq] at h
    exact ⟨h.1, (hp.place?_eq_none hreaches hx h.2).2⟩

/-- An operation that has its cursor was launched for a search. -/
theorem Lasts.exists_search (h : x.Lasts p) {c : Cursor}
    (hc : p.place? x.operation = some (.here c)) :
    x.query = some c.query ∧ ∃ r, x.search = some r := by
  unfold Lasts at h
  split at h
  · next q hq =>
    obtain ⟨hsearch, c₀, rfl, hpursues⟩ := h
    rw [hq, (hpursues.query c (.here hc)).1]
    exact ⟨rfl, Option.isSome_iff_exists.1 hsearch⟩
  · simp [h.2] at hc

end Launch

namespace Session

variable {sv : Services} {s s' : Session} {a : Act} {l : Ledger} {n m : Nat}

/-! ### What is noted of a session -/

/-- A session whose ledger says where its cursor comes from. -/
structure Noted (sv : Services) (l : Ledger) (s : Session) : Prop where
  tidy : s.Tidy sv
  searches : ∀ t ∈ s.pipeline.searches, t.Collects
  launches : l.launches.map (·.operation) = s.launched
  lasts : ∀ x ∈ l.launches, x.Lasts s.pipeline
  /-- The language of every search is supported. -/
  supported : ∀ x ∈ l.launches, ∀ q, x.query = some q → sv.parsers.supports q.language = true
  /-- Whoever continues a search has its query. -/
  begun : ∀ x ∈ l.launches, ∀ r q, x.search = some r → x.query = some q →
    Launch.BegunWith r q l.launches
  /-- The cursor belongs to a search that was begun. -/
  cursor : ∀ c, s.cursor = some c →
    ∃ r, l.continued = some r ∧ Launch.BegunWith r c.query l.launches

theorem noted_ofPipeline {p : Pipeline} (hp : p.Steady sv) : Noted sv .empty (ofPipeline p) where
  tidy := tidy_ofPipeline hp.toFine
  searches := hp.searches
  launches := rfl
  lasts x hx := by simp [Ledger.empty] at hx
  supported x hx := by simp [Ledger.empty] at hx
  begun x hx := by simp [Ledger.empty] at hx
  cursor c hc := by simp [ofPipeline] at hc

theorem Noted.steady (h : Noted sv l s) : s.pipeline.Steady sv := ⟨h.tidy.fine, h.searches⟩

theorem Noted.distinct (h : Noted sv l s) : (l.launches.map (·.operation)).Nodup :=
  h.launches ▸ h.tidy.distinct

theorem Noted.lt (h : Noted sv l s) {x : Launch} (hx : x ∈ l.launches) :
    x.operation < s.pipeline.operations.length :=
  h.tidy.known _ (h.launches ▸ List.mem_map_of_mem hx)

/-- The current operation was launched. -/
theorem Noted.exists_current (h : Noted sv l s) (hn : s.active = some n) :
    ∃ x ∈ l.launches, x.operation = n := by
  have hmem := List.mem_of_getLast? (h.tidy.last n hn)
  rw [← h.launches] at hmem
  obtain ⟨x, hx, hop⟩ := List.mem_map.1 hmem
  exact ⟨x, hx, hop⟩

/-- The language of the cursor is supported. -/
theorem Noted.supports_cursor (h : Noted sv l s) {c : Cursor} (hc : s.cursor = some c) :
    sv.parsers.supports c.query.language = true := by
  obtain ⟨r, -, x, hx, -, -, hq⟩ := h.cursor c hc
  exact h.supported x hx _ hq

/-- Whatever the pipeline does, and whether or not the cursor is dropped. -/
theorem Noted.reaches (h : Noted sv l s) (htidy : s'.Tidy sv)
    (hp : Pipeline.Reaches sv s.pipeline s'.pipeline) (hlaunched : s'.launched = s.launched)
    (hcursor : s'.cursor = s.cursor ∨ s'.cursor = none) : Noted sv l s' where
  tidy := htidy
  searches := (h.steady.reaches hp).searches
  launches := h.launches.trans hlaunched.symm
  lasts x hx := (h.lasts x hx).reaches h.steady (h.lt hx) hp
  supported := h.supported
  begun := h.begun
  cursor c hc := by
    rcases hcursor with hsame | hnone
    · exact h.cursor c (hsame ▸ hc)
    · simp [hnone] at hc

/-! ### Taking a cursor over -/

theorem handsOver_iff : s.handsOver s' = true ↔ ∃ n c, s.active = some n ∧
    s.pipeline.place? n = some (.here c) ∧ s'.pipeline.place? n = some .gone := by
  simp only [handsOver, Option.any_eq_true]
  constructor
  · rintro ⟨n, hn, hplaces⟩
    split at hplaces
    · next c hhere hgone => exact ⟨n, c, hn, hhere, hgone⟩
    · simp at hplaces
  · rintro ⟨n, c, hn, hhere, hgone⟩
    exact ⟨n, hn, by rw [hhere, hgone]⟩

/-- Between a session and itself no cursor is taken over. -/
theorem taken_self (l : Ledger) (s : Session) : l.taken s s = l := by
  refine if_neg fun hhands => ?_
  obtain ⟨n, c, -, hhere, hgone⟩ := handsOver_iff.1 hhands
  simp [hgone] at hhere

/-- What is noted if the cursor of the current operation is taken over. -/
theorem taken_stash {c : Cursor} (hactive : s.active = some n)
    (htake : (s.pipeline.takeCursor n).1 = some c)
    (hstash : s.stash = { s with
      pipeline := (s.pipeline.takeCursor n).2, cursor := some c }) :
    l.taken s s.stash = { l with continued := Launch.search? n l.launches } := by
  obtain ⟨hhere, hputs⟩ := Pipeline.place?_of_takeCursor htake
  have hhands : s.handsOver s.stash = true :=
    handsOver_iff.2 ⟨n, c, hactive, hhere, hstash ▸ hputs.of_some hhere⟩
  rw [Ledger.taken, if_pos hhands, hactive]
  rfl

theorem launched_stash (s : Session) : s.stash.launched = s.launched := by
  rw [launched, stash_rest s]
  rfl

theorem active_stash (s : Session) : s.stash.active = s.active := by rw [stash_rest s]

theorem Noted.stash (h : Noted sv l s) : Noted sv (l.taken s s.stash) s.stash := by
  have htidy : s.stash.Tidy sv := h.tidy.step (.stash (.inl rfl))
  have hp := reaches_stash sv s
  rcases stash_cases s with hsame | ⟨n, c, hactive, -, htake, hstash⟩
  · rw [hsame, taken_self]
    exact h
  · rw [taken_stash hactive htake hstash]
    obtain ⟨x, hx, rfl⟩ := h.exists_current hactive
    obtain ⟨hquery, r, hr⟩ := (h.lasts x hx).exists_search (Pipeline.place?_of_takeCursor htake).1
    refine ⟨htidy, (h.steady.reaches hp).searches, h.launches.trans (launched_stash s).symm,
      fun y hy => (h.lasts y hy).reaches h.steady (h.lt hy) hp, h.supported, h.begun,
      fun c' hc' => ⟨r, (Launch.search?_of_mem h.distinct hx).trans hr, ?_⟩⟩
    rw [hstash] at hc'
    obtain rfl := Option.some.inj hc'
    exact h.begun x hx r _ hr hquery

/-- The last operation is retired. -/
theorem Noted.retire (h : Noted sv l s) (hroom : s.HasRoom) :
    Noted sv (l.taken s s.stash) s.retire := by
  have htidy : s.retire.Tidy sv :=
    h.tidy.step (.retire (a := .more 0 none) rfl hroom .rfl (.of_eq rfl) (.inl rfl) (.inl rfl))
  exact h.stash.reaches htidy .rfl rfl (.inl rfl)

/-! ### Launching -/

/-- Adding an operation to a pipeline that supports its language. -/
theorem Errand.reaches_added {o : Operation} {cursor : Option Cursor} {base : Option Collection}
    {keywords : KeywordSet} (h : Errand s a o cursor base keywords)
    (hsupports : sv.parsers.supports o.job.language = true) :
    Pipeline.Reaches sv s.pipeline (s.pipeline.added o) := by
  cases h with
  | search q target keywords =>
      have hp := Pipeline.Reaches.call sv s.pipeline (.search q target keywords)
      have hadd : sv.parsers.supports (Cursor.start q).query.language = true := hsupports
      rwa [Pipeline.call, Pipeline.search, Pipeline.searchMore, Pipeline.add, if_pos hadd] at hp
  | parse l sources keywords =>
      have hp := Pipeline.Reaches.call sv s.pipeline (.parse l sources keywords)
      have hadd : sv.parsers.supports l = true := hsupports
      rwa [Pipeline.call, Pipeline.parse, Pipeline.add, if_pos hadd] at hp
  | @more c _ target =>
      have hp := Pipeline.Reaches.call sv s.pipeline (.searchMore c target s.keywords)
      have hadd : sv.parsers.supports c.query.language = true := hsupports
      rwa [Pipeline.call, Pipeline.searchMore, Pipeline.add, if_pos hadd] at hp

theorem query?_more {c : Cursor} (hcursor : s.retire.cursor = some c) (target : Nat)
    (obstacle : Option String) : Act.query? s (.more target obstacle) = some c.query := by
  show s.stash.cursor.map _ = _
  rw [show s.stash.cursor = some c from hcursor]
  rfl

/-- What was launched is noted. -/
theorem Noted.lasts_launching (h : Noted sv l s.retire) {o : Operation} {cursor : Option Cursor}
    {base : Option Collection} {keywords : KeywordSet}
    (herrand : Errand s.retire a o cursor base keywords) :
    (launchOf a l s).Lasts (s.retire.pipeline.launched o) := by
  have hplace := Pipeline.place?_launched o s.retire.pipeline
  have hpursues : ∀ c target keywords, o = .ofCursor c target keywords →
      (s.retire.pipeline.launched o).Pursues s.retire.pipeline.operations.length c := by
    rintro c target keywords rfl
    exact Pipeline.pursues_new hplace fun t ht =>
      Nat.ne_of_lt (h.tidy.fine.sound.tasks .search t ht).operation
  cases herrand with
  | search q target keywords => exact ⟨rfl, _, rfl, hpursues _ _ _ rfl⟩
  | parse => exact ⟨rfl, hplace⟩
  | @more c hcursor target =>
      obtain ⟨r, hcontinued, -⟩ := h.cursor c hcursor
      simp only [Launch.Lasts, launchOf, query?_more hcursor]
      exact ⟨by simp [Act.search?, hcontinued], c, rfl, hpursues _ _ _ rfl⟩

/-- The search that a new operation begins or continues was begun with its query, in a language that
is supported. -/
theorem Noted.begun_launching (h : Noted sv l s.retire) {o : Operation} {cursor : Option Cursor}
    {base : Option Collection} {keywords : KeywordSet}
    (herrand : Errand s.retire a o cursor base keywords) {q : Query}
    (hq : (launchOf a l s).query = some q) :
    o.job.language = q.language ∧ ∀ r, (launchOf a l s).search = some r →
      Launch.BegunWith r q (l.noting (launchOf a l s)).launches := by
  cases herrand with
  | search q' target keywords =>
      obtain rfl : q' = q := Option.some.inj hq
      refine ⟨rfl, ?_⟩
      rintro r ⟨⟩
      exact ⟨_, List.mem_append_right _ (List.mem_singleton_self _), rfl, rfl, rfl⟩
  | parse => simp [launchOf, Act.query?] at hq
  | @more c hcursor target =>
      rw [launchOf, query?_more hcursor] at hq
      obtain rfl := Option.some.inj hq
      obtain ⟨r, hcontinued, hbegun⟩ := h.cursor c hcursor
      refine ⟨rfl, fun r' hr' => ?_⟩
      obtain rfl : r = r' := Option.some.inj (hcontinued.symm.trans hr')
      exact hbegun.concat _

theorem Noted.launch (h : Noted sv l s.retire) {o : Operation} {cursor : Option Cursor}
    {base : Option Collection} {keywords : KeywordSet}
    (herrand : Errand s.retire a o cursor base keywords)
    (hsupports : sv.parsers.supports o.job.language = true)
    (htidy : (s.launching o cursor base keywords).Tidy sv) :
    Noted sv (l.noting (launchOf a l s)) (s.launching o cursor base keywords) := by
  have hp : Pipeline.Reaches sv s.retire.pipeline (s.retire.pipeline.launched o) :=
    (herrand.reaches_added hsupports).trans (.begin_added herrand.begun_eq)
  -- everything is said of the old launches, and of the new one
  have hall : ∀ {P : Launch → Prop}, (∀ x ∈ l.launches, P x) → P (launchOf a l s) →
      ∀ x ∈ (l.noting (launchOf a l s)).launches, P x := by
    intro P hold hnew x hx
    rcases List.mem_append.1 hx with hx | hx
    · exact hold x hx
    · rwa [List.mem_singleton.1 hx]
  refine ⟨htidy, (h.steady.reaches hp).searches, ?_, hall ?_ (h.lasts_launching herrand),
    hall h.supported fun q hq => ?_, hall ?_ fun r q hr hq => ?_, fun c hc => ?_⟩
  · rw [launched_launching, Ledger.noting, List.map_append, h.launches, launched, retire_rest s]
    rfl
  · exact fun x hx => (h.lasts x hx).reaches h.steady (h.lt hx) hp
  · exact (h.begun_launching herrand hq).1 ▸ hsupports
  · exact fun x hx r q hr hq => (h.begun x hx r q hr hq).concat _
  · exact (h.begun_launching herrand hq).2 r hr
  · obtain ⟨r, hcontinued, hbegun⟩ := h.cursor c (herrand.cursor_cases.resolve_right
      (fun hnone => by simp [launching, hnone] at hc) ▸ hc)
    exact ⟨r, hcontinued, hbegun.concat _⟩

/-! ### What an act does with the cursor -/

/-- Nothing was launched, and no cursor was taken over. -/
structure Untaken (sv : Services) (s s' : Session) : Prop where
  reaches : Pipeline.Reaches sv s.pipeline s'.pipeline
  launched : s'.launched = s.launched
  active : s'.active = s.active ∨ s'.active = none
  cursor : s'.cursor = s.cursor ∨ s'.cursor = none
  gone : ∀ n c, s.pipeline.Pursues n c →
    (s'.pipeline.place? n = some .gone ↔ s.pipeline.place? n = some .gone)

theorem untaken_self (sv : Services) (s : Session) : Untaken sv s s :=
  ⟨.rfl, rfl, .inl rfl, .inl rfl, fun _ _ _ => Iff.rfl⟩

/-- The pipeline makes a step by itself, or a client makes a call that takes no cursor. -/
theorem untaken_act {b : Pipeline.Act} {p : Pipeline} (hb : s.pipeline.act? sv b = some p)
    (hnot : ∀ m, b ≠ .call (.takeCursor m)) : Untaken sv s (s.withPipeline p) where
  reaches := .of_act hb
  launched := rfl
  active := .inl rfl
  cursor := .inl rfl
  gone _ _ hpursues := hpursues.gone_iff (Pipeline.cursorStep_act hb) hnot

theorem untaken_cancel (sv : Services) (s : Session) : Untaken sv s s.cancel.2 := by
  unfold cancel
  split
  · next n _ => exact untaken_act (b := .call (.cancel n)) rfl (by simp)
  · exact untaken_self sv s

theorem cursor_pass (n : Nat) (e : JobEvent) (s : Session) : (s.pass n e).cursor = s.cursor := by
  cases e <;> rfl

/-- What an act does with the cursor: it may look for that of the current operation. If it launches
an operation, its caller gets the number. -/
inductive Handling (sv : Services) (s : Session) (a : Act) : Session → Prop
  | leave {s₁ s' : Session} (hstash : s₁ = s ∨ s₁ = s.stash) (h : Untaken sv s₁ s')
      (hanswer : ∀ n s₂, s.begins? sv a ≠ some (.ok n, s₂)) : Handling sv s a s'
  | launch {o : Operation} {cursor : Option Cursor} {base : Option Collection}
      {keywords : KeywordSet} (hroom : s.HasRoom) (h : Errand s.retire a o cursor base keywords)
      (hsupports : sv.parsers.supports o.job.language = true)
      (hanswer : s.begins? sv a = some (.ok s.retire.pipeline.operations.length,
        s.launching o cursor base keywords)) :
      Handling sv s a (s.launching o cursor base keywords)

theorem handling_of_begins? {answer : Except OperationError Nat}
    (h : s.begins? sv a = some (answer, s')) : Handling sv s a s' := by
  have hrefused : ∀ {e}, answer = .error e → ∀ n s₂, s.begins? sv a ≠ some (.ok n, s₂) := by
    rintro e rfl n s₂ hok
    simp [h] at hok
  cases answer_of_begins? h with
  | busy => exact .leave (.inl rfl) (untaken_self sv s) (hrefused rfl)
  | refused _ hrefusal =>
      exact .leave (.inr rfl)
        ⟨.rfl, rfl, .inr rfl, hrefusal.cursor_cases, fun _ _ _ => Iff.rfl⟩ (hrefused rfl)
  | @unrelayed o _ _ _ _ hroom herrand hsupports =>
      refine .leave (.inr rfl) ⟨herrand.reaches_added hsupports, rfl, .inr rfl,
        herrand.cursor_cases, fun n c hpursues => ?_⟩ (hrefused rfl)
      obtain ⟨place, hplace⟩ := Option.isSome_iff_exists.1 hpursues.known
      exact Eq.congr_left
        (Pipeline.samePlaces_added o s.stash.pipeline n (Pipeline.lt_of_place? hplace))
  | launched hroom herrand hsupports => exact .launch hroom herrand hsupports h

/-- **Every act handles the cursor in one of two ways.** -/
theorem handling_of_act? (hact : s.act? sv a = some s') : Handling sv s a s' := by
  by_cases ha : a.isBeginning = true
  · have hbegins : s.act? sv a = (s.begins? sv a).map (·.2) := by
      cases a <;> first | rfl | simp [Act.isBeginning] at ha
    obtain ⟨⟨answer, s₂⟩, hbegins, rfl⟩ := Option.map_eq_some_iff.1 (hbegins.symm.trans hact)
    exact handling_of_begins? hbegins
  · have hanswer : ∀ n s₂, s.begins? sv a ≠ some (.ok n, s₂) := by
      intro n s₂
      cases a <;> simp_all [begins?, Act.isBeginning]
    have hleave : Untaken sv s s' → Handling sv s a s' := fun h => .leave (.inl rfl) h hanswer
    cases step_of_act? hact with
    | idle => exact hleave (untaken_self sv s)
    | @move m _ hmove => exact hleave (untaken_act (b := .move m) hmove (by simp))
    | shutDown drain =>
        exact hleave (untaken_act (b := .call (.shutDown drain)) rfl (by simp))
    | @cancel n => exact hleave (untaken_act (b := .call (.cancel n)) rfl (by simp))
    | @pass k r j e hr =>
        refine hleave ⟨?_, launched_set hr e, .inl (active_pass r.operation e s),
          .inl (cursor_pass r.operation e s), ?_⟩
        · simp only [pipeline_pass]
          exact .rfl
        · simp [pipeline_pass]
    | @skip k r j e hr =>
        exact hleave ⟨.rfl, launched_set hr e, .inl rfl, .inl rfl, fun _ _ _ => Iff.rfl⟩
    | fetch => exact hleave ⟨.rfl, rfl, .inl rfl, .inl rfl, fun _ _ _ => Iff.rfl⟩
    | release =>
        have hcancel := untaken_cancel sv s
        have hlaunched : s.release.launched = s.launched := by
          rw [release_eq]
          rfl
        exact hleave ⟨hcancel.reaches, hlaunched, .inr rfl, .inr rfl, hcancel.gone⟩
    | stash => exact .leave (.inr rfl) (untaken_self sv _) hanswer
    | retire hbeginning => exact absurd hbeginning ha
    | launch _ herrand => exact absurd herrand.isBeginning ha

/-! ### Whatever happens -/

/-- The cursor of what was launched is taken over by nothing but that. -/
theorem Noted.gone_iff (h : Noted sv l s) (hs : Untaken sv s s') {x : Launch}
    (hx : x ∈ l.launches) : s'.pipeline.place? x.operation = some .gone ↔
      s.pipeline.place? x.operation = some .gone := by
  have hlasts := h.lasts x hx
  unfold Launch.Lasts at hlasts
  split at hlasts
  · obtain ⟨-, c, -, hpursues⟩ := hlasts
    exact hs.gone _ c hpursues
  · have hnone := (h.steady.place?_eq_none hs.reaches (h.lt hx) hlasts.2).2
    simp [hnone, hlasts.2]

theorem Noted.untaken (h : Noted sv l s) (htidy : s'.Tidy sv) (hs : Untaken sv s s') :
    Noted sv l s' := h.reaches htidy hs.reaches hs.launched hs.cursor

/-- An act that looks for a cursor, if at all, and does nothing more with it. -/
theorem Noted.after_leave (h : Noted sv l s) {s₁ : Session} (hstash : s₁ = s ∨ s₁ = s.stash)
    (hs : Untaken sv s₁ s') (a : Act) :
    l.after s a s' = l.taken s s₁ ∧ Noted sv (l.taken s s₁) s₁ := by
  have hnoted : Noted sv (l.taken s s₁) s₁ := by
    rcases hstash with rfl | rfl
    · exact (taken_self l s₁).symm ▸ h
    · exact h.stash
  have hactive : s₁.active = s.active := by
    rcases hstash with rfl | rfl
    · rfl
    · exact active_stash s
  have hlaunched : s₁.launched = s.launched := by
    rcases hstash with rfl | rfl
    · rfl
    · exact launched_stash s
  have hsame : s.handsOver s' = s.handsOver s₁ := by
    rw [Bool.eq_iff_iff, handsOver_iff, handsOver_iff]
    refine exists_congr fun n => exists_congr fun c => and_congr_right fun hn =>
      and_congr_right fun _ => ?_
    obtain ⟨x, hx, rfl⟩ := hnoted.exists_current (hactive.trans hn)
    exact hnoted.gone_iff hs hx
  refine ⟨?_, hnoted⟩
  rw [after_of_launched_eq l (hs.launched.trans hlaunched), Ledger.taken, hsame, Ledger.taken]

theorem Noted.act (h : Noted sv l s) (hact : s.act? sv a = some s') :
    Noted sv (l.after s a s') s' := by
  have htidy := h.tidy.step (step_of_act? hact)
  cases handling_of_act? hact with
  | leave hstash hs =>
      obtain ⟨hafter, hnoted⟩ := h.after_leave hstash hs a
      exact hafter ▸ hnoted.untaken htidy hs
  | launch hroom herrand hsupports =>
      rw [h.tidy.after_launching]
      exact (h.retire hroom).launch herrand hsupports htidy

theorem Noted.run (h : Noted sv l s) {acts : List Act} (hrun : s.run? sv acts = some s') :
    Noted sv (s.ledger sv l acts) s' := by
  induction acts generalizing s l with
  | nil =>
      obtain rfl : s = s' := by simpa using hrun
      exact h
  | cons a acts ih =>
      obtain ⟨s₁, ha, hrest⟩ := Option.bind_eq_some_iff.1 hrun
      rw [ledger_cons sv l ha]
      exact ih (h.act ha) hrest

end Session

end GradedReading
