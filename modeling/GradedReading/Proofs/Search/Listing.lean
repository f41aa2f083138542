import GradedReading.Files.Corpus
import GradedReading.Proofs.Search.Visits
import Mathlib.Data.List.Induction

/-!
# GradedReading.Proofs.Search.Listing

Fetching everything that a corpus has for a query.

**Key idea:** the pages of a corpus are the stretches of one list, the files with a hit in their
order. Nothing in that list is blocked and nothing comes twice, so a cursor hands it out as it is,
with the ranks that the pages gave. The cursor knows that the list is over as soon as it is: the
page that ends with the last file says so, even if it is full.
-/

namespace GradedReading.Files

open Search Text Web Cursor Exchange

/-! ### The order of paths -/

/-- The characters that decide between names. -/
def Component.nameText : Component → String
  | .name cs => String.ofList cs
  | .root | .here | .up => ""

theorem Component.order_eq :
    Component.order = compareLex (compareOn kindRank) (compareOn nameText) := by
  funext a b
  cases a <;> cases b <;> rfl

instance : Std.TransCmp Component.order := by
  rw [Component.order_eq]
  infer_instance

namespace Path

theorem orderOf_eq : orderOf = List.compareLex Component.order := by
  funext as bs
  induction as generalizing bs with
  | nil => cases bs <;> rfl
  | cons a as ih =>
      cases bs with
      | nil => rfl
      | cons b bs =>
          rw [orderOf, List.compareLex_cons_cons, ih]
          cases a.order b <;> rfl

instance : Std.TransCmp orderOf := by
  rw [orderOf_eq]
  infer_instance

theorem atMost_eq (a b : String) : atMost a b = (orderOf (components a) (components b)).isLE := by
  rw [atMost, order]
  cases orderOf (components a) (components b) <;> rfl

theorem atMost_trans {a b c : String} (hab : atMost a b = true) (hbc : atMost b c = true) :
    atMost a c = true := by
  rw [atMost_eq] at hab hbc ⊢
  exact Std.TransCmp.isLE_trans hab hbc

theorem atMost_total (a b : String) : atMost a b = true ∨ atMost b a = true := by
  have hswap : (orderOf (components a) (components b)).isGE =
      (orderOf (components b) (components a)).isLE := Std.OrientedCmp.isGE_eq_isLE
  rw [atMost_eq, atMost_eq, ← hswap]
  cases orderOf (components a) (components b) <;> decide

end Path

namespace Corpus

/-- More hits come first, and the earlier path among files with as many. -/
def Precedes (terms : List String) (a b : CorpusFile) : Prop :=
  b.score terms < a.score terms ∨
    a.score terms = b.score terms ∧ Path.atMost a.path b.path = true

theorem comesFirst_iff {a b : Nat × CorpusFile} :
    comesFirst a b = true ↔ b.1 < a.1 ∨ a.1 = b.1 ∧ Path.atMost a.2.path b.2.path = true := by
  simp [comesFirst]

theorem comesFirst_trans (a b c : Nat × CorpusFile) (hab : comesFirst a b = true)
    (hbc : comesFirst b c = true) : comesFirst a c = true := by
  rw [comesFirst_iff] at *
  rcases hab with hab | ⟨hab, hpath⟩ <;> rcases hbc with hbc | ⟨hbc, hpath'⟩
  · left; omega
  · left; omega
  · left; omega
  · exact .inr ⟨hab.trans hbc, Path.atMost_trans hpath hpath'⟩

theorem comesFirst_total (a b : Nat × CorpusFile) :
    (comesFirst a b || comesFirst b a) = true := by
  rw [Bool.or_eq_true, comesFirst_iff, comesFirst_iff]
  rcases Nat.lt_trichotomy a.1 b.1 with hlt | heq | hgt
  · exact .inr (.inl hlt)
  · rcases Path.atMost_total a.2.path b.2.path with hpath | hpath
    · exact .inl (.inr ⟨heq, hpath⟩)
    · exact .inr (.inr ⟨heq.symm, hpath⟩)
  · exact .inl (.inl hgt)

/-! ### The files with a hit -/

/-- The file has a word of the query, and lies in one of the chosen folders if it has to. -/
def Meets (c : Corpus) (q : Query) (f : CorpusFile) : Prop :=
  (∃ word ∈ f.words, word ∈ lowerWords q.text) ∧
    (q.restricted = true → ∃ folder ∈ c.chosen, Path.isBelow f.path folder = true)

variable {c : Corpus} {q : Query}

theorem admits_iff {f : CorpusFile} : c.admits q f = true ↔
    (q.restricted = true → ∃ folder ∈ c.chosen, Path.isBelow f.path folder = true) := by
  cases hrestricted : q.restricted <;> simp [admits, hrestricted]

theorem score_pos_iff {f : CorpusFile} {terms : List String} :
    0 < f.score terms ↔ ∃ word ∈ f.words, word ∈ terms := by
  simp [CorpusFile.score]

/-- The files with a hit, before they are put in order. -/
theorem matching_perm (c : Corpus) (q : Query) : (c.matching q).Perm
    ((c.files.filter (c.admits q)).filter fun f => 0 < f.score (lowerWords q.text)) := by
  refine ((List.mergeSort_perm _ _).map _).trans ?_
  rw [List.filter_map, List.map_map]
  exact .of_eq (List.map_id _)

theorem mem_matching {f : CorpusFile} : f ∈ c.matching q ↔ f ∈ c.files ∧ c.Meets q f := by
  rw [(matching_perm c q).mem_iff, List.mem_filter, List.mem_filter, decide_eq_true_eq,
    score_pos_iff, admits_iff, Meets, and_assoc, and_comm (a := _ → _)]

theorem nodup_matching (hdistinct : (c.files.map (·.path)).Nodup) :
    ((c.matching q).map (·.path)).Nodup := by
  rw [((matching_perm c q).map _).nodup_iff]
  exact hdistinct.sublist ((List.filter_sublist.trans List.filter_sublist).map _)

theorem pairwise_matching (c : Corpus) (q : Query) :
    (c.matching q).Pairwise (Precedes (lowerWords q.text)) := by
  rw [matching, List.pairwise_map]
  refine List.Pairwise.imp_of_mem ?_
    (List.pairwise_mergeSort comesFirst_trans comesFirst_total _)
  intro a b ha hb hab
  -- a file goes with its own score
  have hscore {s : Nat × CorpusFile} (hs : s ∈ (((c.files.filter (c.admits q)).map fun f =>
      (f.score (lowerWords q.text), f)).filter fun s => 0 < s.1).mergeSort comesFirst) :
      s.1 = s.2.score (lowerWords q.text) := by
    obtain ⟨hs, -⟩ := List.mem_filter.1 (List.mem_mergeSort.1 hs)
    obtain ⟨f, -, rfl⟩ := List.mem_map.1 hs
    rfl
  rw [comesFirst_iff, hscore ha, hscore hb] at hab
  exact hab

/-! ### The list of results -/

/-- These files as results, in this order. -/
def listing (fs : List CorpusFile) : List SearchResult := fs.zipIdx.map fun (f, i) => f.result i

@[simp] theorem length_listing (fs : List CorpusFile) : (listing fs).length = fs.length := by
  simp [listing]

theorem getElem?_listing (fs : List CorpusFile) (i : Nat) :
    (listing fs)[i]? = fs[i]?.map fun f => f.result i := by
  rw [listing, List.getElem?_map, List.getElem?_zipIdx, Option.map_map]
  simp [Function.comp_def]

theorem take_listing (fs : List CorpusFile) (n : Nat) :
    (listing fs).take n = listing (fs.take n) := by
  refine List.ext_getElem? fun i => ?_
  rw [getElem?_listing, List.getElem?_take, List.getElem?_take, getElem?_listing]
  split <;> rfl

/-- A page is a stretch of the list, with the ranks that the list has. -/
theorem results_page (c : Corpus) (q : Query) (r : PageRequest) :
    (c.page q r).results = ((listing (c.matching q)).drop (r.page * r.perPage)).take r.perPage := by
  refine List.ext_getElem? fun i => ?_
  rw [List.getElem?_take, List.getElem?_drop, getElem?_listing]
  simp only [page, List.getElem?_map, List.getElem?_zipIdx, List.getElem?_take, List.getElem?_drop,
    Nat.zero_add]
  split
  · cases (c.matching q)[r.page * r.perPage + i]? <;> rfl
  · rfl

theorem url_result (f : CorpusFile) (rank : Nat) : (f.result rank).url = fileScheme ++ f.path := rfl

/-- A local file has no host, so nothing blocks it. -/
theorem blocks_result (blacklist : Blacklist) (f : CorpusFile) (rank : Nat) :
    blacklist.blocks (f.result rank).url = false := by
  have hhost : hostChars (fileScheme ++ f.path).toList = none := by
    rw [String.toList_append]
    rfl
  rw [Blacklist.blocks, url_result, hhost]

theorem path_eq_of_url {f g : CorpusFile} {i j : Nat} (h : (f.result i).url = (g.result j).url) :
    f.path = g.path := by
  have hchars := congrArg String.toList h
  rw [url_result, url_result, String.toList_append, String.toList_append] at hchars
  exact String.toList_inj.1 (List.append_cancel_left hchars)

/-- Nothing is dropped that comes once. -/
theorem eraseDupsBy_of_pairwise {α : Type} {r : α → α → Bool} {xs : List α}
    (h : xs.Pairwise fun a b => r b a = false) : xs.eraseDupsBy r = xs := by
  induction xs with
  | nil => rfl
  | cons x xs ih =>
      obtain ⟨hhead, htail⟩ := List.pairwise_cons.1 h
      rw [List.eraseDupsBy_cons, List.filter_eq_self.2 fun y hy => by simpa using hhead y hy,
        ih htail]

/-- A list of files with different paths is handed out as it is. -/
theorem tidied_listing (blacklist : Blacklist) {fs : List CorpusFile}
    (hdistinct : (fs.map (·.path)).Nodup) : tidied blacklist (listing fs) = listing fs := by
  have hall : (listing fs).filter (fun r => !blacklist.blocks r.url) = listing fs := by
    refine List.filter_eq_self.2 fun r hr => ?_
    obtain ⟨⟨f, i⟩, -, rfl⟩ := List.mem_map.1 hr
    simp [blocks_result]
  have honce : (listing fs).Pairwise fun r r' => (r'.url == r.url) = false := by
    have hpaths : fs.zipIdx.Pairwise fun a b => a.1.path ≠ b.1.path := by
      have hmap : fs.zipIdx.map (fun a => a.1.path) = fs.map (·.path) := by
        rw [← Function.comp_def (fun f : CorpusFile => f.path), ← List.map_map,
          List.zipIdx_map_fst]
      rw [← hmap] at hdistinct
      exact List.pairwise_map.1 hdistinct
    rw [listing, List.pairwise_map]
    refine hpaths.imp fun hpath => ?_
    rw [beq_eq_false_iff_ne]
    exact fun heq => hpath (path_eq_of_url heq).symm
  rw [tidied, hall, eraseDupsBy_of_pairwise honce]
  -- the ranks are the places already
  refine List.ext_getElem? fun i => ?_
  rw [List.getElem?_map, List.getElem?_zipIdx, getElem?_listing, Nat.zero_add]
  cases fs[i]? <;> rfl

/-! ### The replies of a corpus -/

theorem neverPanics_provider (c : Corpus) : c.provider.NeverPanics := by
  intro calls q request message hpanic
  exact nomatch hpanic

variable {calls requests : List PageRequest}

/-- Every reply is the page that was asked for, one page after the other. -/
theorem pagesOf_exchanges {k : Nat}
    (horder : InOrder k (c.provider.exchanges q calls requests)) :
    pagesOf (c.provider.exchanges q calls requests) =
      (List.range' k requests.length).map fun i => c.page q ⟨i, resultsPerPage⟩ := by
  induction requests generalizing k calls with
  | nil => rfl
  | cons r requests ih =>
      obtain ⟨rfl, hrest⟩ := horder
      replace hrest : InOrder (k + 1) (c.provider.exchanges q _ requests) := hrest
      rw [Provider.exchanges, List.length_cons, List.range'_succ, List.map_cons, ← ih hrest]
      rfl

/-- Stretches that follow each other are a stretch. -/
theorem flatMap_stretches {α : Type} (xs : List α) (width : Nat) (k n : Nat) :
    ((List.range' k n).flatMap fun i => (xs.drop (i * width)).take width) =
      (xs.drop (k * width)).take (n * width) := by
  induction n generalizing k with
  | zero => simp
  | succ n ih =>
      rw [List.range'_succ, List.flatMap_cons, ih, Nat.succ_mul, Nat.succ_mul, ← List.drop_drop,
        Nat.add_comm (n * width), List.take_add]

/-- So many pages hold the beginning of the list. -/
theorem resultsOf_exchanges (horder : InOrder 0 (c.provider.exchanges q calls requests)) :
    resultsOf (c.provider.exchanges q calls requests) =
      (listing (c.matching q)).take (requests.length * resultsPerPage) := by
  have hstretches := flatMap_stretches (listing (c.matching q)) resultsPerPage 0 requests.length
  rw [Nat.zero_mul, List.drop_zero] at hstretches
  rw [resultsOf, pagesOf_exchanges horder, List.flatMap_map, ← hstretches]
  simp only [results_page]

/-- The last page is the one that reaches the end of the list, also when it is full. -/
theorem saysLast_exchanges (horder : InOrder 0 (c.provider.exchanges q calls requests)) :
    saysLast false (c.provider.exchanges q calls requests) = true ↔
      0 < requests.length ∧ (c.matching q).length ≤ requests.length * resultsPerPage := by
  rw [saysLast, pagesOf_exchanges horder]
  rcases requests.length with _ | n
  · simp
  · rw [List.range'_concat, List.map_append, List.map_singleton, List.getLast?_concat]
    have hlast : ((c.page q ⟨0 + 1 * n, resultsPerPage⟩).last = true) ↔
        (c.matching q).length ≤ n * resultsPerPage + resultsPerPage := by simp [page]
    have hempty : (c.page q ⟨0 + 1 * n, resultsPerPage⟩).results = [] ↔
        (c.matching q).length ≤ n * resultsPerPage := by
      rw [results_page]
      simp [resultsPerPage]
    simp only [Bool.or_eq_true, List.isEmpty_iff, hlast, hempty]
    rw [Nat.succ_mul]
    omega

/-! ### Fetching them all -/

/-- Where the calls of `fetch` for a query have got. -/
structure Reaches (c : Corpus) (q : Query) (handed : List SearchResult) (cursor : Cursor) :
    Prop where
  /-- What is handed out, followed by what waits, is what the pages so far hold. -/
  stream : ∃ waiting, waiting.length = cursor.buffered.length ∧
    handed ++ waiting = (listing (c.matching q)).take (cursor.nextPage * resultsPerPage)
  exhausted : cursor.exhausted = true ↔
    0 < cursor.nextPage ∧ (c.matching q).length ≤ cursor.nextPage * resultsPerPage

theorem reaches_visits (hdistinct : (c.files.map (·.path)).Nodup) (blacklist : Blacklist)
    (q : Query) (calls : List PageRequest) (targets : List Nat) :
    c.Reaches q (handedOf (visits c.provider blacklist targets (.start q) calls))
      ((Cursor.start q).after (visits c.provider blacklist targets (.start q) calls)) := by
  have htours := tours_visits c.neverPanics_provider blacklist targets (.start q) calls
  generalize visits c.provider blacklist targets (.start q) calls = vs at htours ⊢
  obtain ⟨requests, -, hasked⟩ := htours.asked
  replace hasked : exchangesOf vs = c.provider.exchanges q calls requests := hasked
  have horder : InOrder 0 (c.provider.exchanges q calls requests) := hasked ▸ htours.order
  have hnext : ((Cursor.start q).after vs).nextPage = requests.length := by
    rw [htours.nextPage, hasked, pagesOf_exchanges horder, List.length_map, List.length_range']
    exact Nat.zero_add _
  have hresults : tidied blacklist (resultsOf (exchangesOf vs)) = resultsOf (exchangesOf vs) := by
    have htaken : (((c.matching q).take (requests.length * resultsPerPage)).map (·.path)).Nodup :=
      (nodup_matching hdistinct).sublist ((List.take_sublist _ _).map _)
    rw [hasked, resultsOf_exchanges horder, take_listing, tidied_listing blacklist htaken]
  have hstream : handedOf vs ++ ((Cursor.start q).after vs).waiting blacklist =
      resultsOf (exchangesOf vs) := by
    have hstream := htours.stream []
    rw [List.append_nil, List.append_nil] at hstream
    rw [← hresults, ← handOut_nil]
    exact hstream.symm
  refine ⟨⟨((Cursor.start q).after vs).waiting blacklist, ?_, ?_⟩, ?_⟩
  · -- nothing of what was left out is missing, so nothing was left out
    have hsum := congrArg List.length hstream
    have hsize := htours.size
    have hle := length_handOut_le blacklist ((Cursor.start q).after vs).seen
      ((Cursor.start q).after vs).nextRank ((Cursor.start q).after vs).buffered
    have hzero : (Cursor.start q).buffered.length = 0 := rfl
    rw [List.length_append] at hsum
    rw [waiting] at hsum ⊢
    omega
  · rw [hstream, hnext, hasked, resultsOf_exchanges horder]
  · have hlast := htours.exhausted
    rw [hasked] at hlast
    rw [hlast, hnext]
    exact saysLast_exchanges horder

/-- A cursor is done as soon as it has handed out the whole list. -/
theorem Reaches.isDone_iff {handed : List SearchResult} {cursor : Cursor}
    (h : c.Reaches q handed cursor) : cursor.isDone = true ↔
      0 < cursor.nextPage ∧ (c.matching q).length ≤ handed.length := by
  obtain ⟨waiting, hwaiting, hstream⟩ := h.stream
  have hsum := congrArg List.length hstream
  rw [List.length_append, List.length_take, length_listing, hwaiting] at hsum
  rw [isDone, Bool.and_eq_true, h.exhausted, List.isEmpty_iff_length_eq_zero]
  omega

/-- What is handed out is the beginning of the list. -/
theorem Reaches.isPrefix {handed : List SearchResult} {cursor : Cursor}
    (h : c.Reaches q handed cursor) : handed <+: listing (c.matching q) := by
  obtain ⟨waiting, -, hstream⟩ := h.stream
  have hstart : handed <+: handed ++ waiting := List.prefix_append handed waiting
  rw [hstream] at hstart
  exact hstart.trans (List.take_prefix _ _)

theorem Reaches.nextPage_pos {handed : List SearchResult} {cursor : Cursor}
    (h : c.Reaches q handed cursor) (hsome : handed ≠ []) : 0 < cursor.nextPage := by
  obtain ⟨waiting, -, hstream⟩ := h.stream
  refine Nat.pos_of_ne_zero fun hzero => hsome ?_
  rw [hzero, Nat.zero_mul, List.take_zero] at hstream
  exact (List.append_eq_nil_iff.1 hstream).1

/-- A corpus does not fail. -/
theorem not_endsIn {e : SearchError} : ¬ EndsIn e (c.provider.exchanges q calls requests) := by
  rintro ⟨x, hlast, hreply⟩
  have hx := List.mem_of_getLast? hlast
  clear hlast
  induction requests generalizing calls with
  | nil => simp [Provider.exchanges] at hx
  | cons r requests ih =>
      rcases List.mem_cons.1 hx with rfl | hlater
      · cases hreply
      · exact ih hlater

variable {blacklist : Blacklist} {targets : List Nat}

theorem answer_visit (c : Corpus) (blacklist : Blacklist) (target : Nat) (cursor : Cursor)
    (calls : List PageRequest) : (cursor.visit c.provider blacklist target calls).answer =
      .value (cursor.visit c.provider blacklist target calls).handed := by
  rcases (keeps_visit c.neverPanics_provider target cursor calls).ends with hvalue | ⟨e, -, hends⟩
  · exact hvalue
  · exact absurd hends not_endsIn

/-- A call that hands out nothing leaves the cursor done, or has moved it on by pages that held
nothing new. -/
theorem visit_of_handed_eq_nil {target : Nat} (hpos : 0 < target) {cursor : Cursor}
    (h : (cursor.visit c.provider blacklist target calls).handed = []) :
    (cursor.visit c.provider blacklist target calls).cursor.buffered = [] ∧
      ((cursor.visit c.provider blacklist target calls).cursor.isDone = true ∨
        cursor.nextPage < (cursor.visit c.provider blacklist target calls).cursor.nextPage) := by
  have hless : (cursor.visit c.provider blacklist target calls).handed.length < target := by
    rw [h]
    exact hpos
  refine ⟨buffered_visit c.neverPanics_provider hless, ?_⟩
  have hkeeps : (cursor.visit c.provider blacklist target calls).Keeps :=
    keeps_visit c.neverPanics_provider target cursor calls
  rcases hkeeps.short (answer_visit c blacklist target cursor calls) hless with
    hdone | hpages | ⟨-, hcollected⟩
  · exact .inl hdone
  · right
    have htours := tours_visit c.neverPanics_provider blacklist target cursor calls
    have hnext := htours.nextPage
    rw [after_singleton, exchangesOf, List.flatMap_singleton, hpages] at hnext
    rw [hnext]
    exact Nat.lt_add_of_pos_right (by decide)
  · exact absurd h hcollected

/-- Every call hands out something, until nothing is left. -/
theorem progress_visits (hdistinct : (c.files.map (·.path)).Nodup)
    (hpos : ∀ target ∈ targets, 0 < target)
    (hopen : ((Cursor.start q).after
      (visits c.provider blacklist targets (.start q) calls)).isDone = false) :
    targets.length ≤ (handedOf (visits c.provider blacklist targets (.start q) calls)).length := by
  induction targets using List.reverseRecOn with
  | nil => exact Nat.zero_le _
  | append_singleton targets target ih =>
      have hbefore := reaches_visits hdistinct blacklist q calls targets
      have hafter := reaches_visits hdistinct blacklist q calls (targets ++ [target])
      rw [visits_concat] at hopen hafter ⊢
      generalize visits c.provider blacklist targets (.start q) calls = vs at *
      rw [after_concat] at hopen hafter
      rw [handedOf_concat] at hafter ⊢
      -- the calls before have not come to the end either
      have hstill : ((Cursor.start q).after vs).isDone = false := by
        by_contra hdone
        rw [visit_of_isDone (by simpa using hdone)] at hopen
        exact hdone hopen
      have hlength := ih (fun t ht => hpos t (List.mem_append_left _ ht)) hstill
      have htarget : 0 < target := hpos target (List.mem_append_right _ (List.mem_singleton_self _))
      rw [List.length_append, List.length_append]
      refine Nat.add_le_add hlength (Nat.pos_of_ne_zero fun hnone => ?_)
      -- a call that hands out nothing has fetched new pages, which are behind the last result
      have hempty := List.eq_nil_of_length_eq_zero hnone
      obtain ⟨hbuffered, hdone | hnext⟩ := visit_of_handed_eq_nil htarget hempty
      · exact Bool.false_ne_true (hopen.symm.trans hdone)
      · refine Bool.false_ne_true (hopen.symm.trans (hafter.isDone_iff.2 ⟨by omega, ?_⟩))
        obtain ⟨waiting, -, hstream⟩ := hbefore.stream
        obtain ⟨waiting', hwaiting', hstream'⟩ := hafter.stream
        have hle := congrArg List.length hstream
        have hle' := congrArg List.length hstream'
        rw [hbuffered] at hwaiting'
        simp only [hempty, List.length_append, List.length_take, length_listing, hwaiting',
          List.length_nil, Nat.add_zero] at hle hle' ⊢
        rw [resultsPerPage] at hle hle'
        omega

/-- After a call, some page has been fetched. -/
theorem nextPage_pos_visits (hdistinct : (c.files.map (·.path)).Nodup) (hsome : targets ≠ [])
    (hpos : ∀ target ∈ targets, 0 < target) :
    0 < ((Cursor.start q).after
      (visits c.provider blacklist targets (.start q) calls)).nextPage := by
  obtain ⟨before, target, rfl⟩ : ∃ before target, targets = before ++ [target] :=
    ⟨_, _, (List.dropLast_concat_getLast hsome).symm⟩
  have hafter := reaches_visits hdistinct blacklist q calls (before ++ [target])
  have htarget : 0 < target := hpos target (List.mem_append_right _ (List.mem_singleton_self _))
  rw [visits_concat] at hafter ⊢
  generalize visits c.provider blacklist before (.start q) calls = vs at *
  rw [after_concat, handedOf_concat] at *
  by_cases hnone : (((Cursor.start q).after vs).visit c.provider blacklist target
      (callsAfter calls vs)).handed = []
  · rcases (visit_of_handed_eq_nil htarget hnone).2 with hdone | hnext
    · exact (hafter.isDone_iff.1 hdone).1
    · exact Nat.zero_lt_of_lt hnext
  · exact hafter.nextPage_pos fun hnil => hnone (List.append_eq_nil_iff.1 hnil).2

/-- The calls of `fetch` for a query have handed out nothing but these files as they stand here, and
the cursor is done when it has handed out all of them. -/
structure Covers (c : Corpus) (q : Query) (fs : List CorpusFile) (vs : List Visit)
    (cursor : Cursor) : Prop where
  /-- These are the files with a hit. -/
  mem_iff : ∀ f, f ∈ fs ↔ f ∈ c.files ∧ c.Meets q f
  once : (fs.map (·.path)).Nodup
  ordered : fs.Pairwise (Precedes (lowerWords q.text))
  answered : ∀ v ∈ vs, v.answer = .value v.handed
  handed : handedOf vs <+: listing fs
  /-- The provider has ranked them so. -/
  ranked : ∀ r ∈ handedOf vs, ∃ k, r ∈ (c.page q ⟨k, resultsPerPage⟩).results
  isDone_iff : cursor.isDone = true ↔ ∀ f ∈ fs, ∃ rank, f.result rank ∈ handedOf vs
  complete : cursor.isDone = true → handedOf vs = listing fs
  /-- So many calls are enough. -/
  reached : fs.length ≤ vs.length → cursor.isDone = true

theorem answered_visits {cursor : Cursor} {v : Visit}
    (hv : v ∈ visits c.provider blacklist targets cursor calls) : v.answer = .value v.handed := by
  induction targets generalizing cursor calls with
  | nil => simp [visits] at hv
  | cons target targets ih =>
      rcases List.mem_cons.1 hv with rfl | hlater
      · exact answer_visit c blacklist target cursor calls
      · exact ih hlater

/-- Every result in the list is on a page. -/
theorem exists_page_of_mem {r : SearchResult} (hr : r ∈ listing (c.matching q)) :
    ∃ k, r ∈ (c.page q ⟨k, resultsPerPage⟩).results := by
  obtain ⟨i, hi⟩ := List.mem_iff_getElem?.1 hr
  refine ⟨i / resultsPerPage, List.mem_iff_getElem?.2 ⟨i % resultsPerPage, ?_⟩⟩
  rw [results_page, List.getElem?_take, List.getElem?_drop, Nat.div_add_mod', hi,
    if_pos (Nat.mod_lt i (by decide))]

/-- The first results name all files only if they are all results. -/
theorem length_le_of_forall_exists {fs : List CorpusFile} {handed : List SearchResult}
    (hdistinct : (fs.map (·.path)).Nodup) (hstart : handed <+: listing fs)
    (hall : ∀ f ∈ fs, ∃ rank, f.result rank ∈ handed) : fs.length ≤ handed.length := by
  by_contra hless
  rw [Nat.not_le] at hless
  -- the first file that is not handed out would be one of those before it
  obtain ⟨f, hf⟩ : ∃ f, fs[handed.length]? = some f := ⟨_, List.getElem?_eq_getElem hless⟩
  obtain ⟨rank, hmem⟩ := hall f (List.mem_of_getElem? hf)
  obtain ⟨j, hget⟩ := List.mem_iff_getElem?.1 hmem
  obtain ⟨hj, -⟩ := List.getElem?_eq_some_iff.1 hget
  obtain ⟨rest, hrest⟩ := hstart
  have hlisted : (listing fs)[j]? = some (f.result rank) := by
    rw [← hrest, List.getElem?_append_left hj, hget]
  rw [getElem?_listing] at hlisted
  obtain ⟨g, hg, hresult⟩ := Option.map_eq_some_iff.1 hlisted
  have hpath : g.path = f.path := path_eq_of_url (congrArg SearchResult.url hresult)
  have hsame : (fs.map (·.path))[handed.length]? = (fs.map (·.path))[j]? := by
    rw [List.getElem?_map, List.getElem?_map, hf, hg, Option.map_some, Option.map_some, hpath]
  have hplace : handed.length = j :=
    (List.getElem?_inj (by rwa [List.length_map]) hdistinct).1 hsame
  omega

/-- **A cursor hands out all matching files, in order, and knows when it has.** Whatever is
blacklisted, and however many results each call asks for: the cursor is done iff every file with a
hit has been handed out, it is done after as many calls as there are such files, and then it has
handed out each of them once, the files with more hits first and those with as many in the order of
their paths, with the ranks that the corpus gave. -/
theorem covers_visits (c : Corpus) (q : Query) (blacklist : Blacklist) (calls : List PageRequest)
    (targets : List Nat) (hdistinct : (c.files.map (·.path)).Nodup) (hsome : targets ≠ [])
    (hpos : ∀ target ∈ targets, 0 < target) :
    c.Covers q (c.matching q) (visits c.provider blacklist targets (.start q) calls)
      ((Cursor.start q).after (visits c.provider blacklist targets (.start q) calls)) := by
  have hreaches := reaches_visits hdistinct blacklist q calls targets
  have hnodup : ((c.matching q).map (·.path)).Nodup := nodup_matching hdistinct
  have hdone : ((Cursor.start q).after
      (visits c.provider blacklist targets (.start q) calls)).isDone = true ↔
      (c.matching q).length ≤
        (handedOf (visits c.provider blacklist targets (.start q) calls)).length := by
    rw [hreaches.isDone_iff]
    exact and_iff_right (nextPage_pos_visits hdistinct hsome hpos)
  have hcomplete (hle : (c.matching q).length ≤
      (handedOf (visits c.provider blacklist targets (.start q) calls)).length) :
      handedOf (visits c.provider blacklist targets (.start q) calls) = listing (c.matching q) :=
    hreaches.isPrefix.eq_of_length_le (by rwa [length_listing])
  exact
    { mem_iff := fun f => mem_matching
      once := hnodup
      ordered := pairwise_matching c q
      answered := fun v hv => answered_visits hv
      handed := hreaches.isPrefix
      ranked := fun r hr => exists_page_of_mem (hreaches.isPrefix.mem hr)
      isDone_iff := by
        rw [hdone]
        refine ⟨fun hle f hf => ?_, length_le_of_forall_exists hnodup hreaches.isPrefix⟩
        obtain ⟨i, hi⟩ := List.mem_iff_getElem?.1 hf
        refine ⟨i, ?_⟩
        rw [hcomplete hle]
        exact List.mem_of_getElem? ((getElem?_listing ..).trans (by rw [hi]; rfl))
      complete := fun h => hcomplete (hdone.1 h)
      reached := fun hlength => by
        by_contra hopen
        have hprogress := progress_visits hdistinct hpos (by simpa using hopen)
        rw [length_visits] at hlength
        exact hopen (hdone.2 (Nat.le_trans hlength hprogress)) }

/-- Ten texts with the word and one without it, in a folder that a restricted search looks into,
and one text outside of it. -/
def shelf : Corpus where
  root := "/texts"
  files :=
    (List.range 10).map (fun i =>
      ⟨"/texts/news/" ++ toString i, toString i, "", "", List.replicate (1 + i / 6) "river"⟩) ++
    [⟨"/texts/news/none", "none", "", "", ["lake"]⟩, ⟨"/texts/old", "old", "", "", ["river"]⟩]
  chosen := ["/texts/news"]

/-- The query for the shelf. -/
def riverInNews : Query := ⟨.english, "A River", true⟩

/-- The results fill one page. With the last of ten calls, the cursor knows that there is no other
page. -/
theorem covers_shelf :
    let vs := visits shelf.provider .empty (List.replicate 10 1) (.start riverInNews) []
    (shelf.files.map (·.path)).Nodup ∧
    shelf.Covers riverInNews (shelf.matching riverInNews) vs ((Cursor.start riverInNews).after vs) ∧
    ((Cursor.start riverInNews).after vs).isDone = true ∧ (handedOf vs).length = 10 := by
  have hdistinct : (shelf.files.map (·.path)).Nodup := by decide +kernel
  have hcovers := covers_visits shelf riverInNews .empty [] (List.replicate 10 1) hdistinct
    (by decide) (by decide)
  have hten : (shelf.matching riverInNews).length = 10 := by
    rw [(matching_perm shelf riverInNews).length_eq]
    decide +kernel
  have hdone := hcovers.reached (Nat.le_of_eq
    (by rw [length_visits, hten, List.length_replicate]))
  refine ⟨hdistinct, hcovers, hdone, ?_⟩
  rw [hcovers.complete hdone, length_listing, hten]

end Corpus

end GradedReading.Files
