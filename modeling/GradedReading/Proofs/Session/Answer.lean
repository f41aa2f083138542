import GradedReading.Proofs.Session.Step

/-!
# GradedReading.Proofs.Session.Answer

How the calls that begin operations are answered.

**Key idea:** the table of acts says what a session becomes, but not what the caller is told.
`Answer` is the table of the three calls with their answers: the session is busy, what is asked for
is refused, the relay of the new operation cannot be started, or the operation is launched. Each
refusal has its own reason, and nothing but the reason decides which error the caller gets.
-/

namespace GradedReading

open Search

namespace Session

/-- The answer of a call that begins an operation, and the session after it. There is none if the
act is another one, or as long as the call has to wait. -/
def begins? (sv : Services) (s : Session) : Act → Option (Except OperationError Nat × Session)
  | .search q target keywords obstacle => s.search sv q target keywords obstacle
  | .parse l sources keywords obstacle => s.parse sv l sources keywords obstacle
  | .more target obstacle => s.more sv target obstacle
  | _ => none

/-- What keeps the relay of a new operation from being started. -/
def Act.obstacle : Act → Option String
  | .search _ _ _ obstacle | .parse _ _ _ obstacle | .more _ obstacle => obstacle
  | _ => none

/-- Why a session that has retired its last operation refuses to begin another one, and the cursor
that it keeps. -/
inductive Refusal (sv : Services) (s : Session) : Act → OperationError → Option Cursor → Prop
  | search {q : Query} (h : sv.parsers.supports q.language = false) (target : Nat)
      (keywords : KeywordSet) (obstacle : Option String) :
      Refusal sv s (.search q target keywords obstacle) (.unsupportedLanguage q.language) s.cursor
  | parse {l : Language} (h : sv.parsers.supports l = false) (sources : List Source)
      (keywords : KeywordSet) (obstacle : Option String) :
      Refusal sv s (.parse l sources keywords obstacle) (.unsupportedLanguage l) s.cursor
  | noCursor (h : s.cursor = none) (target : Nat) (obstacle : Option String) :
      Refusal sv s (.more target obstacle) .noCursor s.cursor
  /-- The language of the search was supported when it began. -/
  | more {c : Cursor} (hc : s.cursor = some c) (h : sv.parsers.supports c.query.language = false)
      (target : Nat) (obstacle : Option String) :
      Refusal sv s (.more target obstacle) (.unsupportedLanguage c.query.language) none

section Errand

variable {s : Session} {a : Act} {o : Operation} {cursor : Option Cursor}
  {base : Option Collection} {keywords : KeywordSet}

theorem Errand.begun_eq (h : Errand s a o cursor base keywords) : o.begun = false := by
  cases h <;> rfl

theorem Errand.isBeginning (h : Errand s a o cursor base keywords) : a.isBeginning = true := by
  cases h <;> rfl

/-- Whoever begins an operation leaves the cursor or takes it away. -/
theorem Errand.cursor_cases (h : Errand s a o cursor base keywords) :
    cursor = s.cursor ∨ cursor = none := by
  cases h with
  | search => exact .inl rfl
  | parse | more => exact .inr rfl

theorem Refusal.cursor_cases {sv : Services} {e : OperationError}
    (h : Refusal sv s a e cursor) : cursor = s.cursor ∨ cursor = none := by
  cases h with
  | search | parse | noCursor => exact .inl rfl
  | more => exact .inr rfl

end Errand

/-- How a call that begins an operation is answered, and what the session is after it. -/
inductive Answer (sv : Services) (s : Session) (a : Act) :
    Except OperationError Nat → Session → Prop
  | busy (hfree : s.isLocked = false) (h : s.isRunning = true) :
      Answer sv s a (.error .previousStateNotCleared) s
  | refused {e : OperationError} {cursor : Option Cursor} (hroom : s.HasRoom)
      (h : Refusal sv s.retire a e cursor) : Answer sv s a (.error e) { s.retire with cursor }
  /-- The operation was added, but it is not begun. -/
  | unrelayed {o : Operation} {cursor : Option Cursor} {base : Option Collection}
      {keywords : KeywordSet} {reason : String} (hroom : s.HasRoom)
      (h : Errand s.retire a o cursor base keywords)
      (hsupports : sv.parsers.supports o.job.language = true)
      (hobstacle : a.obstacle = some reason) :
      Answer sv s a (.error (.relayStart reason)) { s.retire with
        pipeline := s.retire.pipeline.added o, cursor, base, keywords, queue := .empty }
  | launched {o : Operation} {cursor : Option Cursor} {base : Option Collection}
      {keywords : KeywordSet} (hroom : s.HasRoom) (h : Errand s.retire a o cursor base keywords)
      (hsupports : sv.parsers.supports o.job.language = true) :
      Answer sv s a (.ok s.retire.pipeline.operations.length) (s.launching o cursor base keywords)

variable {sv : Services} {s s' : Session} {a : Act} {answer : Except OperationError Nat}

/-- What an act makes of a session, if it is a call that begins an operation. -/
theorem act?_of_begins? (h : s.begins? sv a = some (answer, s')) : s.act? sv a = some s' := by
  cases a with
  | search | parse | more => exact congrArg (Option.map (·.2)) h
  | _ => simp [begins?] at h

/-- What is known of such a call before it is known what it asks for. -/
theorem enter_cases {create : Session → Except OperationError Nat × Session}
    {prepare : Session → Session} {obstacle : Option String}
    {r : Except OperationError Nat × Session} (h : enter create prepare obstacle s = some r) :
    (s.isLocked = false ∧ s.isRunning = true ∧ r = (.error .previousStateNotCleared, s)) ∨
      s.HasRoom ∧ r = match create s.retire with
        | (.error e, s₁) => (.error e, s₁)
        | (.ok n, s₁) => (prepare s₁).launch obstacle n := by
  obtain ⟨room, hroom, rfl⟩ := Option.map_eq_some_iff.1 h
  unfold makeRoom at hroom
  split at hroom
  · simp at hroom
  next hlocked =>
  split at hroom
  · next hrunning =>
    obtain rfl := Option.some.inj hroom
    exact .inl ⟨by simpa using hlocked, hrunning, rfl⟩
  next hrunning =>
  split at hroom
  · simp at hroom
  next hrelaying =>
  obtain rfl := Option.some.inj hroom
  exact .inr ⟨⟨by simpa using hlocked, by simpa using hrunning, by simpa using hrelaying⟩, rfl⟩

/-- An operation that was added is launched unless its relay cannot be started. -/
theorem answer_launch {o : Operation} {cursor : Option Cursor} {base : Option Collection}
    {keywords : KeywordSet} (hroom : s.HasRoom) (h : Errand s.retire a o cursor base keywords)
    (hsupports : sv.parsers.supports o.job.language = true) {s₁ : Session}
    (hs₁ : s₁ = { s.retire with
      pipeline := s.retire.pipeline.added o, cursor, base, keywords })
    (hlaunch : (answer, s') = s₁.launch a.obstacle s.retire.pipeline.operations.length) :
    Answer sv s a answer s' := by
  have hbegun := h.begun_eq
  rcases hobstacle : a.obstacle with _ | reason
  · rcases launch_added hbegun s₁ s.retire.pipeline (by rw [hs₁]) none with ⟨_, hnone⟩ | hnone
    · simp [launch, hs₁, Pipeline.begin_added hbegun] at hnone
    · rw [hobstacle, hnone, hs₁] at hlaunch
      obtain ⟨rfl, rfl⟩ := Prod.mk.inj hlaunch
      exact .launched hroom h hsupports
  · rw [hobstacle, hs₁] at hlaunch
    obtain ⟨rfl, rfl⟩ := Prod.mk.inj hlaunch
    exact .unrelayed hroom h hsupports hobstacle

theorem answer_search {q : Query} {target : Nat} {keywords : KeywordSet}
    {obstacle : Option String}
    (h : s.search sv q target keywords obstacle = some (answer, s')) :
    Answer sv s (.search q target keywords obstacle) answer s' := by
  rcases enter_cases h with ⟨hfree, hrunning, hr⟩ | ⟨hroom, hr⟩
  · obtain ⟨rfl, rfl⟩ := Prod.mk.inj hr
    exact .busy hfree hrunning
  · by_cases hsupports : sv.parsers.supports q.language = true
    · simp only [Pipeline.search, Pipeline.searchMore, Pipeline.add, Cursor.start, hsupports,
        if_true] at hr
      exact answer_launch hroom (.search q target keywords obstacle) hsupports rfl hr
    · simp only [Pipeline.search, Pipeline.searchMore, Pipeline.add, Cursor.start, hsupports,
        Bool.false_eq_true, if_false] at hr
      obtain ⟨rfl, rfl⟩ := Prod.mk.inj hr
      exact .refused hroom (.search (by simpa using hsupports) target keywords obstacle)

theorem answer_parse {l : Language} {sources : List Source} {keywords : KeywordSet}
    {obstacle : Option String}
    (h : s.parse sv l sources keywords obstacle = some (answer, s')) :
    Answer sv s (.parse l sources keywords obstacle) answer s' := by
  rcases enter_cases h with ⟨hfree, hrunning, hr⟩ | ⟨hroom, hr⟩
  · obtain ⟨rfl, rfl⟩ := Prod.mk.inj hr
    exact .busy hfree hrunning
  · by_cases hsupports : sv.parsers.supports l = true
    · simp only [Pipeline.parse, Pipeline.add, hsupports, if_true] at hr
      exact answer_launch hroom (.parse l sources keywords obstacle) hsupports rfl hr
    · simp only [Pipeline.parse, Pipeline.add, hsupports, Bool.false_eq_true, if_false] at hr
      obtain ⟨rfl, rfl⟩ := Prod.mk.inj hr
      exact .refused hroom (.parse (by simpa using hsupports) sources keywords obstacle)

theorem answer_more {target : Nat} {obstacle : Option String}
    (h : s.more sv target obstacle = some (answer, s')) :
    Answer sv s (.more target obstacle) answer s' := by
  rcases enter_cases h with ⟨hfree, hrunning, hr⟩ | ⟨hroom, hr⟩
  · obtain ⟨rfl, rfl⟩ := Prod.mk.inj hr
    exact .busy hfree hrunning
  · rcases hcursor : s.retire.cursor with _ | c
    · simp only [hcursor] at hr
      obtain ⟨rfl, rfl⟩ := Prod.mk.inj hr
      exact .refused hroom (.noCursor hcursor target obstacle)
    · by_cases hsupports : sv.parsers.supports c.query.language = true
      · simp only [hcursor, Pipeline.searchMore, Pipeline.add, hsupports, if_true] at hr
        exact answer_launch hroom (.more hcursor target obstacle) hsupports rfl hr
      · simp only [hcursor, Pipeline.searchMore, Pipeline.add, hsupports, Bool.false_eq_true,
          if_false] at hr
        obtain ⟨rfl, rfl⟩ := Prod.mk.inj hr
        exact .refused hroom (.more hcursor (by simpa using hsupports) target obstacle)

/-- **Every answer is in the table.** -/
theorem answer_of_begins? (h : s.begins? sv a = some (answer, s')) : Answer sv s a answer s' := by
  cases a with
  | search => exact answer_search h
  | parse => exact answer_parse h
  | more => exact answer_more h
  | _ => simp [begins?] at h

end Session

end GradedReading
