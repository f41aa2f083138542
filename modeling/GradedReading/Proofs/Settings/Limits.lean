import GradedReading.Pipeline.Task
import GradedReading.Settings.File
import GradedReading.Proofs.Format.Integer
import GradedReading.Proofs.Pool.Lost
import Mathlib

/-!
# GradedReading.Proofs.Settings.Limits

Time limits from a settings file, and the tasks that they cost.

A settings file may set any number of seconds below `2 ^ 64` as the time limit of a stage, and the
pool of that stage takes it as it is. The clock ends after `2 ^ 63` seconds.

**Key idea:** how many seconds the clock shows and how many the file allows decide alone whether a
deadline can be told.
-/

namespace GradedReading

open Number

/-! ### The clock -/

namespace Moment

/-- The whole seconds of a moment. -/
def seconds (m : Moment) : Int := m.nanos / Duration.perSecond

/-- A deadline in `n` seconds cannot be told when it is beyond the end of the clock. -/
theorem after?_ofSeconds_eq_none_iff {now : Moment} (htold : now.isTold = true) (n : Nat) :
    now.after? (.ofSeconds n) = none ↔ 2 ^ 63 ≤ now.seconds + n := by
  have hend : Nat.pow 2 63 = 9223372036854775808 := rfl
  simp only [isTold, Bool.and_eq_true, decide_eq_true_eq] at htold
  simp only [after?, isTold, ite_eq_right_iff, reduceCtorEq, imp_false, Bool.and_eq_true,
    decide_eq_true_eq]
  simp only [limit, seconds, Duration.ofSeconds, Duration.perSecond, hend] at *
  omega

end Moment

/-! ### What a file can set -/

namespace Format.Toml

theorem Value.lt_of_natural? {v : Value} {n : Nat} (h : v.natural? = some n) : n < 2 ^ 64 := by
  have hend : Nat.pow 2 64 = 18446744073709551616 := rfl
  unfold natural? at h
  split at h
  · next m =>
    obtain ⟨⟨hnonneg, hlt⟩, rfl⟩ : (0 ≤ m ∧ m < Nat.pow 2 64) ∧ m.toNat = n := by simpa using h
    omega
  · cases h

theorem Value.natural?_integer {n : Nat} (h : n < 2 ^ 64) :
    (Value.integer (some n)).natural? = some n := by
  have hend : Nat.pow 2 64 = 18446744073709551616 := rfl
  rw [natural?, if_pos (by simp; omega), Int.toNat_natCast]

/-- A statement that fills its line, and those that follow. -/
theorem statementsFrom?_cons {steps : Nat} {cs rest next : List Char} {s : Statement}
    {later : List Statement} (hskip : skipTrivia false cs = some cs) (hne : cs ≠ [])
    (hs : statement? (2 * (cs.length + 2)) cs = some (s, rest)) (hend : lineEnd? rest = some next)
    (hlater : statementsFrom? steps next = some later) :
    statementsFrom? (steps + 1) cs = some (s :: later) := by
  obtain ⟨c, cs, rfl⟩ := List.exists_cons_of_ne_nil hne
  rw [List.length_cons] at hs
  simp [statementsFrom?, hskip, hs, hend, hlater]

end Format.Toml

/-- One stage has this thing, and the others have none. -/
def PerStage.only {α : Type} (stage : Stage) (x : α) : PerStage (Option α) :=
  ⟨if stage = .search then some x else none, if stage = .crawl then some x else none,
    if stage = .parse then some x else none⟩

theorem PerStage.get_only {α : Type} (stage : Stage) (x : α) :
    (only stage x).get stage = some x := by cases stage <;> rfl

namespace Settings

open Format.Toml

/-- The key of the time limit of a stage. -/
def limitKey (stage : Stage) : String := stage.name ++ "_timeout_secs"

/-- A settings file that sets the time limit of one stage, in seconds. -/
def limiting (stage : Stage) (n : Nat) : String :=
  "[pipeline]\n" ++ limitKey stage ++ " = " ++ String.ofList (decimalDigits n)

/-- The line that sets the time limit. -/
def limitLine (stage : Stage) (n : Nat) : List Char :=
  (limitKey stage).toList ++ ' ' :: '=' :: ' ' :: decimalDigits n

theorem pair?_limitLine (stage : Stage) (n steps : Nat) :
    pair? (steps + 2) 0 (limitLine stage n) = some ([limitKey stage], .integer (some n), []) := by
  have hkey : key? (limitLine stage n) =
      some ([limitKey stage], '=' :: ' ' :: decimalDigits n) := by cases stage <;> rfl
  have hvalue : skipSpaces (' ' :: decimalDigits n) = decimalDigits n := by
    obtain ⟨c, ds, heq, hc⟩ := exists_decimalDigits_eq_cons n
    have hspace : isSpace c = false := by
      rw [isSpace, beq_of_isDigit hc (by decide), beq_of_isDigit hc (by decide), Bool.or_self]
    have hblank : isSpace ' ' = true := rfl
    rw [heq, skipSpaces, List.dropWhile_cons_of_pos hblank,
      List.dropWhile_cons_of_neg (by simp [hspace])]
  rw [pair?, hkey]
  have hequals : skipSpaces ('=' :: ' ' :: decimalDigits n) = '=' :: ' ' :: decimalDigits n := rfl
  simp [hequals, hvalue, value?_decimalDigits]

theorem statement?_limitLine (stage : Stage) (n steps : Nat) :
    statement? (steps + 2) (limitLine stage n) =
      some (.assign [limitKey stage] (.integer (some n)), []) := by
  have hassign : statement? (steps + 2) (limitLine stage n) =
      (pair? (steps + 2) 0 (limitLine stage n)).bind fun r => some (.assign r.1 r.2.1, r.2.2) := by
    cases stage <;> rfl
  rw [hassign, pair?_limitLine, Option.bind_some]

theorem statements?_limiting (stage : Stage) (n : Nat) : statements? (limiting stage n).toList =
    some [.openTable ["pipeline"], .assign [limitKey stage] (.integer (some n))] := by
  have htext : (limiting stage n).toList = "[pipeline]\n".toList ++ limitLine stage n := by
    simp [limiting, limitLine]
  have hline : skipTrivia false (limitLine stage n) = some (limitLine stage n) := by
    cases stage <;> rfl
  have hsecond (steps : Nat) : statementsFrom? (steps + 2) (limitLine stage n) =
      some [.assign [limitKey stage] (.integer (some n))] :=
    statementsFrom?_cons hline (by simp [limitLine]) (statement?_limitLine stage n _) rfl rfl
  rw [htext]
  exact statementsFrom?_cons rfl (by simp) rfl hline (hsecond _)

theorem read?_limiting (stage : Stage) (n : Nat) : read? (limiting stage n) =
    some (.table .header [("pipeline", .table .header [(limitKey stage, .integer (some n))])]) := by
  rw [read?, statements?_limiting]
  rfl

namespace File

variable {file file' : File} {section? : Option Value}

/-- The time limits of a section are what its keys stand for. -/
theorem timeLimits_readPipeline (h : file.readPipeline section? = some file') :
    file' = file ∨ ∃ values : PerStage (Option Value),
      ∀ stage, optional Value.natural? (values.get stage) = some (file'.timeLimits.get stage) := by
  cases section? with
  | none => exact .inl (Option.some.inj h).symm
  | some v =>
      simp only [readPipeline, Option.bind_eq_bind, Option.bind_eq_some_iff] at h
      obtain ⟨fields, -, h⟩ := h
      split at h
      · next _ _ _ search crawl parse _ =>
        simp only [Option.bind_eq_some_iff] at h
        obtain ⟨_, -, _, -, _, -, s, hs, c, hc, p, hp, _, -, h⟩ := h
        obtain rfl : _ = file' := Option.some.inj h
        exact .inr ⟨⟨search, crawl, parse⟩, by rintro (_ | _ | _) <;> assumption⟩
      · cases h

theorem timeLimits_readRanking (h : file.readRanking section? = some file') :
    file'.timeLimits = file.timeLimits := by
  cases section? with
  | none => rw [← Option.some.inj h]
  | some v =>
      simp only [readRanking, Option.bind_eq_bind, Option.bind_eq_some_iff] at h
      obtain ⟨fields, -, h⟩ := h
      split at h
      · simp only [Option.bind_eq_some_iff] at h
        obtain ⟨_, -, _, -, _, -, h⟩ := h
        rw [← Option.some.inj h]
      · cases h

/-- A file sets less than `2 ^ 64` seconds. -/
theorem lt_of_timeLimits {text : String} (h : ofText? text = some file) {stage : Stage} {n : Nat}
    (hn : file.timeLimits.get stage = some n) : n < 2 ^ 64 := by
  simp only [ofText?, Option.bind_eq_bind, Option.bind_eq_some_iff] at h
  obtain ⟨root, -, fields, -, h⟩ := h
  split at h
  · obtain ⟨file₁, hpipeline, hranking⟩ := Option.bind_eq_some_iff.1 h
    rw [timeLimits_readRanking hranking] at hn
    obtain rfl | ⟨values, hvalues⟩ := timeLimits_readPipeline hpipeline
    · -- a file without the section sets nothing
      cases stage <;> cases hn
    · have hvalue := hvalues stage
      rw [hn] at hvalue
      generalize values.get stage = value? at hvalue
      cases value? with
      | none => cases hvalue
      | some v =>
          obtain ⟨m, hm, hmn⟩ := Option.map_eq_some_iff.1 hvalue
          exact Option.some.inj hmn ▸ Value.lt_of_natural? hm
  · cases h

theorem readPipeline_only {v : Value} {n : Nat} (hv : v.natural? = some n) (stage : Stage) :
    silent.readPipeline (some (.table .header [(limitKey stage, v)])) =
      some { silent with timeLimits := .only stage n } := by
  have hfields : (Value.table .header [(limitKey stage, v)]).fields? pipelineKeys =
      some [none, none, none, (PerStage.only stage v).search, (PerStage.only stage v).crawl,
        (PerStage.only stage v).parse, none] := by cases stage <;> rfl
  simp only [readPipeline, hfields, Option.bind_eq_bind, Option.bind_some]
  cases stage <;> simp [PerStage.only, optional, hv, silent, PerStage.all]

/-- Every number of seconds below `2 ^ 64` can be set for every stage. -/
theorem ofText?_limiting (stage : Stage) {n : Nat} (h : n < 2 ^ 64) :
    ofText? (limiting stage n) = some { silent with timeLimits := .only stage n } := by
  have hfields : (Value.table .header
      [("pipeline", .table .header [(limitKey stage, .integer (some n))])]).fields?
      ["pipeline", "ranking"] = some [some (.table .header [(limitKey stage, .integer (some n))]),
        none] := rfl
  have hpipeline := readPipeline_only (Value.natural?_integer h) stage
  simp only [ofText?, read?_limiting, hfields, hpipeline, Option.bind_eq_bind, Option.bind_some]
  rfl

/-- **A file can set every number of seconds below `2 ^ 64`,** and no other. -/
theorem exists_timeLimit_iff (stage : Stage) (n : Nat) :
    (∃ text file, ofText? text = some file ∧ file.timeLimits.get stage = some n) ↔ n < 2 ^ 64 := by
  constructor
  · rintro ⟨text, file, hfile, hn⟩
    exact lt_of_timeLimits hfile hn
  · intro h
    exact ⟨limiting stage n, _, ofText?_limiting stage h, PerStage.get_only stage n⟩

/-! ### What it costs -/

theorem timeLimits_applyTo (s : Settings) {stage : Stage} {n : Nat}
    (h : file.timeLimits.get stage = some n) :
    (file.applyTo s).timeLimits.get stage = limitOfSeconds n := by
  cases stage <;>
    (simp only [PerStage.get] at h
     simp [applyTo, PerStage.override, PerStage.map, PerStage.get, h])

/-- The deadline that a limit of `n` seconds sets cannot be told: there is a limit, and it reaches
beyond the end of the clock. -/
theorem lacks_limitOfSeconds_iff {now : Moment} (htold : now.isTold = true) (n : Nat) :
    (∃ d, limitOfSeconds n = some d ∧ now.after? d = none) ↔ 0 < n ∧ 2 ^ 63 ≤ now.seconds + n := by
  rw [← Moment.after?_ofSeconds_eq_none_iff htold]
  by_cases hpos : 0 < n <;> simp [limitOfSeconds, hpos]

end File

theorem get_ofSettings (s : Settings) (stage : Stage) : (Pools.ofSettings s).get stage =
    .ofSize stage (s.threads.get stage) (s.timeLimits.get stage) := by cases stage <;> rfl

/-- **What a time limit from a file costs.** Take any settings file, the pool of a stage for which
it sets a limit of `n` seconds, and anything that happens to that pool. A task is lost exactly if
the clock showed `2 ^ 63 - n` seconds or more when its worker was about to run the body, unless `n`
is zero, which is no limit. Nobody is ever told of a lost task, and of all others somebody is told
in the end. -/
theorem losesAt_of_file {text : String} {file : File} (hfile : File.ofText? text = some file)
    (s : Settings) {stage : Stage} {n : Nat} (hn : file.timeLimits.get stage = some n)
    {acts : List (Pool.Act stage.Task stage.Yield)}
    (hclock : ∀ i flagged now, .start i flagged now ∈ acts → now.isTold = true)
    {p : Pool stage.Task stage.Yield}
    (hrun : ((Pools.ofSettings (file.applyTo s)).get stage).run? acts = some p) :
    n < 2 ^ 64 ∧ p.LosesAt (fun now => 0 < n ∧ 2 ^ 63 ≤ now.seconds + n) acts := by
  rw [get_ofSettings, file.timeLimits_applyTo s hn] at hrun
  have hloses := Pool.losesAt_of_run stage _ _ hrun
  refine ⟨File.lt_of_timeLimits hfile hn, ⟨fun i => ?_, hloses.unheard, hloses.heard⟩⟩
  rw [hloses.lost_iff]
  refine exists_congr fun now => and_congr_right fun hmem => ?_
  exact File.lacks_limitOfSeconds_iff (hclock i false now hmem) n

/-- A settings file with a time limit that is meant to be none. -/
def endless : String := "[pipeline]\nparse_timeout_secs = 9223372036854775807"

/-- What that file says. -/
def endlessFile : File :=
  { File.silent with timeLimits := .only .parse 9223372036854775807 }

theorem ofText?_endless : File.ofText? endless = some endlessFile := by
  have htext : endless = limiting .parse 9223372036854775807 := by decide +kernel
  rw [htext]
  exact File.ofText?_limiting .parse (by omega)

/-- A worker is about to run the body of a task when the clock shows one second. -/
def early : List (Pool.Act ParseTask Document) :=
  [.submit default, .take, .look 0, .start 0 false ⟨1000000000⟩]

theorem isTold_early : ∀ i flagged now, .start i flagged now ∈ early → now.isTold = true := by
  intro i flagged now h
  obtain ⟨rfl, rfl, rfl⟩ : i = 0 ∧ flagged = false ∧ now = ⟨1000000000⟩ := by simpa [early] using h
  decide

/-- Under the limit that is meant to be none the task is lost. -/
theorem losesAt_endless : ∃ file p, File.ofText? endless = some file ∧
    file.timeLimits.get .parse = some 9223372036854775807 ∧
    (∀ i flagged now, .start i flagged now ∈ early → now.isTold = true) ∧
    ((Pools.ofSettings (file.applyTo (.standard 1))).get .parse).run? early = some p ∧
    p.phase? 0 = some .lost ∧ 9223372036854775807 < 2 ^ 64 ∧
    p.LosesAt (fun now => 0 < 9223372036854775807 ∧ 2 ^ 63 ≤ now.seconds + 9223372036854775807)
      early := by
  have hend : (((Pools.ofSettings (endlessFile.applyTo (.standard 1))).get .parse).run?
      early).isSome = true := by decide +kernel
  obtain ⟨p, hrun⟩ := Option.isSome_iff_exists.1 hend
  obtain ⟨hlt, hloses⟩ := losesAt_of_file ofText?_endless (.standard 1) rfl isTold_early hrun
  refine ⟨endlessFile, p, ofText?_endless, rfl, isTold_early, hrun, ?_, hlt, hloses⟩
  exact (hloses.lost_iff 0).2 ⟨⟨1000000000⟩, by simp [early], by decide⟩

/-- Every deadline that a file can set can be told. -/
def TellsDeadlines : Prop :=
  ∀ (text : String) (file : File) (s : Settings) (stage : Stage) (now : Moment),
    File.ofText? text = some file → now.isTold = true →
    ¬ ((Pools.ofSettings (file.applyTo s)).get stage).LacksDeadline now

/-- Whatever a file sets, somebody is told of every task that a pool has accepted. -/
def TellsOfTasks : Prop :=
  ∀ (text : String) (file : File) (s : Settings) (stage : Stage)
    (acts : List (Pool.Act stage.Task stage.Yield)) (p : Pool stage.Task stage.Yield),
    File.ofText? text = some file →
    (∀ i flagged now, .start i flagged now ∈ acts → now.isTold = true) →
    ((Pools.ofSettings (file.applyTo s)).get stage).run? acts = some p → p.isQuiet = true →
    ∀ t ∈ p.tasks, t.outcome.isSome = true

/-- Neither is so: the deadline cannot be told, and nobody is told of the task. -/
theorem not_tells_endless : ¬ TellsDeadlines ∧ ¬ TellsOfTasks := by
  constructor
  · intro htells
    refine htells endless endlessFile (.standard 1) .parse ⟨1000000000⟩ ofText?_endless
      (by decide) ?_
    exact ⟨.ofSeconds 9223372036854775807, rfl, by decide⟩
  · intro htells
    have hend : (((Pools.ofSettings (endlessFile.applyTo (.standard 1))).get .parse).run? early).any
        (fun p => p.isQuiet && p.tasks.any (·.outcome.isNone)) = true := by decide +kernel
    obtain ⟨p, hrun, hp⟩ := (Option.any_eq_true ..).1 hend
    obtain ⟨hquiet, hnone⟩ : p.isQuiet = true ∧ p.tasks.any (·.outcome.isNone) = true := by
      simpa using hp
    obtain ⟨t, ht, htold⟩ := List.any_eq_true.1 hnone
    have hsome := htells endless endlessFile (.standard 1) .parse early p ofText?_endless
      isTold_early hrun hquiet t ht
    rw [Option.isNone_iff_eq_none.1 htold] at hsome
    cases hsome

end Settings

end GradedReading
