import GradedReading.Error
import GradedReading.Web.Blacklist

/-!
# GradedReading.Settings.Basic

How the work is carried out: threads and time limits of each stage, and hosts never to visit.
-/

namespace GradedReading

open Number

/-- One thing for each stage. -/
structure PerStage (α : Type) where
  search : α
  crawl : α
  parse : α
deriving DecidableEq, Repr, Inhabited

namespace PerStage

variable {α β : Type}

/-- The thing of a stage. -/
def get (p : PerStage α) : Stage → α
  | .search => p.search
  | .crawl => p.crawl
  | .parse => p.parse

/-- The same thing for every stage. -/
def all (x : α) : PerStage α := ⟨x, x, x⟩

/-- Take the new things where there are any. -/
def override (old : PerStage α) (new : PerStage (Option α)) : PerStage α :=
  ⟨new.search.getD old.search, new.crawl.getD old.crawl, new.parse.getD old.parse⟩

/-- Apply a function to each thing. -/
def map (f : α → β) (p : PerStage α) : PerStage β := ⟨f p.search, f p.crawl, f p.parse⟩

@[simp] theorem get_all (x : α) (s : Stage) : (all x).get s = x := by cases s <;> rfl

@[simp] theorem get_map (f : α → β) (p : PerStage α) (s : Stage) :
    (p.map f).get s = f (p.get s) := by cases s <;> rfl

end PerStage

/-- How the work is carried out. -/
structure Settings where
  threads : PerStage Nat
  /-- How long one task may take; without a limit it may take any time. -/
  timeLimits : PerStage (Option Duration)
  /-- Patterns of hosts that are blocked besides the standard ones. -/
  blacklist : List String
deriving DecidableEq, Repr, Inhabited

namespace Settings

/-- The standard settings on a machine that can parse so many documents at once. -/
def standard (parseThreads : Nat) : Settings :=
  { threads := ⟨2, 8, parseThreads⟩
    timeLimits := ⟨some (.ofSeconds 30), some (.ofSeconds 20), some (.ofSeconds 120)⟩
    blacklist := [] }

/-- All blocked hosts. -/
def blocked (s : Settings) : Web.Blacklist := .standardAnd s.blacklist

end Settings

end GradedReading
