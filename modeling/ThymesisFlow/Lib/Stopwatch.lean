import ThymesisFlow.Lib.Machine

/-!
# A stopwatch

It measures one thing at a time: a tag is started, and the cycles are counted until the same tag stops.  The
measurements are kept until they are read.  `laps_reported` says that each of them is reported once.
-/

namespace ThymesisFlow

variable {τ : Type*}

/-- What happens in one cycle: a tag starts, a tag stops, the measurements are read. -/
structure LapEvent (τ : Type*) where
  start : Option τ
  stop : Option τ
  read : Bool

/-- What is measured and for how many cycles, and what has been measured since the last read. -/
structure Stopwatch (τ : Type*) where
  running : Option (τ × ℕ) := none
  laps : List ℕ := []

namespace Stopwatch

variable [DecidableEq τ] (w : Stopwatch τ) (e : LapEvent τ)

/-- The measurement that ends in the cycle. -/
def lap : Option ℕ :=
  match w.running with
  | some (tag, n) => if e.stop = some tag then some (n + 1) else none
  | none => none

/-- What starts in the cycle of a read is not measured, nor what starts while something is. -/
def nextRunning : Option (τ × ℕ) :=
  match w.running with
  | some (tag, n) => if e.stop = some tag then none else some (tag, n + 1)
  | none => if e.read then none else e.start.map fun tag => (tag, 0)

/-- A measurement that ends in the cycle of a read is left for the next one. -/
def step : Stopwatch τ where
  running := w.nextRunning e
  laps := (if e.read then [] else w.laps) ++ (w.lap e).toList

/-- What a read reports. -/
def report : List (List ℕ) := if e.read then [w.laps] else []

end Stopwatch

def stopwatch (τ : Type*) [DecidableEq τ] : Machine (Stopwatch τ) (LapEvent τ) := ⟨{}, Stopwatch.step⟩

/-- **Each measurement is reported once.**  The reports in order, and what has not been read yet, are the
measurements in order. -/
theorem laps_reported [DecidableEq τ] (es : List (LapEvent τ)) :
    ((stopwatch τ).collect Stopwatch.report es).flatten ++ ((stopwatch τ).run es).laps
      = (stopwatch τ).collect (fun w e => (w.lap e).toList) es := by
  induction es using List.reverseRecOn with
  | nil => rfl
  | append_singleton es e ih =>
      rw [Machine.collect_concat, Machine.collect_concat, Machine.run_concat, List.flatten_append,
        ← ih]
      change _ ++ (if e.read then [_] else []).flatten ++ ((if e.read then [] else _) ++ _) = _
      cases e.read <;> simp

end ThymesisFlow
