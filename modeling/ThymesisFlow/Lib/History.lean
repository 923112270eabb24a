import Mathlib.Data.List.Basic

/-!
# Histories

A property of a history that judges each event by what came before it.
-/

namespace ThymesisFlow

variable {α : Type*}

/-- `Q` holds of every event and the history before it. -/
def Each (Q : List α → α → Prop) (h : List α) : Prop := ∀ h₁ x h₂, h = h₁ ++ x :: h₂ → Q h₁ x

variable {Q : List α → α → Prop}

lemma each_nil : Each Q [] := by
  intro h₁ x h₂ h
  simp at h

/-- What holds of a history holds of its beginnings. -/
lemma Each.left {h h' : List α} (hQ : Each Q (h ++ h')) : Each Q h :=
  fun h₁ x h₂ heq => hQ h₁ x (h₂ ++ h') (by simp [heq])

/-- One more event is judged by the history so far. -/
theorem each_concat (h : List α) (x : α) : Each Q (h ++ [x]) ↔ Each Q h ∧ Q h x := by
  constructor
  · intro hQ
    exact ⟨hQ.left, hQ h x [] rfl⟩
  · rintro ⟨hQ, hx⟩ h₁ y h₂ heq
    rcases List.eq_nil_or_concat h₂ with rfl | ⟨h₃, z, rfl⟩
    · obtain ⟨rfl, hlast⟩ := List.append_inj' heq rfl
      obtain rfl : x = y := by simpa using hlast
      exact hx
    · have heq' : h ++ [x] = (h₁ ++ y :: h₃) ++ [z] := by simpa using heq
      exact hQ h₁ y h₃ (List.append_inj' heq' rfl).1

/-! ## The last event of a kind -/

variable {β : Type*} {p : α → Prop} [DecidablePred p] {f : α → β} {d : β}

/-- What the last event that meets `p` gives, or `d` if there is none. -/
def lastValue (p : α → Prop) [DecidablePred p] (f : α → β) (d : β) (xs : List α) : β :=
  (xs.filter p).getLast?.elim d f

@[simp] lemma lastValue_nil : lastValue p f d [] = d := rfl

@[simp] lemma lastValue_concat (xs : List α) (x : α) :
    lastValue p f d (xs ++ [x]) = if p x then f x else lastValue p f d xs := by
  by_cases hx : p x <;> simp [lastValue, hx]

lemma lastValue_congr {q : α → Prop} [DecidablePred q] (h : ∀ x, p x ↔ q x) (xs : List α) :
    lastValue p f d xs = lastValue q f d xs := by
  rw [lastValue, lastValue, List.filter_congr fun x _ => decide_eq_decide.mpr (h x)]

/-- Without such an event it is the default. -/
lemma lastValue_of_forall_not (h : ∀ x, ¬ p x) (xs : List α) : lastValue p f d xs = d := by
  rw [lastValue, List.filter_eq_nil_iff.mpr fun x _ => by simpa using h x]
  rfl

/-- `x` is the last event that meets `p`. -/
def LastIs (p : α → Prop) (xs : List α) (x : α) : Prop :=
  ∃ before since, xs = before ++ x :: since ∧ p x ∧ ∀ y ∈ since, ¬ p y

omit [DecidablePred p] in
lemma lastIs_nil (x : α) : ¬ LastIs p [] x := by
  rintro ⟨before, since, h, -⟩
  simp at h

omit [DecidablePred p] in
/-- One more event is the last one, or does not matter. -/
theorem lastIs_concat (xs : List α) (y x : α) :
    LastIs p (xs ++ [y]) x ↔ (p y ∧ x = y) ∨ (¬ p y ∧ LastIs p xs x) := by
  constructor
  · rintro ⟨before, since, heq, hx, hno⟩
    rcases List.eq_nil_or_concat since with rfl | ⟨since, z, rfl⟩
    · obtain ⟨-, hlast⟩ := List.append_inj' heq rfl
      obtain rfl : y = x := by simpa using hlast
      exact .inl ⟨hx, rfl⟩
    · have heq' : xs ++ [y] = (before ++ x :: since) ++ [z] := by simpa using heq
      obtain ⟨hxs, hlast⟩ := List.append_inj' heq' rfl
      obtain rfl : y = z := by simpa using hlast
      exact .inr ⟨hno y (by simp), before, since, hxs, hx, fun w hw => hno w (by simp [hw])⟩
  · rintro (⟨hy, rfl⟩ | ⟨hy, before, since, rfl, hx, hno⟩)
    · exact ⟨xs, [], rfl, hy, fun _ h => nomatch h⟩
    · refine ⟨before, since ++ [y], by simp, hx, fun w hw => ?_⟩
      rcases List.mem_append.mp hw with hw | hw
      · exact hno w hw
      · exact List.mem_singleton.mp hw ▸ hy

end ThymesisFlow
