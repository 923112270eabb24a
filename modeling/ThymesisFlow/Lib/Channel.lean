import Mathlib.Data.List.Basic

/-!
# A channel with outcomes that nobody controls

Words are sent at the back of a queue and received at its front; every word is received with an
outcome, such as a check that passes or fails, which neither side chooses.  `Leads Q p ws` says that,
whatever the outcomes are, a receiver in state `p` only meets good words on its way through `ws` and is
in a state with `Q` behind them.  So what the sender does at the back is proved from `Q` alone.
-/

namespace ThymesisFlow

namespace Channel

variable {σ ω ε : Type*} (step : σ → ω → ε → σ) (good : σ → ω → Prop)

/-- The words `ws` lead a receiver in state `p` to a state with `Q`. -/
def Leads (Q : σ → Prop) : σ → List ω → Prop
  | p, [] => Q p
  | p, w :: ws => good p w ∧ ∀ e, Leads Q (step p w e) ws

variable {step good} {good' : σ → ω → Prop} {Q Q' : σ → Prop} {p : σ} {w : ω} {ws : List ω}

/-- A word is received. -/
lemma Leads.receive (h : Leads step good Q p (w :: ws)) (e : ε) :
    good p w ∧ Leads step good Q (step p w e) ws := ⟨h.1, h.2 e⟩

/-- What is good, and what holds behind the words, may be weakened. -/
lemma Leads.mono (h : Leads step good Q p ws) (hgood : ∀ p w, good p w → good' p w)
    (hQ : ∀ p, Q p → Q' p) : Leads step good' Q' p ws := by
  induction ws generalizing p with
  | nil => exact hQ p h
  | cons w ws ih => exact ⟨hgood p w h.1, fun e => ih (h.2 e)⟩

/-- A word is sent. -/
lemma Leads.send (h : Leads step good Q p ws)
    (hw : ∀ p, Q p → good p w ∧ ∀ e, Q' (step p w e)) : Leads step good Q' p (ws ++ [w]) := by
  induction ws generalizing p with
  | nil => exact hw p h
  | cons v ws ih => exact ⟨h.1, fun e => ih (h.2 e)⟩

/-- Words that leave the receiver as it is. -/
lemma leads_iff_of_rest [Nonempty ε] (hrest : ∀ w ∈ ws, good p w ∧ ∀ e, step p w e = p) :
    Leads step good Q p ws ↔ Q p := by
  induction ws with
  | nil => rfl
  | cons w ws ih =>
      obtain ⟨hgood, hstep⟩ := hrest w (List.mem_cons_self ..)
      have htail := ih fun v hv => hrest v (List.mem_cons_of_mem w hv)
      constructor
      · intro h
        obtain ⟨e⟩ := ‹Nonempty ε›
        have hnext := h.2 e
        rw [hstep e] at hnext
        exact htail.mp hnext
      · intro hQ
        refine ⟨hgood, fun e => ?_⟩
        rw [hstep e]
        exact htail.mpr hQ

end Channel

end ThymesisFlow
