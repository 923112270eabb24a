import ThymesisFlow.Lib.Machine

/-!
# Refinement between two machines

A step of the concrete machine is matched by any number of steps of the abstract one: `event` says
by which.  A relation that survives matched steps holds along matched runs, and what is observed of
the two is the same if it is the same in every step.
-/

namespace ThymesisFlow

namespace Machine

variable {σ ι γ ε β : Type*} (M : Machine σ ι) (A : Machine γ ε) {event : σ → ι → List ε}
  {ok : σ → ι → Prop} {R : σ → γ → Prop}

/-- **The refinement rule.** -/
theorem refines (hinit : R M.init A.init)
    (hstep : ∀ s a i, R s a → ok s i → R (M.step s i) (A.runFrom a (event s i))) :
    ∀ is, M.Meets ok is → R (M.run is) (A.run (M.collect event is)) := by
  intro is
  induction is using List.reverseRecOn with
  | nil => intro _; exact hinit
  | append_singleton is i ih =>
      intro h
      obtain ⟨hpre, hok⟩ := (M.meets_concat ok is i).mp h
      rw [run_concat, collect_concat, run_append]
      exact hstep _ _ i (ih hpre) hok

/-- What the two are observed to do. -/
theorem refines_collect {out : σ → ι → List β} {out' : γ → ε → List β} (hinit : R M.init A.init)
    (hstep : ∀ s a i, R s a → ok s i → R (M.step s i) (A.runFrom a (event s i)))
    (hout : ∀ s a i, R s a → ok s i → out s i = A.collectFrom out' a (event s i)) :
    ∀ is, M.Meets ok is → M.collect out is = A.collect out' (M.collect event is) := by
  intro is
  induction is using List.reverseRecOn with
  | nil => intro _; rfl
  | append_singleton is i ih =>
      intro h
      obtain ⟨hpre, hok⟩ := (M.meets_concat ok is i).mp h
      have hR := M.refines A hinit hstep is hpre
      rw [collect_concat, collect_concat, collect_append, ih hpre, hout _ _ i hR hok]

/-- A machine that is the state of another, seen through a projection. -/
theorem projects (proj : σ → γ) (hinit : proj M.init = A.init)
    (hstep : ∀ s i, proj (M.step s i) = A.runFrom (proj s) (event s i)) (is : List ι) :
    proj (M.run is) = A.run (M.collect event is) :=
  @refines σ ι γ ε M A event (fun _ _ => True) (fun s a => proj s = a) hinit
    (fun s _ i h _ => h ▸ hstep s i) is (M.meets_true is)

/-- What is observed of a projection. -/
theorem projects_collect (proj : σ → γ) (out : γ → ε → List β) (hinit : proj M.init = A.init)
    (hstep : ∀ s i, proj (M.step s i) = A.runFrom (proj s) (event s i)) (is : List ι) :
    M.collect (fun s i => A.collectFrom out (proj s) (event s i)) is
      = A.collect out (M.collect event is) :=
  @refines_collect σ ι γ ε β M A event (fun _ _ => True) (fun s a => proj s = a) _ _ hinit
    (fun s _ i h _ => h ▸ hstep s i) (fun _ _ _ h _ => h ▸ rfl) is (M.meets_true is)

/-- A condition on the steps of a projection. -/
theorem projects_meets {ok' : γ → ε → Prop} (proj : σ → γ) (hinit : proj M.init = A.init)
    (hstep : ∀ s i, proj (M.step s i) = A.runFrom (proj s) (event s i))
    (hok : ∀ s i, ok s i → A.MeetsFrom ok' (proj s) (event s i)) :
    ∀ is, M.Meets ok is → A.Meets ok' (M.collect event is) := by
  intro is
  induction is using List.reverseRecOn with
  | nil => intro _; trivial
  | append_singleton is i ih =>
      intro h
      obtain ⟨hpre, hi⟩ := (M.meets_concat ok is i).mp h
      rw [collect_concat]
      refine (A.meetsFrom_append _ _ _ _).mpr ⟨ih hpre, ?_⟩
      have hs := hok _ _ hi
      rwa [M.projects A proj hinit hstep is] at hs

/-- Where every step is matched by one, a beginning of the matched run is matched by a beginning of
the run. -/
theorem exists_of_prefix {f : σ → ι → ε} {is : List ι} {pre : List ε} {e : ε}
    (h : pre ++ [e] <+: M.collect (fun s i => [f s i]) is) :
    ∃ js i, js ++ [i] <+: is ∧ M.collect (fun s i => [f s i]) js = pre ∧ f (M.run js) i = e := by
  induction is using List.reverseRecOn with
  | nil => exact absurd (List.prefix_nil.mp h) (by simp)
  | append_singleton is i ih =>
      rw [collect_concat] at h
      rcases List.prefix_concat_iff.mp h with h | h
      · obtain ⟨hpre, he⟩ := List.append_inj' h rfl
        exact ⟨is, i, List.prefix_rfl, hpre.symm, (List.cons.inj he).1.symm⟩
      · obtain ⟨js, j, hjs, hpre, he⟩ := ih h
        exact ⟨js, j, hjs.trans (List.prefix_append _ _), hpre, he⟩

end Machine

end ThymesisFlow
