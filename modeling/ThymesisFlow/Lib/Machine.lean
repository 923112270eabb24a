import Mathlib.Data.List.Induction

/-!
# Synchronous machines, their runs and what a run is observed to do

A clocked module is a state and a step function that takes the inputs of one cycle.  A run is
the fold of the step over a list of inputs, so "for every run" is "for every list of inputs".

Histories are not part of the state: `collect out` concatenates what an observer `out` sees in
every step (the flits accepted at a port, the flits handed over at another).  `trace_invariant`
is the rule by which every safety result is proved: a relation between the state and two
histories that holds at reset and is kept by every step that meets `ok` holds after every run
whose steps meet `ok`.
-/

namespace ThymesisFlow

/-- A state at reset and the transition of one step. -/
structure Machine (σ ι : Type*) where
  init : σ
  step : σ → ι → σ

namespace Machine

variable {σ ι α β : Type*} (M : Machine σ ι)

/-- The state after the inputs `is`, starting from `s`. -/
def runFrom (s : σ) (is : List ι) : σ := is.foldl M.step s

/-- The state after the inputs `is`, starting at reset. -/
def run (is : List ι) : σ := M.runFrom M.init is

/-- What `out` observes along the run from `s`, in order. -/
def collectFrom (out : σ → ι → List α) : σ → List ι → List α
  | _, [] => []
  | s, i :: is => out s i ++ collectFrom out (M.step s i) is

/-- What `out` observes along the run from reset. -/
def collect (out : σ → ι → List α) (is : List ι) : List α := M.collectFrom out M.init is

/-- Every step of the run from `s` meets `ok`, a condition on the state before the step and the
inputs of the step. -/
def MeetsFrom (ok : σ → ι → Prop) : σ → List ι → Prop
  | _, [] => True
  | s, i :: is => ok s i ∧ MeetsFrom ok (M.step s i) is

/-- Every step of the run from reset meets `ok`. -/
def Meets (ok : σ → ι → Prop) (is : List ι) : Prop := M.MeetsFrom ok M.init is

instance decidableMeetsFrom (ok : σ → ι → Prop) [∀ s i, Decidable (ok s i)] :
    ∀ s is, Decidable (M.MeetsFrom ok s is)
  | _, [] => inferInstanceAs (Decidable True)
  | s, i :: is =>
      have := decidableMeetsFrom ok (M.step s i) is
      inferInstanceAs (Decidable (ok s i ∧ M.MeetsFrom ok (M.step s i) is))

instance decidableMeets (ok : σ → ι → Prop) [∀ s i, Decidable (ok s i)] (is : List ι) :
    Decidable (M.Meets ok is) :=
  inferInstanceAs (Decidable (M.MeetsFrom ok M.init is))

@[simp] lemma runFrom_nil (s : σ) : M.runFrom s [] = s := rfl

@[simp] lemma runFrom_cons (s : σ) (i : ι) (is : List ι) :
    M.runFrom s (i :: is) = M.runFrom (M.step s i) is := rfl

lemma runFrom_append (s : σ) (is js : List ι) :
    M.runFrom s (is ++ js) = M.runFrom (M.runFrom s is) js := by
  simp [runFrom]

/-- Rounds of the same inputs that lead from each state of a sequence to the next. -/
lemma runFrom_rounds (S : ℕ → σ) (round : List ι) (n : ℕ)
    (h : ∀ k < n, M.runFrom (S k) round = S (k + 1)) :
    M.runFrom (S 0) (List.replicate n round).flatten = S n := by
  induction n with
  | zero => rfl
  | succ n ih =>
      rw [List.replicate_succ', List.flatten_append, runFrom_append,
        ih (fun k hk => h k (Nat.lt_succ_of_lt hk))]
      simpa using h n (Nat.lt_succ_self n)

@[simp] lemma run_nil : M.run [] = M.init := rfl

lemma run_append (is js : List ι) : M.run (is ++ js) = M.runFrom (M.run is) js :=
  M.runFrom_append _ is js

@[simp] lemma run_concat (is : List ι) (i : ι) :
    M.run (is ++ [i]) = M.step (M.run is) i := M.run_append is [i]

lemma collectFrom_append (out : σ → ι → List α) (s : σ) (is js : List ι) :
    M.collectFrom out s (is ++ js)
      = M.collectFrom out s is ++ M.collectFrom out (M.runFrom s is) js := by
  induction is generalizing s with
  | nil => simp [collectFrom]
  | cons i is ih => simp [collectFrom, ih]

lemma collect_append (out : σ → ι → List α) (is js : List ι) :
    M.collect out (is ++ js) = M.collect out is ++ M.collectFrom out (M.run is) js :=
  M.collectFrom_append out M.init is js

/-- What has been observed stays observed. -/
lemma collect_prefix (out : σ → ι → List α) {is js : List ι} (h : is <+: js) :
    M.collect out is <+: M.collect out js := by
  obtain ⟨ks, rfl⟩ := h
  rw [collect_append]
  exact List.prefix_append _ _

@[simp] lemma collect_nil (out : σ → ι → List α) : M.collect out [] = [] := rfl

@[simp] lemma collect_concat (out : σ → ι → List α) (is : List ι) (i : ι) :
    M.collect out (is ++ [i]) = M.collect out is ++ out (M.run is) i := by
  rw [collect, collectFrom_append]
  simp [collect, collectFrom, run]

lemma collect_map (out : σ → ι → List α) (f : α → β) (is : List ι) :
    M.collect (fun s i => (out s i).map f) is = (M.collect out is).map f := by
  induction is using List.reverseRecOn with
  | nil => rfl
  | append_singleton is i ih => rw [collect_concat, collect_concat, List.map_append, ih]

/-- The first thing found in what has been observed is the first one found in the inputs. -/
lemma findSome?_collect {out : σ → ι → List α} {f : α → Option β} {g : ι → Option β}
    (h : ∀ s i, (out s i).findSome? f = g i) (is : List ι) :
    (M.collect out is).findSome? f = is.findSome? g := by
  induction is using List.reverseRecOn with
  | nil => rfl
  | append_singleton is i ih =>
      rw [collect_concat, List.findSome?_append, ih, h, List.findSome?_append, List.findSome?_singleton]

lemma meetsFrom_append (ok : σ → ι → Prop) (s : σ) (is js : List ι) :
    M.MeetsFrom ok s (is ++ js) ↔ M.MeetsFrom ok s is ∧ M.MeetsFrom ok (M.runFrom s is) js := by
  induction is generalizing s with
  | nil => simp [MeetsFrom]
  | cons i is ih => simp [MeetsFrom, ih, and_assoc]

lemma meets_concat (ok : σ → ι → Prop) (is : List ι) (i : ι) :
    M.Meets ok (is ++ [i]) ↔ M.Meets ok is ∧ ok (M.run is) i := by
  rw [Meets, meetsFrom_append]
  simp [Meets, MeetsFrom, run]

/-- **The trace rule.**  A relation between the state and two histories that holds at reset and
survives every step meeting `ok` holds after every run whose steps meet `ok`. -/
theorem trace_invariant {ok : σ → ι → Prop} {ins : σ → ι → List α} {outs : σ → ι → List β}
    {P : σ → List α → List β → Prop} (hinit : P M.init [] [])
    (hstep : ∀ s a b i, P s a b → ok s i → P (M.step s i) (a ++ ins s i) (b ++ outs s i)) :
    ∀ is, M.Meets ok is → P (M.run is) (M.collect ins is) (M.collect outs is) := by
  intro is
  induction is using List.reverseRecOn with
  | nil => intro _; exact hinit
  | append_singleton is i ih =>
      intro h
      obtain ⟨hpre, hok⟩ := (M.meets_concat ok is i).mp h
      rw [run_concat, collect_concat, collect_concat]
      exact hstep _ _ _ i (ih hpre) hok

/-- The rule for a property of the state alone. -/
theorem invariant {ok : σ → ι → Prop} {P : σ → Prop} (hinit : P M.init)
    (hstep : ∀ s i, P s → ok s i → P (M.step s i)) : ∀ is, M.Meets ok is → P (M.run is) := by
  intro is
  induction is using List.reverseRecOn with
  | nil => intro _; exact hinit
  | append_singleton is i ih =>
      intro h
      obtain ⟨hpre, hok⟩ := (M.meets_concat ok is i).mp h
      rw [run_concat]
      exact hstep _ i (ih hpre) hok

/-- The rule for a property of every step. -/
theorem meets_of_invariant {ok good : σ → ι → Prop} {P : σ → Prop} (hinit : P M.init)
    (hstep : ∀ s i, P s → ok s i → P (M.step s i)) (hgood : ∀ s i, P s → ok s i → good s i) :
    ∀ is, M.Meets ok is → M.Meets good is := by
  intro is
  induction is using List.reverseRecOn with
  | nil => intro _; trivial
  | append_singleton is i ih =>
      intro h
      obtain ⟨hpre, hok⟩ := (M.meets_concat ok is i).mp h
      exact (M.meets_concat good is i).mpr
        ⟨ih hpre, hgood _ i (M.invariant hinit hstep is hpre) hok⟩

/-- The machine together with what `out` has observed since reset. -/
def withHistory (out : σ → ι → List α) : Machine (σ × List α) ι where
  init := (M.init, [])
  step s i := (M.step s.1 i, s.2 ++ out s.1 i)

lemma run_withHistory (out : σ → ι → List α) (is : List ι) :
    (M.withHistory out).run is = (M.run is, M.collect out is) := by
  induction is using List.reverseRecOn with
  | nil => rfl
  | append_singleton is i ih =>
      rw [run_concat, ih, run_concat, collect_concat]
      rfl

lemma meets_of_forall {ok : σ → ι → Prop} {is : List ι} (h : ∀ s, ∀ i ∈ is, ok s i) :
    M.Meets ok is := by
  induction is using List.reverseRecOn with
  | nil => trivial
  | append_singleton is i ih =>
      refine (M.meets_concat _ is i).mpr ⟨ih fun s j hj => h s j (List.mem_append_left _ hj), ?_⟩
      exact h _ i (List.mem_append_right _ (List.mem_singleton_self i))

/-- A run that goes on behind another one, whose steps are allowed in every state. -/
lemma meets_behind {ok : σ → ι → Prop} {is js : List ι} {s : σ} (h : ∀ s, ∀ i ∈ is, ok s i)
    (hrun : M.run is = s) (hjs : M.MeetsFrom ok s js) : M.Meets ok (is ++ js) := by
  refine (M.meetsFrom_append _ _ _ _).mpr ⟨M.meets_of_forall h, ?_⟩
  rw [← hrun] at hjs
  exact hjs

/-- What such a run is observed to do, if the other one shows nothing. -/
lemma collect_behind {out : σ → ι → List α} {is js : List ι} {s : σ} (h : ∀ s, ∀ i ∈ is, out s i = [])
    (hrun : M.run is = s) : M.collect out (is ++ js) = M.collectFrom out s js := by
  have hnone : M.collect out is = [] := by
    induction is using List.reverseRecOn generalizing s with
    | nil => rfl
    | append_singleton is i ih =>
        rw [collect_concat, ih (fun s j hj => h s j (List.mem_append_left _ hj)) rfl,
          h _ i (List.mem_append_right _ (List.mem_singleton_self i)), List.append_nil]
  rw [collect_append, hnone, hrun, List.nil_append]

/-- What a run emits, if every allowed step emits only such things. -/
lemma forall_collect {ok : σ → ι → Prop} {out : σ → ι → List α} {p : α → Prop}
    (h : ∀ s i, ok s i → ∀ x ∈ out s i, p x) {is : List ι} (hok : M.Meets ok is) :
    ∀ x ∈ M.collect out is, p x := by
  induction is using List.reverseRecOn with
  | nil => intro x hx; cases hx
  | append_singleton is i ih =>
      obtain ⟨hpre, hlast⟩ := (M.meets_concat ok is i).mp hok
      intro x hx
      rw [collect_concat] at hx
      rcases List.mem_append.mp hx with hx | hx
      · exact ih hpre x hx
      · exact h _ i hlast x hx

lemma meets_mono {ok ok' : σ → ι → Prop} (h : ∀ s i, ok s i → ok' s i) {is : List ι}
    (hok : M.Meets ok is) : M.Meets ok' is := by
  induction is using List.reverseRecOn with
  | nil => trivial
  | append_singleton is i ih =>
      obtain ⟨hpre, hlast⟩ := (M.meets_concat ok is i).mp hok
      exact (M.meets_concat ok' is i).mpr ⟨ih hpre, h _ i hlast⟩

lemma meets_and {ok ok' : σ → ι → Prop} {is : List ι} (h : M.Meets ok is) (h' : M.Meets ok' is) :
    M.Meets (fun s i => ok s i ∧ ok' s i) is := by
  induction is using List.reverseRecOn with
  | nil => trivial
  | append_singleton is i ih =>
      obtain ⟨hpre, hlast⟩ := (M.meets_concat ok is i).mp h
      obtain ⟨hpre', hlast'⟩ := (M.meets_concat ok' is i).mp h'
      exact (M.meets_concat _ is i).mpr ⟨ih hpre hpre', hlast, hlast'⟩

lemma meets_prefix {ok : σ → ι → Prop} {is js : List ι} (hpre : js <+: is) (h : M.Meets ok is) :
    M.Meets ok js := by
  obtain ⟨ks, rfl⟩ := hpre
  exact ((M.meetsFrom_append ok M.init js ks).mp h).1

lemma meets_true (is : List ι) : M.Meets (fun _ _ => True) is :=
  M.meets_of_forall fun _ _ _ => trivial

/-- The trace rule where every step is allowed. -/
theorem trace_invariant_all {ins : σ → ι → List α} {outs : σ → ι → List β}
    {P : σ → List α → List β → Prop} (hinit : P M.init [] [])
    (hstep : ∀ s a b i, P s a b → P (M.step s i) (a ++ ins s i) (b ++ outs s i)) (is : List ι) :
    P (M.run is) (M.collect ins is) (M.collect outs is) :=
  M.trace_invariant hinit (fun s a b i h _ => hstep s a b i h) is (M.meets_true is)

/-- The rule for a property of the state and one history. -/
theorem history_invariant {ok : σ → ι → Prop} {out : σ → ι → List α} {P : σ → List α → Prop}
    (hinit : P M.init []) (hstep : ∀ s a i, P s a → ok s i → P (M.step s i) (a ++ out s i)) :
    ∀ is, M.Meets ok is → P (M.run is) (M.collect out is) :=
  @trace_invariant σ ι α α M ok out out (fun s a _ => P s a) hinit
    fun s a _ i h => hstep s a i h

/-- The rule for a property of the state and one history where every step is allowed. -/
theorem history_invariant_all {out : σ → ι → List α} {P : σ → List α → Prop} (hinit : P M.init [])
    (hstep : ∀ s a i, P s a → P (M.step s i) (a ++ out s i)) (is : List ι) :
    P (M.run is) (M.collect out is) :=
  M.history_invariant hinit (fun s a i h _ => hstep s a i h) is (M.meets_true is)

/-- The rule for a property of the state where every step is allowed. -/
theorem invariant_all {P : σ → Prop} (hinit : P M.init) (hstep : ∀ s i, P s → P (M.step s i))
    (is : List ι) : P (M.run is) :=
  M.invariant hinit (fun s i h _ => hstep s i h) is (M.meets_true is)

/-- **The exactness rule.**  A condition on the steps that is met exactly when the steps are good, in view of
what has been observed before, is met along a run exactly when every step of the run is good. -/
theorem meets_withHistory_iff {ok : σ → ι → Prop} {out : σ → ι → List α}
    {good : σ × List α → ι → Prop} {P : σ → List α → Prop} (hinit : P M.init [])
    (hstep : ∀ s a i, P s a → ok s i → P (M.step s i) (a ++ out s i))
    (hgood : ∀ s a i, P s a → (good (s, a) i ↔ ok s i)) (is : List ι) :
    (M.withHistory out).Meets good is ↔ M.Meets ok is := by
  induction is using List.reverseRecOn with
  | nil => exact ⟨fun _ => trivial, fun _ => trivial⟩
  | append_singleton is i ih =>
      rw [meets_concat, meets_concat, ih, run_withHistory]
      exact and_congr_right fun hok => hgood _ _ i (M.history_invariant hinit hstep is hok)

/-- **The exactness rule for prefixes.**  If a run that has been good so far stays good exactly by the steps
that are `ok`, then it is good after all its prefixes exactly when all its steps are `ok`. -/
theorem forall_prefix_iff {may ok : σ → ι → Prop} {good : List ι → Prop} (hinit : good [])
    (hstep : ∀ is i, M.Meets may is → may (M.run is) i → M.Meets ok is → good is →
      (good (is ++ [i]) ↔ ok (M.run is) i)) :
    ∀ is, M.Meets may is → ((∀ js, js <+: is → good js) ↔ M.Meets ok is) := by
  intro is
  induction is using List.reverseRecOn with
  | nil =>
      refine fun _ => iff_of_true (fun js hjs => ?_) trivial
      rw [List.prefix_nil.mp hjs]
      exact hinit
  | append_singleton is i ih =>
      intro hmay
      obtain ⟨hpre, hlast⟩ := (M.meets_concat may is i).mp hmay
      rw [meets_concat, ← ih hpre]
      constructor
      · intro h
        have hall : ∀ js, js <+: is → good js := fun js hjs => h js (hjs.trans (List.prefix_append _ _))
        have hiff := hstep is i hpre hlast ((ih hpre).mp hall) (hall is List.prefix_rfl)
        exact ⟨hall, hiff.mp (h _ List.prefix_rfl)⟩
      · rintro ⟨hall, hok⟩ js hjs
        have hiff := hstep is i hpre hlast ((ih hpre).mp hall) (hall is List.prefix_rfl)
        rcases List.prefix_concat_iff.mp hjs with rfl | hjs
        · exact hiff.mpr hok
        · exact hall js hjs

/-! ## A machine that follows another -/

variable {γ ε ρ : Type*} (A : Machine γ ε) {event : σ → ι → ε} {ok : σ → ι → Prop} {R : σ → γ → Prop}

/-- **The simulation rule.**  A relation between the states of a machine and those of another that follows
its events holds along the runs. -/
theorem simulates (hinit : R M.init A.init)
    (hstep : ∀ s a i, R s a → ok s i → R (M.step s i) (A.step a (event s i))) :
    ∀ is, M.Meets ok is → R (M.run is) (A.run (M.collect (fun s i => [event s i]) is)) := by
  intro is
  induction is using List.reverseRecOn with
  | nil => intro _; exact hinit
  | append_singleton is i ih =>
      intro h
      obtain ⟨hpre, hok⟩ := (M.meets_concat ok is i).mp h
      rw [run_concat, collect_concat, run_concat]
      exact hstep _ _ i (ih hpre) hok

/-- What the two are observed to do. -/
theorem simulates_collect {out : σ → ι → List β} {out' : γ → ε → List ρ} {f : ρ → β}
    (hinit : R M.init A.init)
    (hstep : ∀ s a i, R s a → ok s i → R (M.step s i) (A.step a (event s i)))
    (hout : ∀ s a i, R s a → ok s i → out s i = (out' a (event s i)).map f) :
    ∀ is, M.Meets ok is →
      M.collect out is = (A.collect out' (M.collect (fun s i => [event s i]) is)).map f := by
  intro is
  induction is using List.reverseRecOn with
  | nil => intro _; rfl
  | append_singleton is i ih =>
      intro h
      obtain ⟨hpre, hok⟩ := (M.meets_concat ok is i).mp h
      have hR := M.simulates A hinit hstep is hpre
      rw [collect_concat, collect_concat, collect_concat, List.map_append, ih hpre, hout _ _ i hR hok]

end Machine

end ThymesisFlow
