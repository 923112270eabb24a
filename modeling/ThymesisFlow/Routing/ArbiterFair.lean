import ThymesisFlow.Lib.Machine
import ThymesisFlow.Routing.Arbiter

/-!
# The arbiter as instantiated

`thymesisflow_top` has an arbiter for the routing ingress of either side.  The one of the compute
side is reset by `reset_n`; the pin of the other is connected to a net `reset` that is not declared
and that nothing drives, so its value is an input here.
-/

namespace ThymesisFlow

/-- The instances. -/
inductive ArbInstance
  | TF_MEMORY_RR_ARB_INGR
  | TF_COMPUTE_RR_ARB_INGR
  deriving DecidableEq, Repr

/-- The wires of one cycle. -/
structure ArbIn where
  reset_n : Bool
  reset : Bool
  request_vector : BitVec 2
  request_nxt : Bool
  deriving DecidableEq, Repr

/-- What the instance has at its pin `reset_n`. -/
def ArbInstance.resetPin (a : ArbInstance) (i : ArbIn) : Bool :=
  match a with
  | .TF_MEMORY_RR_ARB_INGR => i.reset
  | .TF_COMPUTE_RR_ARB_INGR => i.reset_n

namespace ArbIn

def requests (i : ArbIn) (p : Port) : Bool := i.request_vector &&& p.id = p.id

end ArbIn

/-- The register, and for each port whether its request waits for a grant, and the grants that the
other port has got since. -/
structure ArbRun where
  masked_req_vector : BitVec 2 := 0
  waits : Port → Bool := fun _ => false
  passed : Port → ℕ := fun _ => 0

namespace ArbRun

variable (s : ArbRun) (i : ArbIn)

def selected : BitVec 2 := arbSelected s.masked_req_vector i.request_vector

/-- The port is selected in a cycle with `request_nxt`. -/
def grants (p : Port) : Bool := i.request_nxt && s.selected i = p.id

def step (a : ArbInstance) : ArbRun where
  masked_req_vector :=
    if a.resetPin i then arbStep s.masked_req_vector i.request_vector i.request_nxt else 0
  waits p := i.requests p && !s.grants i p
  passed p :=
    if i.requests p && !s.grants i p then
      if s.grants i p.other then s.passed p + 1 else s.passed p
    else 0

/-- A request once raised stays raised until it is granted. -/
def Persistent (s : ArbRun) (i : ArbIn) : Prop := ∀ p, s.waits p = true → i.requests p = true

/-- What is owed in a cycle: the selection is a request, or nothing is requested, and no port that
waits is passed over a second time. -/
structure Served (s : ArbRun) (i : ArbIn) : Prop where
  selected : s.selected i = 0 ∧ i.request_vector = 0 ∨
    ∃ p : Port, s.selected i = p.id ∧ i.requests p = true
  fair : ∀ p : Port, i.requests p = true → s.grants i p.other = true → s.passed p = 0

/-- **The condition on a cycle**: out of reset the net `reset` is high too. -/
def ResetHigh (a : ArbInstance) (i : ArbIn) : Prop := a = .TF_MEMORY_RR_ARB_INGR → i.reset = true

end ArbRun

/-- An instance, from reset. -/
def arbiter (a : ArbInstance) : Machine ArbRun ArbIn where
  init := {}
  step s i := s.step i a

namespace ArbRun

/-- The mask is empty, or it holds the request of the second port, which waits. -/
inductive Inv (s : ArbRun) : Prop
  | empty (hmask : s.masked_req_vector = 0) (h0 : s.passed .port0 ≤ 1) (h1 : s.passed .port1 = 0)
  | second (hmask : s.masked_req_vector = 0b10) (hwaits : s.waits .port1 = true)
      (h0 : s.passed .port0 = 0) (h1 : s.passed .port1 ≤ 1)

variable {s : ArbRun} {i : ArbIn} {a : ArbInstance}

lemma requests_cases (v : BitVec 2) : v = 0 ∨ v = 0b01 ∨ v = 0b10 ∨ v = 0b11 := by
  revert v
  decide

/-- With an empty mask the first port goes first. -/
lemma grants_of_empty (hmask : s.masked_req_vector = 0) :
    s.grants i .port0 = (i.request_nxt && i.requests .port0) ∧
      s.grants i .port1 = (i.request_nxt && !i.requests .port0 && i.requests .port1) := by
  rcases requests_cases i.request_vector with hv | hv | hv | hv <;> cases hn : i.request_nxt <;>
    simp only [grants, selected, ArbIn.requests, hmask, hv, hn] <;> decide

/-- With the second port in the mask it is its turn. -/
lemma grants_of_second (hmask : s.masked_req_vector = 0b10) :
    s.grants i .port0 = false ∧ s.grants i .port1 = i.request_nxt := by
  cases hn : i.request_nxt <;> simp only [grants, selected, hmask, hn] <;> constructor <;>
    generalize i.request_vector = v <;> revert v <;> decide

lemma served_of_inv (h : Inv s) (hp : Persistent s i) : Served s i := by
  cases h with
  | empty hmask h0 h1 =>
      obtain ⟨hg0, hg1⟩ := @grants_of_empty s i hmask
      refine ⟨?_, fun p hreq hother => ?_⟩
      · rcases requests_cases i.request_vector with hv | hv | hv | hv <;>
          simp only [selected, ArbIn.requests, hmask, hv]
        · exact .inl (by decide)
        · exact .inr ⟨.port0, by decide⟩
        · exact .inr ⟨.port1, by decide⟩
        · exact .inr ⟨.port0, by decide⟩
      · cases p with
        | port0 =>
            have hother' : s.grants i .port1 = true := hother
            rw [hg1, hreq] at hother'
            simp at hother'
        | port1 => exact h1
  | second hmask hwaits h0 h1 =>
      obtain ⟨hg0, -⟩ := @grants_of_second s i hmask
      have hreq1 := hp .port1 hwaits
      refine ⟨.inr ⟨.port1, ?_, hreq1⟩, fun p hreq hother => ?_⟩
      · simp only [selected, hmask]
        generalize i.request_vector = v
        revert v
        decide
      · cases p with
        | port0 => exact h0
        | port1 =>
            have hother' : s.grants i .port0 = true := hother
            rw [hg0] at hother'
            cases hother'

/-- The mask after a cycle: the second port, if the first was served before it. -/
lemma mask_step (hmask : s.masked_req_vector = 0) :
    arbStep s.masked_req_vector i.request_vector i.request_nxt
      = if i.request_nxt && i.requests .port0 && i.requests .port1 then 0b10 else 0 := by
  rcases requests_cases i.request_vector with hv | hv | hv | hv <;> cases hn : i.request_nxt <;>
    simp only [ArbIn.requests, hmask, hv] <;> decide

lemma mask_step_second (hmask : s.masked_req_vector = 0b10) (hreq : i.requests .port1 = true) :
    arbStep s.masked_req_vector i.request_vector i.request_nxt
      = if i.request_nxt then 0 else 0b10 := by
  rcases requests_cases i.request_vector with hv | hv | hv | hv <;> cases hn : i.request_nxt <;>
    simp only [ArbIn.requests, hmask, hv] at hreq ⊢ <;> revert hreq <;> decide

/-- **A cycle out of reset keeps the invariant.** -/
lemma inv_step (h : Inv s) (hp : Persistent s i) (hpin : a.resetPin i = true) :
    Inv (s.step i a) := by
  have hmask' : (s.step i a).masked_req_vector
      = arbStep s.masked_req_vector i.request_vector i.request_nxt := by rw [step, hpin, if_pos rfl]
  cases h with
  | empty hmask h0 h1 =>
      obtain ⟨hg0, hg1⟩ := @grants_of_empty s i hmask
      rw [mask_step hmask] at hmask'
      cases hn : i.request_nxt <;> cases hr0 : i.requests .port0 <;> cases hr1 : i.requests .port1
      all_goals
        simp only [hn, hr0, hr1, Bool.and_true, Bool.and_false, Bool.not_true,
          Bool.not_false, if_true, if_false, Bool.false_eq_true] at hmask' hg0 hg1
      -- both ports request and the first is granted
      case true.true.true =>
        refine .second hmask' ?_ ?_ ?_ <;> simp [step, Port.other, hg0, hg1, hr0, hr1, h1]
      all_goals
        refine .empty hmask' ?_ ?_ <;> simp [step, Port.other, hg0, hg1, hr0, hr1, h0, h1]
  | second hmask hwaits h0 h1 =>
      obtain ⟨hg0, hg1⟩ := @grants_of_second s i hmask
      have hr1 := hp .port1 hwaits
      rw [mask_step_second hmask hr1] at hmask'
      cases hn : i.request_nxt with
      | true =>
          rw [hn, if_pos rfl] at hmask'
          rw [hn] at hg1
          refine .empty hmask' ?_ ?_
          · cases hr0 : i.requests .port0 <;> simp [step, Port.other, hg0, hg1, hr0, h0]
          · simp [step, hg1]
      | false =>
          rw [hn, if_neg Bool.false_ne_true] at hmask'
          rw [hn] at hg1
          refine .second hmask' ?_ ?_ ?_
          · simp [step, hg1, hr1]
          · cases hr0 : i.requests .port0 <;> simp [step, Port.other, hg0, hg1, hr0, h0]
          · simp [step, Port.other, hg0, hg1, hr1, h1]

end ArbRun

/-- **Both instances serve in turn as long as the net `reset` is high.**  For every run out of reset
in which a request stays until it is granted: the selection is a request, and it is zero only when
nothing is requested; and no port is passed over twice before it is granted. -/
theorem arbiter_served (a : ArbInstance) (is : List ArbIn)
    (h : (arbiter a).Meets (fun s i => i.reset_n = true ∧ s.Persistent i ∧ ArbRun.ResetHigh a i) is) :
    (arbiter a).Meets ArbRun.Served is := by
  have hpin : ∀ i : ArbIn, i.reset_n = true → ArbRun.ResetHigh a i → a.resetPin i = true := by
    intro i hn hr
    cases a with
    | TF_MEMORY_RR_ARB_INGR => exact hr rfl
    | TF_COMPUTE_RR_ARB_INGR => exact hn
  exact (arbiter a).meets_of_invariant (P := ArbRun.Inv)
    (ArbRun.Inv.empty rfl (Nat.zero_le 1) rfl)
    (fun s i hinv hok => ArbRun.inv_step hinv hok.2.1 (hpin i hok.1 hok.2.2))
    (fun s i hinv hok => ArbRun.served_of_inv hinv hok.2.1) is h

/-- Both ports request, and a flit goes out in every cycle. -/
def bothRequest (reset : Bool) : ArbIn := ⟨true, reset, 0b11, true⟩

theorem arbiter_served_both :
    (arbiter .TF_MEMORY_RR_ARB_INGR).Meets ArbRun.Served [bothRequest true, bothRequest true] := by
  refine arbiter_served _ _ ⟨⟨rfl, ?_, fun _ => rfl⟩, ⟨rfl, ?_, fun _ => rfl⟩, trivial⟩ <;>
    intro p _ <;> cases p <;> decide

/-- With the net low the first port is granted twice while the second one waits. -/
theorem second_port_passed_over :
    ¬ ∀ (a : ArbInstance) (is : List ArbIn),
      (arbiter a).Meets (fun s i => i.reset_n = true ∧ s.Persistent i) is →
        (arbiter a).Meets ArbRun.Served is := by
  intro h
  have hserved := h .TF_MEMORY_RR_ARB_INGR [bothRequest false, bothRequest false]
    ⟨⟨rfl, fun p _ => by cases p <;> decide⟩, ⟨rfl, fun p _ => by cases p <;> decide⟩, trivial⟩
  have hfair := hserved.2.1.fair .port1 (by decide) (by decide)
  exact absurd hfair (by decide)

end ThymesisFlow
