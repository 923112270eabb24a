import ThymesisFlow.Routing.Egress

/-!
# What an egress port holds

A cycle of a port forwards from the register that `port_sm` points at and then loads the registers
that are empty.  The registers are a queue (`SlotQueue`) in front of the ping-pong buffer, with one
peculiarity: the upper half of a data flit can be in its register before the flit is accepted.
`PortInv` keeps that half, `early`, apart from what the port has taken over.
-/

namespace ThymesisFlow

/-- The register of the upper half of a data flit. -/
def EgrSm.isHigh (sm : EgrSm) : Bool := sm = .DATA0_HIGH || sm = .DATA1_HIGH

/-- The register next to it, of the lower half. -/
def EgrSm.low : EgrSm → EgrSm
  | .DATA0_HIGH => .DATA0_LOW
  | .DATA1_HIGH => .DATA1_LOW
  | sm => sm

/-- The register of the flit after a whole data flit. -/
def EgrSm.afterData : EgrSm → EgrSm
  | .DATA0_HIGH => .DATA1_HIGH
  | .DATA1_HIGH => .CMD
  | sm => sm

lemma EgrSm.next_high {sm : EgrSm} (h : sm.isHigh = true) (x : Flit) : sm.next x = sm.low := by
  cases sm <;> first | rfl | exact absurd h (by decide)

lemma EgrSm.next_low {sm : EgrSm} (h : sm.isHigh = true) (x : Flit) :
    sm.low.next x = sm.afterData := by
  cases sm <;> first | rfl | exact absurd h (by decide)

lemma EgrSm.low_ne {sm : EgrSm} (h : sm.isHigh = true) : sm.low ≠ sm := by
  cases sm <;> first | decide | exact absurd h (by decide)

namespace EgressPort

/-! ## A cycle is a forward and then a load -/

/-- The registers after the forward of a cycle. -/
def forwarded (p : EgressPort) : EgrSm → Option Flit :=
  if p.ping_pong_ready then Function.update p.regs p.port_sm none else p.regs

lemma room_eq (p : EgressPort) (r : EgrSm) : p.room r = (p.forwarded r).isNone := by
  rw [room, forwarded]
  cases p.ping_pong_ready
  · simp
  · by_cases hr : p.port_sm = r
    · subst hr
      simp
    · simp [hr, Function.update_of_ne (Ne.symm hr)]

/-- An empty register takes what is there for it. -/
lemma step_regs (p : EgressPort) (load : EgrSm → Option Flit) (tready : Bool) (r : EgrSm) :
    (p.step load tready).regs r = (p.forwarded r).or (load r) := by
  have hroom := p.room_eq r
  simp only [step]
  cases hl : load r with
  | some x =>
      simp only
      cases hf : p.forwarded r with
      | none =>
          rw [hf] at hroom
          simp [hroom]
      | some y =>
          rw [hf] at hroom
          have hreg : p.regs r = p.forwarded r := by
            rw [room] at hroom
            rw [forwarded]
            cases hready : p.ping_pong_ready
            · rfl
            · have hne : p.port_sm ≠ r := by
                rintro rfl
                simp [hready] at hroom
              simp [Function.update_of_ne hne.symm]
          simp [hroom, hreg, hf]
  | none =>
      simp only [Option.or_none, forwarded]
      cases p.ping_pong_ready
      · simp
      · by_cases hr : p.port_sm = r
        · subst hr
          simp
        · simp [hr, Function.update_of_ne (Ne.symm hr)]

/-- What a port has taken over (`pend`), the register of what it takes next (`tail`), and the upper
half that it has loaded before its flit is accepted (`early`). -/
structure Inv (p : EgressPort) (pend : List Flit) (tail : EgrSm) (early : List Flit) : Prop where
  held : ∃ q ys, pend = q ++ ys ∧ p.out.Holds q ∧
    SlotQueue.Holds EgrSm.next p.regs p.port_sm (ys ++ early) ∧
    SlotQueue.after EgrSm.next p.port_sm ys = tail
  early_low : early ≠ [] → tail.isHigh = true ∧ (p.regs tail.low).isSome ∧ early.length = 1

lemma inv_init : Inv {} [] .CMD [] where
  held := ⟨[], [], rfl, .empty, fun _ => rfl, rfl⟩
  early_low := fun h => absurd rfl h

variable {p : EgressPort} {pend : List Flit} {tail : EgrSm} {early : List Flit}

/-- The state of a port between the forward and the load. -/
structure Forwarded (p : EgressPort) (load : EgrSm → Option Flit) (tready : Bool)
    (pend : List Flit) (tail : EgrSm) (early : List Flit) : Prop where
  held : ∃ q ys, pend = q ++ ys ∧ (p.step load tready).out.Holds q ∧
    SlotQueue.Holds EgrSm.next p.forwarded (p.step load tready).port_sm (ys ++ early) ∧
    SlotQueue.after EgrSm.next (p.step load tready).port_sm ys = tail
  early_high : early ≠ [] → tail.isHigh = true ∧ early.length = 1

/-- **The forward of a cycle.**  The half that is early stays where it is. -/
theorem Inv.forward (h : Inv p pend tail early) (load : EgrSm → Option Flit) (tready : Bool) :
    ∃ pend', Forwarded p load tready pend' tail early ∧ p.out.out tready ++ pend' = pend := by
  obtain ⟨⟨q, ys, rfl, hq, hregs, htail⟩, hearly⟩ := h
  have hnext := hq.step (p.regs p.port_sm) tready
  cases hr : p.ping_pong_ready with
  | false =>
      have hr' : p.out.ready = false := hr
      rw [hr'] at hnext
      simp only [Bool.false_eq_true, if_false, List.append_nil] at hnext
      have hsm : (p.step load tready).port_sm = p.port_sm := by
        simp only [step, hr]
        cases p.regs p.port_sm <;> rfl
      refine ⟨_, ⟨⟨_, ys, rfl, hnext, ?_, ?_⟩, fun he => ⟨(hearly he).1, (hearly he).2.2⟩⟩, ?_⟩
      · rw [hsm, forwarded, hr]
        exact hregs
      · rw [hsm, htail]
      · rw [← List.append_assoc, hq.out_append]
  | true =>
      have hr' : p.out.ready = true := hr
      rw [hr'] at hnext
      simp only [if_true] at hnext
      have hhead := hregs.head_eq
      have hout : (p.step load tready).out = p.out.step (p.regs p.port_sm) tready := rfl
      rw [← hout] at hnext
      cases ys with
      | nil =>
          -- an early half would be the only one, but the register next to it is occupied
          have hnil : early = [] := by
            by_contra he
            obtain ⟨hhigh, hlow, hlen⟩ := hearly he
            obtain ⟨x, rfl⟩ := List.length_eq_one_iff.mp hlen
            obtain rfl : p.port_sm = tail := htail
            have hnone := hregs.2.eq_none p.port_sm.low
            rw [Function.update_of_ne (EgrSm.low_ne hhigh)] at hnone
            simp [hnone] at hlow
          subst hnil
          simp only [List.append_nil, List.head?_nil] at hhead
          have hsm : (p.step load tready).port_sm = p.port_sm := by simp only [step, hhead]
          rw [hhead, Option.toList_none, List.append_nil] at hnext
          refine ⟨_, ⟨⟨_, [], rfl, hnext, ?_, ?_⟩, fun he => absurd rfl he⟩, ?_⟩
          · rw [hsm, forwarded, hr]
            exact hregs.clear_nil
          · rw [hsm]
            exact htail
          · rw [List.append_nil, List.append_nil, hq.out_append]
      | cons y ys =>
          simp only [List.cons_append, List.head?_cons] at hhead
          have hsm : (p.step load tready).port_sm = p.port_sm.next y := by
            simp only [step, hhead, hr, if_true]
          rw [hhead] at hnext
          refine ⟨_, ⟨⟨_, ys, rfl, hnext, ?_, ?_⟩, fun he => ⟨(hearly he).1, (hearly he).2.2⟩⟩, ?_⟩
          · rw [hsm, forwarded, hr]
            exact hregs.2
          · rw [hsm]
            exact htail
          · rw [← List.append_assoc, ← List.append_assoc, hq.out_append]
            simp

lemma Inv.count_le (h : Inv p pend tail early) : p.out.count ≤ pend.length := by
  obtain ⟨q, ys, rfl, hq, -⟩ := h.held
  rw [hq.count_eq, List.length_append]
  exact Nat.le_add_right _ _

/-- A port that neither hands over nor forwards is empty. -/
lemma Inv.quiet (h : Inv p pend tail early) (hout : p.out.out true = [])
    (hreg : p.regs p.port_sm = none) : pend = [] ∧ ∀ r, p.room r = true := by
  obtain ⟨q, ys, rfl, hq, hregs, -⟩ := h.held
  have hys : ys ++ early = [] := by
    rw [hregs.head_eq] at hreg
    exact List.head?_eq_none_iff.mp hreg
  have hqnil : q = [] := by
    rw [hq.out_eq, if_pos rfl] at hout
    cases q with
    | nil => rfl
    | cons x q => cases hout
  rw [hys] at hregs
  refine ⟨by rw [hqnil, (List.append_eq_nil_iff.mp hys).1]; rfl, fun r => ?_⟩
  rw [room, hregs.eq_none r]
  rfl

/-! ## What the input has for the registers -/

/-- A command or a response. -/
def offerCmd (x : Flit) : EgrSm → Option Flit := Function.update (fun _ => none) .CMD (some x)

/-- A data flit, for the register `sm` and the one next to it. -/
def offerData (sm : EgrSm) (hi lo : Flit) : EgrSm → Option Flit :=
  Function.update (Function.update (fun _ => none) sm (some hi)) sm.low (some lo)

/-- Loading a register that is empty. -/
lemma or_update {r : EgrSm → Option Flit} {load : EgrSm → Option Flit} {j : EgrSm} {x : Flit}
    (hr : r j = none) :
    (fun k => (r k).or (Function.update load j (some x) k))
      = Function.update (fun k => (r k).or (load k)) j (some x) := by
  funext k
  by_cases hk : k = j
  · rw [hk, hr, Function.update_self, Function.update_self, Option.none_or]
  · rw [Function.update_of_ne hk, Function.update_of_ne hk]

/-- Loading a register that is occupied. -/
lemma or_update_of_some {r : EgrSm → Option Flit} {load : EgrSm → Option Flit} {j : EgrSm}
    {x : Flit} (hr : (r j).isSome = true) :
    (fun k => (r k).or (Function.update load j (some x) k)) = fun k => (r k).or (load k) := by
  funext k
  by_cases hk : k = j
  · obtain ⟨y, hy⟩ := Option.isSome_iff_exists.mp hr
    rw [hk, hy, Option.some_or, Option.some_or]
  · rw [Function.update_of_ne hk]

lemma or_none (r : EgrSm → Option Flit) :
    (fun k => (r k).or ((fun _ => none : EgrSm → Option Flit) k)) = r := by
  funext k
  rw [Option.or_none]

namespace Forwarded

variable {load : EgrSm → Option Flit} {tready : Bool}

lemma regs_eq (p : EgressPort) (load : EgrSm → Option Flit) (tready : Bool) :
    (p.step load tready).regs = fun k => (p.forwarded k).or (load k) :=
  funext fun r => p.step_regs load tready r

/-- Nothing is there for the port. -/
lemma idle (h : Forwarded p (fun _ => none) tready pend tail []) :
    Inv (p.step (fun _ => none) tready) pend tail [] := by
  obtain ⟨q, ys, hpend, hq, hregs, htail⟩ := h.held
  exact ⟨⟨q, ys, hpend, hq, by rw [regs_eq, or_none]; exact hregs, htail⟩, fun he => absurd rfl he⟩

/-- A command is there for the port. -/
lemma cmd {x : Flit} (h : Forwarded p (offerCmd x) tready pend .CMD []) :
    if p.room .CMD then Inv (p.step (offerCmd x) tready) (pend ++ [x]) (EgrSm.CMD.next x) []
    else Inv (p.step (offerCmd x) tready) pend .CMD [] := by
  obtain ⟨q, ys, rfl, hq, hregs, htail⟩ := h.held
  rw [List.append_nil] at hregs
  rw [p.room_eq]
  cases hf : p.forwarded .CMD with
  | none =>
      have hpush := hregs.push (by rw [htail, hf]) x
      rw [htail] at hpush
      refine ⟨⟨q, ys ++ [x], List.append_assoc _ _ _, hq, ?_, ?_⟩, fun he => absurd rfl he⟩
      · rw [regs_eq, offerCmd, or_update hf, or_none, List.append_nil]
        exact hpush
      · rw [SlotQueue.after_append, htail]
        rfl
  | some y =>
      refine ⟨⟨q, ys, rfl, hq, ?_, htail⟩, fun he => absurd rfl he⟩
      rw [regs_eq, offerCmd, or_update_of_some (by rw [hf]; rfl), or_none, List.append_nil]
      exact hregs

/-- A data flit is there for the port: it is accepted if there is room for its lower half, and its
upper half is loaded by then. -/
lemma data {hi lo : Flit} (h : Forwarded p (offerData tail hi lo) tready pend tail early)
    (hhigh : tail.isHigh = true) (hearly : early = [] ∨ early = [hi]) :
    if p.room tail.low then
      Inv (p.step (offerData tail hi lo) tready) (pend ++ [hi, lo]) tail.afterData []
    else ∃ early', (early' = [] ∨ early' = [hi]) ∧
      Inv (p.step (offerData tail hi lo) tready) pend tail early' := by
  obtain ⟨q, ys, rfl, hq, hregs, htail⟩ := h.held
  have hne := EgrSm.low_ne hhigh
  have hlow : SlotQueue.after EgrSm.next (p.step (offerData tail hi lo) tready).port_sm
      (ys ++ [hi]) = tail.low := by
    rw [SlotQueue.after_append, htail]
    exact EgrSm.next_high hhigh hi
  have hafter : SlotQueue.after EgrSm.next (p.step (offerData tail hi lo) tready).port_sm
      (ys ++ [hi, lo]) = tail.afterData := by
    rw [SlotQueue.after_append, htail]
    exact (congrArg (EgrSm.next · lo) (EgrSm.next_high hhigh hi)).trans (EgrSm.next_low hhigh lo)
  rw [p.room_eq]
  rcases hearly with rfl | rfl
  · rw [List.append_nil] at hregs
    cases hf : p.forwarded tail.low with
    | none =>
        -- an older upper half would have its lower half behind it
        have hfree : p.forwarded tail = none := by
          cases hy : p.forwarded tail with
          | none => rfl
          | some y =>
              have hnext := hregs.next_of_mem hy
              rw [EgrSm.next_high hhigh, htail, hf] at hnext
              rcases hnext with hnext | hnext
              · exact absurd hnext hne
              · cases hnext
        have hpush := hregs.push (by rw [htail, hfree]) hi
        rw [htail] at hpush
        have hpush := hpush.push (by rw [hlow, Function.update_of_ne hne, hf]) lo
        rw [hlow] at hpush
        have hload : (p.step (offerData tail hi lo) tready).regs
            = Function.update (Function.update p.forwarded tail (some hi)) tail.low (some lo) := by
          rw [regs_eq, offerData, or_update hf, or_update hfree, or_none]
        refine ⟨⟨q, ys ++ [hi, lo], List.append_assoc _ _ _, hq, ?_, hafter⟩,
          fun he => absurd rfl he⟩
        rw [hload]
        simpa using hpush
    | some z =>
        have hsome : (p.forwarded tail.low).isSome = true := by rw [hf]; rfl
        cases hfree : p.forwarded tail with
        | none =>
            have hpush := hregs.push (by rw [htail, hfree]) hi
            rw [htail] at hpush
            refine ⟨[hi], .inr rfl, ⟨q, ys, rfl, hq, ?_, htail⟩, fun _ => ⟨hhigh, ?_, rfl⟩⟩
            · rw [regs_eq, offerData, or_update_of_some hsome, or_update hfree, or_none]
              exact hpush
            · rw [regs_eq]
              simp [hf]
        | some y =>
            refine ⟨[], .inl rfl, ⟨q, ys, rfl, hq, ?_, htail⟩, fun he => absurd rfl he⟩
            rw [regs_eq, offerData, or_update_of_some hsome,
              or_update_of_some (by rw [hfree]; rfl), or_none, List.append_nil]
            exact hregs
  · have hheld : (p.forwarded tail).isSome = true := by
      rw [← htail, hregs.apply_after]
      rfl
    cases hf : p.forwarded tail.low with
    | none =>
        have hpush := hregs.push (by rw [hlow, hf]) lo
        rw [hlow] at hpush
        have hload : (p.step (offerData tail hi lo) tready).regs
            = Function.update p.forwarded tail.low (some lo) := by
          rw [regs_eq, offerData, or_update hf, or_update_of_some hheld, or_none]
        refine ⟨⟨q, ys ++ [hi, lo], List.append_assoc _ _ _, hq, ?_, hafter⟩,
          fun he => absurd rfl he⟩
        rw [hload]
        simpa using hpush
    | some z =>
        refine ⟨[hi], .inr rfl, ⟨q, ys, rfl, hq, ?_, htail⟩, fun _ => ⟨hhigh, ?_, rfl⟩⟩
        · rw [regs_eq, offerData, or_update_of_some (by rw [hf]; rfl), or_update_of_some hheld,
            or_none]
          exact hregs
        · rw [regs_eq]
          simp [hf]

end Forwarded

end EgressPort

end ThymesisFlow
