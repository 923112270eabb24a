import ThymesisFlow.Lib.Machine
import ThymesisFlow.Lib.RingFifo

/-!
# FIFOs that stay full

`rmem_respfifo`, `mem_data_fifo` and `mem_cmd_fifo` are one design at three sizes.  A full FIFO takes
an entry in the cycle in which its oldest one leaves: the pointers move and the row is written, but
the valid bits hold.  The number of used buffers is computed from the pointers, which are equal both
in an empty and in a full FIFO.
-/

namespace ThymesisFlow

/-- The wires of one cycle: what is offered, and whether the oldest entry leaves. -/
structure FifoIn (α : Type) where
  data_in : Option α := none
  data_sent : Bool := false
  deriving DecidableEq, Repr

namespace RingFifo

variable {w : ℕ} {α : Type} (f : RingFifo w α) (i : FifoIn α)

/-- `data_fifo_full`, which is low when the FIFO is full. -/
def ready (data_sent : Bool) : Bool := !decide f.full || (decide f.full && data_sent)

/-- The pointers, the valid bits and the rows after a cycle, each by its own conditions. -/
def exchange : RingFifo w α where
  wrptr := if i.data_in.isSome && f.ready i.data_sent then f.wrptr + 1 else f.wrptr
  rdptr := if i.data_sent then f.rdptr + 1 else f.rdptr
  val a :=
    if i.data_in.isSome && !i.data_sent && !decide f.full then a = f.wrptr || f.val a
    else if !i.data_in.isSome && i.data_sent then f.val a && a ≠ f.rdptr
    else if i.data_in.isSome && i.data_sent && !decide f.full then
      (a = f.wrptr || f.val a) && a ≠ f.rdptr
    else f.val a
  rows :=
    match i.data_in with
    | some x => if f.ready i.data_sent then f.write x else f.rows
    | none => f.rows

/-- `data_buffers_used`. -/
def buffersUsed : BitVec (w + 1) :=
  if ∀ a, f.val a = false then 0
  else if f.rdptr < f.wrptr then f.wrptr.setWidth (w + 1) - f.rdptr.setWidth (w + 1)
  else if f.wrptr < f.rdptr then
    BitVec.ofNat (w + 1) (2 ^ w) + f.wrptr.setWidth (w + 1) - f.rdptr.setWidth (w + 1)
  else BitVec.ofNat (w + 1) (2 ^ w)

/-- `data_buffers_available`. -/
def buffersAvailable : BitVec (w + 1) := BitVec.ofNat (w + 1) (2 ^ w) - f.buffersUsed

/-- The row that `a` points at, zero if it is not valid. -/
def read (zero : α) (a : BitVec w) : α := if f.val a then f.rows a else zero

/-- What is taken of what is offered. -/
def taken : List α := if f.ready i.data_sent then i.data_in.toList else []

/-- What leaves. -/
def sent (zero : α) : List α := if i.data_sent then [f.read zero f.rdptr] else []

/-! ## One cycle -/

variable {f i} {xs : List α}

lemma ready_of_not_full (h : ¬ f.full) (b : Bool) : f.ready b = true := by simp [ready, h]

lemma ready_of_full (h : f.full) (b : Bool) : f.ready b = b := by simp [ready, h]

/-- The four processes together do what they should. -/
lemma exchange_eq (f : RingFifo w α) (i : FifoIn α) : f.exchange i = match i.data_in with
    | some x =>
        if f.full then if i.data_sent then f.replace x else f
        else if i.data_sent then (f.push x).pop
        else f.push x
    | none => if i.data_sent then f.pop else f := by
  obtain ⟨data_in, data_sent⟩ := i
  cases data_in with
  | none =>
      cases data_sent with
      | false => simp [exchange]
      | true =>
          simp only [exchange, pop, RingFifo.mk.injEq, Option.isSome_none, Bool.false_and,
            Bool.false_eq_true, if_false, if_true, Bool.not_false, Bool.and_self, true_and]
          funext a
          by_cases ha : a = f.rdptr <;> simp [ha]
  | some x =>
      by_cases hf : f.full
      · cases data_sent <;> simp [exchange, ready_of_full hf, hf, replace]
      · cases data_sent with
        | false =>
            simp only [exchange, push, ready_of_not_full hf, hf, Option.isSome_some, Bool.and_self,
              if_true, Bool.false_eq_true, if_false, Bool.not_false, decide_false]
            congr 1
            funext a
            by_cases ha : a = f.wrptr <;> simp [ha]
        | true =>
            simp only [exchange, push, pop, ready_of_not_full hf, hf, Option.isSome_some,
              Bool.and_self, if_true, Bool.false_eq_true, if_false, Bool.not_true, Bool.and_false,
              Bool.false_and, Bool.not_false, decide_false]
            congr 1
            funext a
            by_cases ha : a = f.wrptr <;> by_cases hr : a = f.rdptr <;> simp [ha, hr]

/-- **One cycle of the FIFO.** -/
theorem Holds.exchange (h : f.Holds xs) (hsent : i.data_sent = true → xs ≠ []) :
    (f.exchange i).Holds ((if i.data_sent then xs.tail else xs) ++ f.taken i) := by
  have hfull := h.full_iff
  rw [exchange_eq, taken]
  obtain ⟨data_in, data_sent⟩ := i
  cases data_in with
  | none =>
      simp only [Option.toList_none, ite_self, List.append_nil]
      cases data_sent with
      | false => exact h
      | true =>
          cases xs with
          | nil => exact absurd rfl (hsent rfl)
          | cons y ys => exact h.pop
  | some x =>
      simp only
      by_cases hf : f.full
      · rw [if_pos hf, ready_of_full hf]
        cases data_sent with
        | false => simpa using h
        | true =>
            cases xs with
            | nil => exact absurd rfl (hsent rfl)
            | cons y ys => exact h.replace (hfull.mp hf) x
      · rw [if_neg hf, ready_of_not_full hf]
        have hlt : xs.length < 2 ^ w :=
          lt_of_le_of_ne h.length_le fun heq => hf (hfull.mpr heq)
        cases data_sent with
        | false => exact h.push hlt x
        | true =>
            cases xs with
            | nil => exact absurd rfl (hsent rfl)
            | cons y ys => exact (h.push hlt x).pop

lemma exchange_rdptr (f : RingFifo w α) (i : FifoIn α) :
    (f.exchange i).rdptr = if i.data_sent then f.rdptr + 1 else f.rdptr := rfl

/-- The write pointer is ahead of the read pointer, or has wrapped. -/
lemma Holds.wrptr_toNat (h : f.Holds xs) :
    f.wrptr.toNat = f.rdptr.toNat + xs.length ∨ f.wrptr.toNat + 2 ^ w = f.rdptr.toNat + xs.length := by
  have hle := h.length_le
  have hrd := f.rdptr.isLt
  have hwr : f.wrptr.toNat = (f.rdptr.toNat + xs.length) % 2 ^ w := by
    rw [h.wrptr_eq, BitVec.toNat_add, BitVec.toNat_ofNat, Nat.add_mod_mod]
  rcases Nat.lt_or_ge (f.rdptr.toNat + xs.length) (2 ^ w) with hs | hs
  · exact .inl (hwr.trans (Nat.mod_eq_of_lt hs))
  · rw [Nat.mod_eq_sub_mod hs, Nat.mod_eq_of_lt (by omega)] at hwr
    omega

lemma Holds.empty_iff (h : f.Holds xs) : (∀ a, f.val a = false) ↔ xs.length = 0 := by
  constructor
  · intro hv
    have hrd := hv f.rdptr
    rw [h.val_eq, BitVec.sub_self] at hrd
    simpa using hrd
  · intro hlen a
    rw [h.val_eq, hlen]
    rfl

lemma toNat_rows : (BitVec.ofNat (w + 1) (2 ^ w)).toNat = 2 ^ w := by
  rw [BitVec.toNat_ofNat, Nat.mod_eq_of_lt]
  exact Nat.pow_lt_pow_right (by decide) (Nat.lt_succ_self w)

/-- Equal pointers of a FIFO that is not empty are those of a full one. -/
lemma Holds.buffersUsed_eq (h : f.Holds xs) : f.buffersUsed.toNat = xs.length := by
  have hle := h.length_le
  have hcase := h.wrptr_toNat
  have hrd := f.rdptr.isLt
  have hwr := f.wrptr.isLt
  have hpow : 2 ^ (w + 1) = 2 * 2 ^ w := Nat.pow_succ'
  have hwide : ∀ a : BitVec w, (a.setWidth (w + 1)).toNat = a.toNat := fun a => by
    rw [BitVec.toNat_setWidth, Nat.mod_eq_of_lt]
    have := a.isLt
    omega
  rw [buffersUsed]
  simp only [h.empty_iff, BitVec.lt_def]
  split_ifs with h0 hlt hgt
  · exact h0.symm
  · rw [BitVec.toNat_sub_of_le (by rw [BitVec.le_def, hwide, hwide]; omega), hwide, hwide]
    omega
  · have hsum : (BitVec.ofNat (w + 1) (2 ^ w) + f.wrptr.setWidth (w + 1)).toNat
        = 2 ^ w + f.wrptr.toNat := by
      rw [BitVec.toNat_add, toNat_rows, hwide, Nat.mod_eq_of_lt (by omega)]
    rw [BitVec.toNat_sub_of_le (by rw [BitVec.le_def, hsum, hwide]; omega), hsum, hwide]
    omega
  · rw [toNat_rows]
    omega

lemma Holds.buffersAvailable_eq (h : f.Holds xs) :
    f.buffersAvailable.toNat = 2 ^ w - xs.length := by
  have hle := h.length_le
  rw [buffersAvailable, BitVec.toNat_sub_of_le
    (by rw [BitVec.le_def, toNat_rows, h.buffersUsed_eq]; exact hle), toNat_rows, h.buffersUsed_eq]

lemma Holds.read_head (h : f.Holds xs) (zero : α) : f.read zero f.rdptr = xs.headD zero := by
  have hvalid := h.valid_eq
  rw [valid] at hvalid
  rw [read, hvalid]
  cases xs with
  | nil => rfl
  | cons x xs => exact h.head_eq

lemma Holds.read_next (h : f.Holds xs) (hw : 0 < w) (zero : α) :
    f.read zero (f.rdptr + 1) = xs.getD 1 zero := by
  rw [read, h.next_valid hw]
  by_cases hlen : 1 < xs.length
  · have hrow := h.rows_eq 1 hlen
    rw [List.getD_eq_getElem?_getD, List.getElem?_eq_getElem hlen, Option.getD_some, ← hrow]
    exact if_pos (decide_eq_true hlen)
  · rw [List.getD_eq_getElem?_getD, List.getElem?_eq_none (Nat.le_of_not_lt hlen)]
    exact if_neg (by simpa using hlen)

end RingFifo

/-! ## The FIFOs -/

/-- With a second pointer that shows the entry behind the oldest one. -/
structure FullFifo (w : ℕ) (α : Type) where
  fifo : RingFifo w α
  rdptr_one_ahead : BitVec w := 1

namespace FullFifo

variable {w : ℕ} {α : Type} (f : FullFifo w α) (i : FifoIn α)

def step : FullFifo w α where
  fifo := f.fifo.exchange i
  rdptr_one_ahead := if i.data_sent then f.rdptr_one_ahead + 1 else f.rdptr_one_ahead

/-- `data_out_next_valid`. -/
def nextValid : Bool := f.fifo.val f.rdptr_one_ahead

/-- `data_out_next`. -/
def outNext (zero : α) : α := f.fifo.read zero f.rdptr_one_ahead

end FullFifo

/-- `mem_cmd_fifo`. -/
def memCmdFifo (WIDTH : ℕ) : Machine (RingFifo 3 (BitVec WIDTH)) (FifoIn (BitVec WIDTH)) :=
  ⟨{ rows := fun _ => 0 }, RingFifo.exchange⟩

/-- `mem_data_fifo`. -/
def memDataFifo (WIDTH : ℕ) : Machine (FullFifo 4 (BitVec WIDTH)) (FifoIn (BitVec WIDTH)) :=
  ⟨⟨{ rows := fun _ => 0 }, 1⟩, FullFifo.step⟩

/-- `rmem_respfifo`, which differs from `mem_data_fifo` in that it does not give out the next entry. -/
def rmemRespfifo (WIDTH : ℕ) : Machine (FullFifo 4 (BitVec WIDTH)) (FifoIn (BitVec WIDTH)) :=
  ⟨⟨{ rows := fun _ => 0 }, 1⟩, FullFifo.step⟩

/-! ## Every run -/

/-- The FIFO has taken the entries `a` and handed over the entries `b`; its outputs are those of a
queue of the entries in between. -/
def QueueOf {w WIDTH : ℕ} (f : RingFifo w (BitVec WIDTH)) (a b stored : List (BitVec WIDTH)) : Prop :=
  a = b ++ stored ∧ f.buffersAvailable.toNat = 2 ^ w - stored.length ∧
    f.valid = !stored.isEmpty ∧ f.read 0 f.rdptr = stored.headD 0

/-- The second output shows the entry behind the oldest one. -/
def ShowsNext {w WIDTH : ℕ} (f : FullFifo w (BitVec WIDTH)) (stored : List (BitVec WIDTH)) : Prop :=
  f.nextValid = decide (2 ≤ stored.length) ∧ f.outNext 0 = stored.getD 1 0

section

variable {w WIDTH : ℕ} {f : RingFifo w (BitVec WIDTH)} {i : FifoIn (BitVec WIDTH)}
  {a b stored : List (BitVec WIDTH)}

lemma RingFifo.Holds.queueOf (h : f.Holds stored) (hab : a = b ++ stored) : QueueOf f a b stored :=
  ⟨hab, h.buffersAvailable_eq, h.valid_eq, h.read_head 0⟩

/-- What a cycle takes goes to the end, what it hands over was in front. -/
lemma queue_step (h : f.Holds stored) (hab : a = b ++ stored)
    (hpop : i.data_sent = true → f.valid = true) :
    ∃ stored', (f.exchange i).Holds stored' ∧ a ++ f.taken i = b ++ f.sent i 0 ++ stored' := by
  have hne : i.data_sent = true → stored ≠ [] := by
    rintro hsent rfl
    have hvalid := hpop hsent
    rw [h.valid_eq] at hvalid
    exact absurd hvalid (by simp)
  refine ⟨_, h.exchange hne, ?_⟩
  have hfront : f.sent i 0 ++ (if i.data_sent then stored.tail else stored) = stored := by
    rw [RingFifo.sent, h.read_head]
    cases hs : i.data_sent with
    | false => rfl
    | true =>
        obtain ⟨x, xs, rfl⟩ := List.exists_cons_of_ne_nil (hne hs)
        rfl
  rw [hab, List.append_assoc b, List.append_assoc b, ← List.append_assoc (f.sent i 0), hfront]

/-- The second pointer is one ahead. -/
lemma full_queue {M : Machine (FullFifo 4 (BitVec WIDTH)) (FifoIn (BitVec WIDTH))}
    (hM : M = memDataFifo WIDTH) (is : List (FifoIn (BitVec WIDTH)))
    (hpop : M.Meets (fun f i => i.data_sent = true → f.fifo.valid = true) is) :
    ∃ stored, QueueOf (M.run is).fifo (M.collect (fun f i => f.fifo.taken i) is)
      (M.collect (fun f i => f.fifo.sent i 0) is) stored ∧ ShowsNext (M.run is) stored := by
  subst hM
  have hrun : ∃ stored, ((memDataFifo WIDTH).run is).fifo.Holds stored ∧
      (memDataFifo WIDTH).collect (fun f i => f.fifo.taken i) is
        = (memDataFifo WIDTH).collect (fun f i => f.fifo.sent i 0) is ++ stored ∧
      ((memDataFifo WIDTH).run is).rdptr_one_ahead = ((memDataFifo WIDTH).run is).fifo.rdptr + 1 := by
    refine (memDataFifo WIDTH).trace_invariant (P := fun f a b => ∃ stored, f.fifo.Holds stored ∧
      a = b ++ stored ∧ f.rdptr_one_ahead = f.fifo.rdptr + 1)
      ⟨[], RingFifo.holds_nil rfl fun _ => rfl, rfl, rfl⟩ ?_ is hpop
    rintro f a b i ⟨stored, h, hab, hahead⟩ hpop
    obtain ⟨stored', h', hab'⟩ := queue_step h hab hpop
    refine ⟨stored', h', hab', ?_⟩
    change (if i.data_sent then f.rdptr_one_ahead + 1 else f.rdptr_one_ahead)
      = (if i.data_sent then f.fifo.rdptr + 1 else f.fifo.rdptr) + 1
    rw [hahead]
    split <;> rfl
  obtain ⟨stored, h, hab, hahead⟩ := hrun
  refine ⟨stored, h.queueOf hab, ?_, ?_⟩
  · rw [FullFifo.nextValid, hahead]
    exact h.next_valid (by decide)
  · rw [FullFifo.outNext, hahead]
    exact h.read_next (by decide) 0

/-- **The FIFOs are queues**: as long as nothing is popped that is not valid, each of them hands
over what it was offered while it was ready, in order, and its outputs tell how many entries it
holds and what the next ones are. -/
theorem full_fifos_refine_queue (WIDTH : ℕ) (is : List (FifoIn (BitVec WIDTH))) :
    ((rmemRespfifo WIDTH).Meets (fun f i => i.data_sent = true → f.fifo.valid = true) is →
      ∃ stored, QueueOf ((rmemRespfifo WIDTH).run is).fifo
        ((rmemRespfifo WIDTH).collect (fun f i => f.fifo.taken i) is)
        ((rmemRespfifo WIDTH).collect (fun f i => f.fifo.sent i 0) is) stored ∧
      ShowsNext ((rmemRespfifo WIDTH).run is) stored) ∧
    ((memDataFifo WIDTH).Meets (fun f i => i.data_sent = true → f.fifo.valid = true) is →
      ∃ stored, QueueOf ((memDataFifo WIDTH).run is).fifo
        ((memDataFifo WIDTH).collect (fun f i => f.fifo.taken i) is)
        ((memDataFifo WIDTH).collect (fun f i => f.fifo.sent i 0) is) stored ∧
      ShowsNext ((memDataFifo WIDTH).run is) stored) ∧
    ((memCmdFifo WIDTH).Meets (fun f i => i.data_sent = true → f.valid = true) is →
      ∃ stored, QueueOf ((memCmdFifo WIDTH).run is)
        ((memCmdFifo WIDTH).collect RingFifo.taken is)
        ((memCmdFifo WIDTH).collect (fun f i => f.sent i 0) is) stored) := by
  refine ⟨full_queue rfl is, full_queue rfl is, fun hpop => ?_⟩
  have hrun : ∃ stored, ((memCmdFifo WIDTH).run is).Holds stored ∧
      (memCmdFifo WIDTH).collect RingFifo.taken is
        = (memCmdFifo WIDTH).collect (fun f i => f.sent i 0) is ++ stored := by
    refine (memCmdFifo WIDTH).trace_invariant
      (P := fun f a b => ∃ stored, f.Holds stored ∧ a = b ++ stored)
      ⟨[], RingFifo.holds_nil rfl fun _ => rfl, rfl⟩ ?_ is hpop
    rintro f a b i ⟨stored, h, hab⟩ hpop
    exact queue_step h hab hpop
  obtain ⟨stored, h, hab⟩ := hrun
  exact ⟨stored, h.queueOf hab⟩

/-- Sixteen writes fill the FIFOs of sixteen rows; then one is written and popped at once. -/
def fillAndExchange : List (FifoIn (BitVec 8)) :=
  (List.finRange 16).map (fun k => ⟨some (BitVec.ofNat 8 k), false⟩) ++ [⟨some 0x55, true⟩]

theorem full_fifos_fillAndExchange :
    ∃ stored, QueueOf ((memDataFifo 8).run fillAndExchange).fifo
      ((memDataFifo 8).collect (fun f i => f.fifo.taken i) fillAndExchange)
      ((memDataFifo 8).collect (fun f i => f.fifo.sent i 0) fillAndExchange) stored ∧
      ShowsNext ((memDataFifo 8).run fillAndExchange) stored :=
  (full_fifos_refine_queue 8 fillAndExchange).2.1 (by decide +kernel)

end

end ThymesisFlow
