import ThymesisFlow.Lib.Machine
import ThymesisFlow.Lib.TwoSlot

/-!
# Two runs of one machine

A property of two runs is a property of the runs of the pair, in which both copies make one step at
a time.  `pair_collect_eq` is the rule by which two runs are shown to do the same: a relation between
the two states that holds at reset and survives every step meeting `ok`, and makes the two
observations of the step equal.

`Agree` relates the streams between two parts of such a pair.  A stream carries elements of several
kinds, and the kind of an element follows from those before it; elements of some kinds have to
agree, the others need not.  `Agree.Buffered` is the same for streams that go on in ping-pong buffers.
-/

namespace ThymesisFlow

namespace Machine

variable {σ ι α : Type*} (M : Machine σ ι)

/-- Both copies make a step. -/
def pair : Machine (σ × σ) (ι × ι) where
  init := (M.init, M.init)
  step s i := (M.step s.1 i.1, M.step s.2 i.2)

lemma pair_run (is : List (ι × ι)) :
    M.pair.run is = (M.run (is.map Prod.fst), M.run (is.map Prod.snd)) := by
  induction is using List.reverseRecOn with
  | nil => rfl
  | append_singleton is i ih =>
      rw [run_concat, ih, List.map_append, List.map_append]
      exact (Prod.ext (M.run_concat _ _) (M.run_concat _ _)).symm

/-- **The rule for two runs.** -/
theorem pair_collect_eq {R : σ → σ → Prop} {ok : σ × σ → ι × ι → Prop} {out : σ → ι → List α}
    (hinit : R M.init M.init)
    (hstep : ∀ s t i j, R s t → ok (s, t) (i, j) →
      R (M.step s i) (M.step t j) ∧ out s i = out t j) (is : List (ι × ι))
    (hok : M.pair.Meets ok is) :
    M.collect out (is.map Prod.fst) = M.collect out (is.map Prod.snd) := by
  have hboth : R (M.run (is.map Prod.fst)) (M.run (is.map Prod.snd)) ∧
      M.collect out (is.map Prod.fst) = M.collect out (is.map Prod.snd) := by
    induction is using List.reverseRecOn with
    | nil => exact ⟨hinit, rfl⟩
    | append_singleton is i ih =>
        obtain ⟨hpre, hi⟩ := (M.pair.meets_concat ok is i).mp hok
        obtain ⟨hrel, hout⟩ := ih hpre
        rw [pair_run] at hi
        obtain ⟨hrel', hout'⟩ := hstep _ _ i.1 i.2 hrel hi
        rw [List.map_append, List.map_append]
        simp only [List.map_cons, List.map_nil, run_concat, collect_concat]
        exact ⟨hrel', by rw [hout, hout']⟩
  exact hboth.2

end Machine

/-! ## Streams of elements of several kinds -/

section Agree

variable {κ α : Type*} (next : κ → α → κ) (R : κ → α → α → Prop)

/-- Two streams that begin with an element of kind `k` and go on to one of kind `k'`
(`Agree next R k xs ys k'`): elements of kind `k` are related by `R k`. -/
inductive Agree : κ → List α → List α → κ → Prop
  | nil {k : κ} : Agree k [] [] k
  | cons {k k' : κ} {x y : α} {xs ys : List α} (h : R k x y) (rest : Agree (next k x) xs ys k') :
      Agree k (x :: xs) (y :: ys) k'

namespace Agree

variable {next R} {k k' : κ} {xs ys : List α}

/-- One more element at the end. -/
lemma snoc (h : Agree next R k xs ys k') {x y : α} (hxy : R k' x y) :
    Agree next R k (xs ++ [x]) (ys ++ [y]) (next k' x) := by
  induction h with
  | nil => exact .cons hxy .nil
  | cons h _ ih => exact .cons h (ih hxy)

/-- The first element. -/
lemma head {x y : α} (h : Agree next R k (x :: xs) (y :: ys) k') :
    R k x y ∧ Agree next R (next k x) xs ys k' := by
  cases h with
  | cons h rest => exact ⟨h, rest⟩

end Agree

/-- Two streams, each in front of a buffer: the flits `xs` and then the entries of `b`, the flits
`ys` and then the entries of `c`. -/
structure Agree.Buffered {α : Type} (next : κ → α → κ) (R : κ → α → α → Prop) (k : κ)
    (xs : List α) (b : TwoSlot α) (ys : List α) (c : TwoSlot α) (k' : κ) : Prop where
  entries : ∃ q r, b.Holds q ∧ c.Holds r ∧ Agree next R k (xs ++ q) (ys ++ r) k'
  aligned : TwoSlot.Aligned b c
  length_eq : xs.length = ys.length

namespace Agree.Buffered

variable {α : Type} {next : κ → α → κ} {R : κ → α → α → Prop} {k k' : κ} {xs ys : List α}
  {b c : TwoSlot α}

lemma init (k : κ) (x : α) :
    Buffered next R k [] { ping := x, pong := x } [] { ping := x, pong := x } k where
  entries := ⟨[], [], .empty, .empty, .nil⟩
  aligned := ⟨rfl, rfl, rfl, rfl⟩
  length_eq := rfl

/-- The first flits leave the streams. -/
lemma pop {x y : α} (h : Buffered next R k (x :: xs) b (y :: ys) c k') :
    R k x y ∧ Buffered next R (next k x) xs b ys c k' := by
  obtain ⟨q, r, hq, hr, hagree⟩ := h.entries
  obtain ⟨hxy, hrest⟩ := hagree.head
  exact ⟨hxy, ⟨q, r, hq, hr, hrest⟩, h.aligned, Nat.succ.inj h.length_eq⟩

lemma tdata_related (h : Buffered next R k [] b [] c k') (hv : b.tvalid = true) :
    R k b.tdata c.tdata := by
  obtain ⟨q, r, hq, hr, hagree⟩ := h.entries
  have hv' := h.aligned.tvalid_eq.symm.trans hv
  rw [hq.tvalid_eq] at hv
  rw [hr.tvalid_eq] at hv'
  cases q with
  | nil => cases hv
  | cons x q =>
      cases r with
      | nil => cases hv'
      | cons y r =>
          rw [hq.tdata_eq, hr.tdata_eq]
          exact hagree.head.1

/-- The kind of the next entry after the offer `x`. -/
def after (next : κ → α → κ) (k : κ) (x : Option α) : κ := x.elim k (next k)

/-- **One cycle of both buffers.**  What they hand over is behind the flits in front of them. -/
lemma step (h : Buffered next R k xs b ys c k') {x y : Option α} (hxy : x.isSome = y.isSome)
    (hR : b.ready = true → ∀ u v, x = some u → y = some v → R k' u v) (tready : Bool) :
    Buffered next R k (xs ++ b.out tready) (b.step x tready) (ys ++ c.out tready)
      (c.step y tready) (if b.ready then after next k' x else k') := by
  obtain ⟨q, r, hq, hr, hagree⟩ := h.entries
  have hout : (b.out tready).length = (c.out tready).length := by
    rw [TwoSlot.out, TwoSlot.out, h.aligned.tvalid_eq]
    cases c.tvalid && tready <;> rfl
  refine ⟨⟨_, _, hq.step x tready, hr.step y tready, ?_⟩, h.aligned.step hxy tready, ?_⟩
  · rw [List.append_assoc, List.append_assoc, ← List.append_assoc (b.out tready), hq.out_append,
      ← List.append_assoc (c.out tready), hr.out_append, ← List.append_assoc, ← List.append_assoc,
      ← h.aligned.ready_eq]
    cases hready : b.ready with
    | false => simpa using hagree
    | true =>
        cases x with
        | none =>
            cases y with
            | none => simpa [after] using hagree
            | some v => cases hxy
        | some u =>
            cases y with
            | none => cases hxy
            | some v => exact hagree.snoc (hR hready u v rfl rfl)
  · rw [List.length_append, List.length_append, h.length_eq, hout]

end Agree.Buffered

end Agree

end ThymesisFlow
