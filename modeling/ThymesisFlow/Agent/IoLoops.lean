import Mathlib.Algebra.Order.BigOperators.Group.Finset
import ThymesisFlow.Agent.Transport
import ThymesisFlow.Lib.CallLoop

/-!
# The loops on the socket when a call fails

`read_message` and `write_message` of `proto.c` once more, now with every result that `recv` and `write`
can have: a number of bytes, 0 when the peer has closed the connection, -1 for an error.  Neither loop
looks at the sign of the result.  A call that fails takes back the `i++` of its pass, a call that moves
nothing is a pass like any other, and at the end both functions report success.
-/

namespace ThymesisFlow

/-- The results of the calls: bytes moved, of the `MSG_SIZE` requested, or -1. -/
structure IoResults where
  num_read : ℕ → ℤ
  ge : ∀ k, -1 ≤ num_read k
  le : ∀ k, num_read k ≤ MSG_SIZE

namespace IoResults

variable (r : IoResults)

/-- The bytes that the first `n` calls move. -/
def bytes (n : ℕ) : ℕ := ∑ k ∈ Finset.range n, (r.num_read k).toNat

/-- These bytes, and one for every call that does not fail. -/
def advance (n : ℕ) : ℕ := ∑ k ∈ Finset.range n, (r.num_read k + 1).toNat

end IoResults

/-! ## The functions -/

/-- The loop variable, a `size_t`, and what the calls have moved. -/
structure IoState (α : Type*) where
  i : BitVec 64 := 0
  data : α

/-- `i += num_read` in a loop with `i++`.  `move` is what a call moves when the loop variable is at `i`. -/
def ioLoop {α : Type*} (move : α → BitVec 64 → ℕ → α) : CallLoop (IoState α) ℤ where
  more s := s.i < BitVec.ofNat 64 MSG_SIZE
  body s num_read :=
    { i := s.i + BitVec.ofInt 64 num_read + 1, data := move s.data s.i num_read.toNat }

/-- How many bytes of the stream have been received, and the buffer: the byte of the stream at each
offset, or `none` for `NULL`. -/
structure Received where
  count : ℕ := 0
  msg : Option (Stored ℕ)

namespace Io

/-- The next bytes of the stream are stored from the offset `i` on. -/
def recv (s : Received) (i : BitVec 64) (n : ℕ) : Received where
  count := s.count + n
  msg := s.msg.map fun buf => buf.store i.toNat (List.range' s.count n)

def read_message : CallLoop (IoState Received) ℤ := ioLoop recv

/-- Before the first pass; `malloc` may return `NULL`. -/
def readStart (malloc : Bool) : IoState Received where
  data := { msg := if malloc then some fun _ => none else none }

/-- The first bytes of the message go on the stream, whatever `i` is. -/
def write (stream : List ℕ) (_ : BitVec 64) (n : ℕ) : List ℕ := stream ++ List.range n

def write_message : CallLoop (IoState (List ℕ)) ℤ := ioLoop write

/-- What `write_message` returns. -/
def writeAnswer (_ : IoState (List ℕ)) : BitVec 32 := 0

end Io

/-- **`read_message` returns, and returns `NULL` if fewer than `MSG_SIZE` bytes were received.** -/
def ReadReported (malloc : Bool) (r : IoResults) : Prop :=
  ∃ t, Io.read_message.Ends (Io.readStart malloc) r.num_read t ∧
    (t.data.count < MSG_SIZE → t.data.msg = none)

/-- **`write_message` returns, and does not return zero if some byte of the message was not
written.** -/
def WriteReported (w : IoResults) : Prop :=
  ∃ t, Io.write_message.Ends { data := [] } w.num_read t ∧
    ((∃ j < MSG_SIZE, j ∉ t.data) → Io.writeAnswer t ≠ 0)

/-! ## The loop variable -/

namespace IoResults

variable (r : IoResults) {n m : ℕ}

lemma bytes_succ (n : ℕ) : r.bytes (n + 1) = r.bytes n + (r.num_read n).toNat :=
  Finset.sum_range_succ _ n

lemma advance_succ (n : ℕ) : r.advance (n + 1) = r.advance n + (r.num_read n + 1).toNat :=
  Finset.sum_range_succ _ n

lemma advance_mono (h : n ≤ m) : r.advance n ≤ r.advance m :=
  Finset.sum_le_sum_of_subset (Finset.range_subset_range.mpr h)

/-- The loop variable after a pass, modulo 2^64. -/
lemma ofNat_advance_succ (n : ℕ) : BitVec.ofNat 64 (r.advance (n + 1))
    = BitVec.ofNat 64 (r.advance n) + BitVec.ofInt 64 (r.num_read n) + 1 := by
  have hge := r.ge n
  have hint : ((r.advance (n + 1) : ℕ) : ℤ) = r.advance n + r.num_read n + 1 := by
    rw [advance_succ]
    omega
  have hof (k : ℕ) : BitVec.ofNat 64 k = BitVec.ofInt 64 k := (BitVec.ofInt_natCast 64 k).symm
  rw [hof, hof, hint, BitVec.ofInt_add, BitVec.ofInt_add]
  rfl

/-- The test of the loop, as long as the loop variable has not been large before. -/
lemma more_iff (h : r.advance n < MSG_SIZE + MSG_SIZE + 1) :
    (BitVec.ofNat 64 (r.advance n) < BitVec.ofNat 64 MSG_SIZE) ↔ r.advance n < MSG_SIZE := by
  have hsize : MSG_SIZE + MSG_SIZE + 1 < 2 ^ 64 := by decide
  rw [BitVec.lt_def, BitVec.toNat_ofNat, BitVec.toNat_ofNat, Nat.mod_eq_of_lt (by omega),
    Nat.mod_eq_of_lt (by omega)]

end IoResults

/-- What the first `n` calls move, if nothing stops the loop before. -/
def IoResults.moves {α : Type*} (r : IoResults) (move : α → BitVec 64 → ℕ → α) (d : α) : ℕ → α
  | 0 => d
  | n + 1 => move (r.moves move d n) (BitVec.ofNat 64 (r.advance n)) (r.num_read n).toNat

section Ends

variable {α : Type*} {move : α → BitVec 64 → ℕ → α} {d : α} {r : IoResults} {t : IoState α}

/-- **A loop is left** in the pass in which the bytes and the calls together reach `MSG_SIZE`. -/
lemma ioLoop_ends_iff :
    (ioLoop move).Ends { data := d } r.num_read t ↔
      ∃ k, r.advance k < MSG_SIZE ∧ MSG_SIZE ≤ r.advance (k + 1) ∧
        t = { i := BitVec.ofNat 64 (r.advance (k + 1)), data := r.moves move d (k + 1) } := by
  have hpos : 0 < MSG_SIZE := by decide
  let f (n : ℕ) : IoState α := { i := BitVec.ofNat 64 (r.advance n), data := r.moves move d n }
  have hf (n : ℕ) : f (n + 1) = (ioLoop move).body (f n) (r.num_read n) := by
    simp only [f]
    rw [r.ofNat_advance_succ]
    rfl
  have hmore (n : ℕ) (h : n = 0 ∨ r.advance (n - 1) < MSG_SIZE) :
      (ioLoop move).more (f n) = true ↔ r.advance n < MSG_SIZE := by
    refine decide_eq_true_iff.trans (r.more_iff ?_)
    cases n with
    | zero => exact Nat.lt_of_le_of_lt (Nat.le_refl 0) (by omega)
    | succ k =>
        have hk := r.advance_succ k
        have hle := r.le k
        rw [Nat.add_sub_cancel] at h
        omega
  rw [show ({ data := d } : IoState α) = f 0 from rfl, CallLoop.ends_iff_of_passes rfl hf]
  constructor
  · rintro ⟨n, hfirst, hleft, rfl⟩
    -- the loop variable does not wrap before the test fails
    have hbelow : ∀ k < n, r.advance k < MSG_SIZE := by
      intro k hk
      induction k with
      | zero => exact hpos
      | succ k ih => exact (hmore (k + 1) (.inr (ih (by omega)))).mp (hfirst _ hk)
    cases n with
    | zero =>
        rw [(hmore 0 (.inl rfl)).mpr hpos] at hleft
        exact absurd hleft (by decide)
    | succ k =>
        have hk := hbelow k (Nat.lt_succ_self k)
        refine ⟨k, hk, Nat.le_of_not_lt fun hlt => ?_, rfl⟩
        rw [(hmore (k + 1) (.inr hk)).mpr hlt] at hleft
        exact absurd hleft (by decide)
  · rintro ⟨k, hk, hge, rfl⟩
    have hbelow (j : ℕ) (hj : j ≤ k) : r.advance j < MSG_SIZE :=
      Nat.lt_of_le_of_lt (r.advance_mono hj) hk
    refine ⟨k + 1, fun j hj => ?_, ?_, rfl⟩
    · exact (hmore j (.inr (hbelow _ (by omega)))).mpr (hbelow j (by omega))
    · rw [← Bool.not_eq_true, hmore (k + 1) (.inr hk)]
      exact Nat.not_lt.mpr hge

end Ends

/-! ## What is moved -/

namespace IoResults

variable (r : IoResults)

lemma count_moves (d : Received) (n : ℕ) : (r.moves Io.recv d n).count = d.count + r.bytes n := by
  induction n with
  | zero => rfl
  | succ n ih => rw [moves, Io.recv, ih, bytes_succ, Nat.add_assoc]

/-- The buffer stays where it is. -/
lemma msg_moves (d : Received) (n : ℕ) : (r.moves Io.recv d n).msg = none ↔ d.msg = none := by
  induction n with
  | zero => rfl
  | succ n ih => rw [moves, Io.recv, Option.map_eq_none_iff, ih]

/-- A byte of the message is written by a call that writes more than the bytes before it. -/
lemma mem_moves (n j : ℕ) : j ∈ r.moves Io.write [] n ↔ ∃ k < n, j < (r.num_read k).toNat := by
  induction n with
  | zero => simp [moves]
  | succ n ih =>
      rw [moves, Io.write, List.mem_append, ih, List.mem_range]
      constructor
      · rintro (⟨k, hk, hj⟩ | hj)
        · exact ⟨k, Nat.lt_succ_of_lt hk, hj⟩
        · exact ⟨n, Nat.lt_succ_self n, hj⟩
      · rintro ⟨k, hk, hj⟩
        rcases Nat.lt_succ_iff_lt_or_eq.mp hk with hk | rfl
        · exact .inl ⟨k, hk, hj⟩
        · exact .inr hj

end IoResults

/-! ## Calls that move something

On schedules, where every call moves at least one byte, the loops are those of `Transport`. -/

section Schedules

variable {w r : Schedule} {n : ℕ}

def Schedule.results (w : Schedule) : IoResults where
  num_read k := w.count k
  ge k := by omega
  le k := Int.ofNat_le.mpr (w.le k)

lemma Schedule.advance_succ (w : Schedule) (n : ℕ) :
    w.results.advance (n + 1) = w.results.advance n + w.count n + 1 := by
  rw [IoResults.advance_succ]
  change _ + ((w.count n : ℤ) + 1).toNat = _
  omega

lemma moves_write_append (h : ∀ k < n, w.results.advance k < MSG_SIZE) :
    w.results.moves Io.write [] n ++ writeLoop w (List.range MSG_SIZE) n (w.results.advance n)
      = write_message w (List.range MSG_SIZE) := by
  induction n with
  | zero => rfl
  | succ n ih =>
      rw [← ih fun k hk => h k (Nat.lt_succ_of_lt hk), writeLoop_more (h n (Nat.lt_succ_self n)),
        List.take_range, Nat.min_eq_left (w.le n), w.advance_succ, ← List.append_assoc]
      rfl

/-- What is on the stream when `write_message` returns. -/
theorem write_message_eq {t : IoState (List ℕ)}
    (h : Io.write_message.Ends { data := [] } w.results.num_read t) :
    t.data = write_message w (List.range MSG_SIZE) := by
  obtain ⟨k, hk, hge, rfl⟩ := ioLoop_ends_iff.mp h
  have hbelow (j : ℕ) (hj : j < k + 1) : w.results.advance j < MSG_SIZE :=
    Nat.lt_of_le_of_lt (w.results.advance_mono (Nat.le_of_lt_succ hj)) hk
  rw [← moves_write_append hbelow, writeLoop_done hge, List.append_nil]

/-- Both loops receive the same, as long as the stream does not run dry. -/
lemma readLoop_moves {size : ℕ} (h : ∀ k < n, r.results.advance k < MSG_SIZE)
    (hsize : r.results.bytes n ≤ size) :
    ∃ buf, (r.results.moves Io.recv (Io.readStart true).data n).msg = some buf ∧
      readLoop r (List.range' (r.results.bytes n) (size - r.results.bytes n)) buf n
        (r.results.advance n) = read_message r (List.range size) := by
  induction n with
  | zero =>
      refine ⟨fun _ => none, rfl, ?_⟩
      rw [List.range_eq_range']
      rfl
  | succ n ih =>
      have hlast := h n (Nat.lt_succ_self n)
      have hcount : (r.results.num_read n).toNat = r.count n := rfl
      have hpos := r.pos n
      have hbytes := r.results.bytes_succ n
      rw [hcount] at hbytes
      obtain ⟨buf, hbuf, hloop⟩ := ih (fun k hk => h k (Nat.lt_succ_of_lt hk)) (by omega)
      have hstart : (r.results.moves Io.recv (Io.readStart true).data n).count
          = r.results.bytes n := by
        rw [IoResults.count_moves]
        exact Nat.zero_add _
      have hi : (BitVec.ofNat 64 (r.results.advance n)).toNat = r.results.advance n := by
        have hsmall : MSG_SIZE < 2 ^ 64 := by decide
        rw [BitVec.toNat_ofNat, Nat.mod_eq_of_lt (by omega)]
      refine ⟨buf.store (r.results.advance n) (List.range' (r.results.bytes n) (r.count n)), ?_, ?_⟩
      · rw [IoResults.moves, Io.recv, hbuf, hstart, hi, hcount]
        rfl
      · rw [← hloop, readLoop_more hlast (by simp; omega), List.length_range',
          Nat.min_eq_left (by omega), List.take_range'_of_length_ge (by omega), List.drop_range',
          Nat.mul_one, hbytes, r.advance_succ, Nat.sub_add_eq]

/-- The buffer that `read_message` returns, and what it leaves on the stream. -/
theorem read_message_eq {t : IoState Received} {size : ℕ}
    (h : Io.read_message.Ends (Io.readStart true) r.results.num_read t) (hsize : t.data.count ≤ size) :
    ∃ buf, t.data.msg = some buf ∧ read_message r (List.range size)
      = some (buf, List.range' t.data.count (size - t.data.count)) := by
  obtain ⟨k, hk, hge, rfl⟩ := (ioLoop_ends_iff (d := (Io.readStart true).data)).mp h
  have hcount : (r.results.moves Io.recv (Io.readStart true).data (k + 1)).count
      = r.results.bytes (k + 1) := by
    rw [IoResults.count_moves]
    exact Nat.zero_add _
  have hbelow (j : ℕ) (hj : j < k + 1) : r.results.advance j < MSG_SIZE :=
    Nat.lt_of_le_of_lt (r.results.advance_mono (Nat.le_of_lt_succ hj)) hk
  rw [hcount] at hsize ⊢
  obtain ⟨buf, hbuf, hloop⟩ := readLoop_moves hbelow hsize
  refine ⟨buf, hbuf, ?_⟩
  rw [← hloop, readLoop_done hge]

end Schedules

/-! ## When a failure is reported -/

lemma readReported_iff (malloc : Bool) (r : IoResults) :
    ReadReported malloc r ↔ ∃ k, r.advance k < MSG_SIZE ∧ MSG_SIZE ≤ r.advance (k + 1) ∧
      (malloc = true → MSG_SIZE ≤ r.bytes (k + 1)) := by
  have hstart : (Io.readStart malloc).data.msg = none ↔ malloc = false := by
    cases malloc <;> simp [Io.readStart]
  have hlast (k : ℕ) :
      ((r.moves Io.recv (Io.readStart malloc).data (k + 1)).count < MSG_SIZE →
        (r.moves Io.recv (Io.readStart malloc).data (k + 1)).msg = none) ↔
      (malloc = true → MSG_SIZE ≤ r.bytes (k + 1)) := by
    rw [r.count_moves, r.msg_moves, hstart, show (Io.readStart malloc).data.count = 0 from rfl,
      Nat.zero_add, ← Nat.not_lt]
    cases malloc <;> simp
  constructor
  · rintro ⟨t, hends, ht⟩
    obtain ⟨k, hk, hge, rfl⟩ := ioLoop_ends_iff.mp hends
    exact ⟨k, hk, hge, (hlast k).mp ht⟩
  · rintro ⟨k, hk, hge, hall⟩
    exact ⟨_, ioLoop_ends_iff.mpr ⟨k, hk, hge, rfl⟩, (hlast k).mpr hall⟩

lemma writeReported_iff (w : IoResults) :
    WriteReported w ↔ ∃ k, w.advance k < MSG_SIZE ∧ w.num_read k = MSG_SIZE := by
  have hpos : 0 < MSG_SIZE := by decide
  constructor
  · rintro ⟨t, hends, ht⟩
    obtain ⟨k, hk, -, rfl⟩ := ioLoop_ends_iff.mp hends
    have hlast : MSG_SIZE - 1 ∈ w.moves Io.write [] (k + 1) := by
      by_contra hno
      exact ht ⟨MSG_SIZE - 1, by omega, hno⟩ rfl
    obtain ⟨j, hj, hlt⟩ := (w.mem_moves _ _).mp hlast
    have hle := w.le j
    have hjk := w.advance_mono (Nat.le_of_lt_succ hj)
    exact ⟨j, by omega, by omega⟩
  · rintro ⟨k, hk, hall⟩
    have hge : MSG_SIZE ≤ w.advance (k + 1) := by
      rw [w.advance_succ, hall]
      omega
    refine ⟨_, ioLoop_ends_iff.mpr ⟨k, hk, hge, rfl⟩, ?_⟩
    rintro ⟨j, hj, hno⟩
    exact absurd ((w.mem_moves _ _).mpr ⟨k, Nat.lt_succ_self k, by rw [hall]; omega⟩) hno

/-- **A failure on the socket is reported** in these runs only: reading, some call brings the bytes
and the calls together to `MSG_SIZE`, and by then `MSG_SIZE` bytes have been received or there is no
buffer; writing, some call takes the whole message before the loop is left. -/
theorem transfers_reported_iff (malloc : Bool) (r w : IoResults) :
    (ReadReported malloc r ↔ ∃ k, r.advance k < MSG_SIZE ∧ MSG_SIZE ≤ r.advance (k + 1) ∧
      (malloc = true → MSG_SIZE ≤ r.bytes (k + 1))) ∧
    (WriteReported w ↔ ∃ k, w.advance k < MSG_SIZE ∧ w.num_read k = MSG_SIZE) :=
  ⟨readReported_iff malloc r, writeReported_iff w⟩

/-- Every call has the same result. -/
def everyCall (num_read : ℤ) (ge : -1 ≤ num_read) (le : num_read ≤ MSG_SIZE) : IoResults where
  num_read _ := num_read
  ge _ := ge
  le _ := le

/-- Every call fails. -/
def alwaysFails : IoResults := everyCall (-1) (by decide) (by decide)

/-- The peer has closed the connection. -/
def peerClosed : IoResults := everyCall 0 (by decide) (by decide)

/-- **An error that stays is never reported**: neither loop is left.  When the connection is closed
before the first byte, both loops are left, and no failure is reported. -/
theorem failures_not_reported :
    (¬ ReadReported true alwaysFails ∧ ¬ WriteReported alwaysFails) ∧
      ¬ ReadReported true peerClosed ∧ ¬ WriteReported peerClosed := by
  have hfails (n : ℕ) : alwaysFails.advance n = 0 := Finset.sum_eq_zero fun _ _ => rfl
  have hclosed (n : ℕ) : peerClosed.bytes n = 0 := Finset.sum_eq_zero fun _ _ => rfl
  have hpos : 0 < MSG_SIZE := by decide
  refine ⟨⟨?_, ?_⟩, ?_, ?_⟩
  · rw [readReported_iff]
    rintro ⟨k, -, hge, -⟩
    rw [hfails] at hge
    omega
  · rw [writeReported_iff]
    rintro ⟨k, -, hall⟩
    exact absurd (show (-1 : ℤ) = MSG_SIZE from hall) (by decide)
  · rw [readReported_iff]
    rintro ⟨k, -, -, hall⟩
    have hbytes := hall rfl
    rw [hclosed] at hbytes
    omega
  · rw [writeReported_iff]
    rintro ⟨k, -, hall⟩
    exact absurd (show (0 : ℤ) = MSG_SIZE from hall) (by decide)

end ThymesisFlow
