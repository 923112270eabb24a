import ThymesisFlow.Agent.Message

/-!
# Messages on the socket

`write_message` and `read_message` of `proto.c` on the two ends of a stream socket.  How many bytes
the kernel moves in each call is a `Schedule`.  The stream keeps the order of the bytes, so where
the two loops interleave does not matter: a call that finds less in the stream is one that moves
less.

Both loops add the count of a call to `i` and increment `i` once more, and both ask for `MSG_SIZE`
bytes in every call; `write` is given the beginning of the message every time.
-/

namespace ThymesisFlow

/-- The number of bytes that each call moves, between one and the `MSG_SIZE` bytes requested. -/
structure Schedule where
  count : ℕ → ℕ
  pos : ∀ k, 0 < count k
  le : ∀ k, count k ≤ MSG_SIZE

variable {α : Type*}

/-- What the calls from `k` on put on the stream, with the loop variable at `i`. -/
def writeLoop (w : Schedule) (msg : List α) (k i : ℕ) : List α :=
  if i < MSG_SIZE then msg.take (w.count k) ++ writeLoop w msg (k + 1) (i + w.count k + 1) else []
  termination_by MSG_SIZE - i

/-- The bytes that `write_message` puts on the stream. -/
def write_message (w : Schedule) (msg : List α) : List α := writeLoop w msg 0 0

/-- The bytes at offsets from the start of the buffer; `none` where nothing has been stored. -/
abbrev Stored (α : Type*) := ℕ → Option α

/-- Bytes are stored from the offset `i` on. -/
def Stored.store (buf : Stored α) (i : ℕ) (bs : List α) : Stored α := fun j =>
  if i ≤ j ∧ j < i + bs.length then bs[j - i]? else buf j

/-- What the calls from `k` on store, and what they leave on the stream; `none` if the loop waits
for bytes that never come. -/
def readLoop (r : Schedule) (stream : List α) (buf : Stored α) (k i : ℕ) :
    Option (Stored α × List α) :=
  if i < MSG_SIZE then
    if stream.isEmpty then none
    else
      let n := min (r.count k) stream.length
      readLoop r (stream.drop n) (buf.store i (stream.take n)) (k + 1) (i + n + 1)
  else some (buf, stream)
  termination_by MSG_SIZE - i

/-- What `read_message` stores in a new buffer. -/
def read_message (r : Schedule) (stream : List α) : Option (Stored α × List α) :=
  readLoop r stream (fun _ => none) 0 0

/-- **The message arrives**: every byte, which is known by its offset in the message, lands at its
own offset, nothing is stored elsewhere and nothing is left on the stream. -/
def Delivered (w r : Schedule) (msg : Message) : Prop :=
  ∃ buf, read_message r (write_message w (List.ofFn msg).zipIdx) = some (buf, []) ∧
    ∀ j, buf j = (List.ofFn msg).zipIdx[j]?

/-! ## The loops -/

section Loops

variable {w r : Schedule} {msg stream rest : List α} {buf buf' : Stored α} {k i : ℕ}

lemma writeLoop_done (h : MSG_SIZE ≤ i) : writeLoop w msg k i = [] := by
  rw [writeLoop, if_neg (by omega)]

lemma writeLoop_more (h : i < MSG_SIZE) :
    writeLoop w msg k i = msg.take (w.count k) ++ writeLoop w msg (k + 1) (i + w.count k + 1) := by
  rw [writeLoop, if_pos h]

lemma readLoop_done (h : MSG_SIZE ≤ i) : readLoop r stream buf k i = some (buf, stream) := by
  rw [readLoop, if_neg (by omega)]

lemma readLoop_more (h : i < MSG_SIZE) (hs : stream ≠ []) :
    readLoop r stream buf k i = readLoop r (stream.drop (min (r.count k) stream.length))
      (buf.store i (stream.take (min (r.count k) stream.length))) (k + 1)
      (i + min (r.count k) stream.length + 1) := by
  rw [readLoop, if_pos h, if_neg (by simpa using hs)]

/-- A call stores the bytes of the stream from the offset `i` on. -/
lemma Stored.store_eq (buf : Stored α) {i j : ℕ} (bs : List α) :
    buf.store i bs j = if i ≤ j ∧ j < i + bs.length then bs[j - i]? else buf j := rfl

/-- The loop stores nothing before the offset that it has reached. -/
lemma readLoop_before (h : readLoop r stream buf k i = some (buf', rest)) {j : ℕ} (hj : j < i) :
    buf' j = buf j := by
  induction stream, buf, k, i using readLoop.induct (r := r) with
  | case1 stream buf k i hi hs =>
      rw [readLoop, if_pos hi, if_pos hs] at h
      exact absurd h (by simp)
  | case2 stream buf k i hi hs n ih =>
      rw [readLoop_more hi (by simpa using hs)] at h
      rw [ih h (by omega), Stored.store_eq, if_neg (by omega)]
  | case3 stream buf k i hi =>
      rw [readLoop_done (by omega)] at h
      obtain ⟨rfl, rfl⟩ := Prod.mk.inj (Option.some.inj h)
      rfl

/-- A byte that the loop stores stood no further from the front of the stream than its offset is
from `i`. -/
lemma readLoop_source (h : readLoop r stream buf k i = some (buf', rest)) {j : ℕ} (hj : i ≤ j)
    {x : α} (hx : buf' j = some x) : buf j = some x ∨ ∃ p, p ≤ j - i ∧ stream[p]? = some x := by
  induction stream, buf, k, i using readLoop.induct (r := r) with
  | case1 stream buf k i hi hs =>
      rw [readLoop, if_pos hi, if_pos hs] at h
      exact absurd h (by simp)
  | case2 stream buf k i hi hs n ih =>
      rw [readLoop_more hi (by simpa using hs)] at h
      have hstore (hb : buf.store i (stream.take n) j = some x) :
          buf j = some x ∨ ∃ p, p ≤ j - i ∧ stream[p]? = some x := by
        rw [Stored.store_eq] at hb
        split_ifs at hb with hin
        · refine .inr ⟨j - i, le_rfl, ?_⟩
          rw [List.getElem?_take] at hb
          split_ifs at hb
          exact hb
        · exact .inl hb
      by_cases hn : j < i + n + 1
      · -- the offset lies in the range of this call or is the one that the loop skips
        exact hstore (readLoop_before h hn ▸ hx)
      · rcases ih h (by omega) with hb | ⟨p, hp, hpx⟩
        · exact hstore hb
        · refine .inr ⟨n + p, by omega, ?_⟩
          rwa [List.getElem?_drop] at hpx
  | case3 stream buf k i hi =>
      rw [readLoop_done (by omega)] at h
      obtain ⟨rfl, rfl⟩ := Prod.mk.inj (Option.some.inj h)
      exact .inl hx

end Loops

/-! ## When the message arrives -/

variable {w r : Schedule} {msg : Message}

lemma length_tagged (msg : Message) : (List.ofFn msg).zipIdx.length = MSG_SIZE := by simp

lemma getElem?_tagged (msg : Message) {k : ℕ} (hk : k < MSG_SIZE) :
    (List.ofFn msg).zipIdx[k]? = some (msg ⟨k, hk⟩, k) := by
  simp [hk]

/-- A full `write` puts the message on the stream, and the loop is done. -/
lemma write_message_full (hw : w.count 0 = MSG_SIZE) (tagged : List α)
    (hlen : tagged.length = MSG_SIZE) : write_message w tagged = tagged := by
  have hpos : 0 < MSG_SIZE := by decide
  rw [write_message, writeLoop_more hpos, hw, writeLoop_done (by omega), ← hlen, List.take_length,
    List.append_nil]

/-- A full `recv` stores the message, and the loop is done. -/
lemma read_message_full (hr : r.count 0 = MSG_SIZE) (stream : List α)
    (hlen : stream.length = MSG_SIZE) :
    ∃ buf, read_message r stream = some (buf, []) ∧ ∀ j, buf j = stream[j]? := by
  have hpos : 0 < MSG_SIZE := by decide
  have hne : stream ≠ [] := by
    rintro rfl
    simp [← hlen] at hpos
  refine ⟨Stored.store (fun _ => none) 0 stream, ?_, fun j => ?_⟩
  · rw [read_message, readLoop_more hpos hne, hr, hlen, Nat.min_self, readLoop_done (by omega),
      ← hlen, List.take_length, List.drop_length]
  · rw [Stored.store_eq]
    split_ifs with hj
    · rfl
    · rw [List.getElem?_eq_none (by omega)]

/-- After a short `recv` the loop skips an offset. -/
lemma recv_full (h : Delivered w r msg) (hw : w.count 0 = MSG_SIZE) : r.count 0 = MSG_SIZE := by
  obtain ⟨buf, hread, hbuf⟩ := h
  have hpos : 0 < MSG_SIZE := by decide
  rw [write_message_full hw _ (length_tagged msg), read_message,
    readLoop_more hpos (by rw [← List.length_pos_iff, length_tagged]; exact hpos), length_tagged,
    Nat.min_eq_left (r.le 0)] at hread
  by_contra hne
  have hlt : r.count 0 < MSG_SIZE := Nat.lt_of_le_of_ne (r.le 0) hne
  have hskip := readLoop_before hread (j := r.count 0) (by omega)
  rw [hbuf, getElem?_tagged msg hlt, Stored.store_eq, if_neg (by simp)] at hskip
  exact absurd hskip (by simp)

/-- After a short `write` the byte that is due next does not follow. -/
lemma write_full (h : Delivered w r msg) : w.count 0 = MSG_SIZE := by
  obtain ⟨buf, hread, hbuf⟩ := h
  have hpos : 0 < MSG_SIZE := by decide
  by_contra hne
  have hlt : w.count 0 < MSG_SIZE := Nat.lt_of_le_of_ne (w.le 0) hne
  have hk := w.pos 0
  have htag := getElem?_tagged msg hlt
  rcases readLoop_source hread (Nat.zero_le _) ((hbuf _).trans htag) with hnone | ⟨p, hp, hx⟩
  · exact absurd hnone (by simp)
  · rw [write_message, writeLoop_more hpos] at hx
    rcases Nat.lt_or_eq_of_le hp with hlt' | rfl
    · -- the bytes of the first call have smaller offsets
      rw [List.getElem?_append_left (by rw [List.length_take, length_tagged]; omega),
        List.getElem?_take, if_pos (by omega), getElem?_tagged msg (by omega)] at hx
      have := congrArg Prod.snd (Option.some.inj hx)
      simp only at this
      omega
    · -- the next call starts with the first byte again
      rw [List.getElem?_append_right (by rw [List.length_take, length_tagged]; omega),
        List.length_take, length_tagged] at hx
      have hzero : w.count 0 - 0 - min (w.count 0) MSG_SIZE = 0 := by omega
      rw [hzero] at hx
      by_cases hmore : 0 + w.count 0 + 1 < MSG_SIZE
      · rw [writeLoop_more hmore, List.getElem?_append_left (by
            rw [List.length_take, length_tagged]
            have := w.pos (0 + 1)
            omega),
          List.getElem?_take, if_pos (w.pos _), getElem?_tagged msg hpos] at hx
        have := congrArg Prod.snd (Option.some.inj hx)
        simp only at this
        omega
      · rw [writeLoop_done (by omega)] at hx
        exact absurd hx (by simp)

/-- **A message arrives** exactly when the first `write` and the first `recv` move all of it. -/
theorem delivered_iff (w r : Schedule) (msg : Message) :
    Delivered w r msg ↔ w.count 0 = MSG_SIZE ∧ r.count 0 = MSG_SIZE := by
  constructor
  · intro h
    exact ⟨write_full h, recv_full h (write_full h)⟩
  · rintro ⟨hw, hr⟩
    rw [Delivered, write_message_full hw _ (length_tagged msg)]
    exact read_message_full hr _ (length_tagged msg)

/-- All calls move what is requested but the first, which moves 100 bytes. -/
def shortFirst : Schedule where
  count k := if k = 0 then 100 else MSG_SIZE
  pos k := by split_ifs <;> decide
  le k := by split_ifs <;> decide

/-- All calls move what is requested. -/
def fullCalls : Schedule where
  count _ := MSG_SIZE
  pos _ := by decide
  le _ := le_rfl

/-- **A short read shifts the message**: the offset 100 is skipped. -/
theorem short_recv_not_delivered : ¬ Delivered fullCalls shortFirst fun _ => 0 := by
  intro h
  exact absurd (recv_full h rfl) (by decide)

end ThymesisFlow
