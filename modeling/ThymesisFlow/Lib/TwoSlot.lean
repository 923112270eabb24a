import Mathlib.Data.List.Basic

/-!
# A ping-pong buffer

Two registers that are written and read in turn, so that the writer need not see the ready signal
of the reader in the cycle it is given.  `Holds` relates the buffer to the list of its entries;
`Holds.step` says that a cycle is a push at the end, if one of the two is empty, and a pop at the
front.
-/

namespace ThymesisFlow

/-- The two registers with their valid bits and the turns of the writer and the reader. -/
structure TwoSlot (α : Type) where
  ping : α
  ping_vld : Bool := false
  pong : α
  pong_vld : Bool := false
  turn_w : Bool := false
  turn_r : Bool := false
  deriving DecidableEq, Repr

namespace TwoSlot

variable {α : Type} (b : TwoSlot α)

/-- There is room. -/
def ready : Bool := !b.ping_vld || !b.pong_vld

def tdata : α := if b.turn_r then b.pong else b.ping

def tvalid : Bool := if b.turn_r then b.pong_vld else b.ping_vld

/-- The turn of the reader. -/
def nextR (tready : Bool) : Bool :=
  if !b.turn_r && b.ping_vld && tready then true
  else if b.turn_r && b.pong_vld && tready then false
  else b.turn_r

/-- A cycle in which nothing is written. -/
def hold (tready : Bool) : TwoSlot α :=
  { b with
    ping_vld := if b.turn_r then b.ping_vld else b.ping_vld && (b.ping_vld ^^ tready)
    pong_vld := if b.turn_r then b.pong_vld && (b.pong_vld ^^ tready) else b.pong_vld
    turn_r := b.nextR tready }

/-- A cycle in which `x` is offered to the buffer. -/
def step (x : Option α) (tready : Bool) : TwoSlot α :=
  match x with
  | some x =>
      if b.ready then
        { ping := if !b.ping_vld && !b.turn_w then x else b.ping
          ping_vld := if b.turn_w then b.ping_vld && (b.ping_vld ^^ tready) else true
          pong := if !b.pong_vld && b.turn_w then x else b.pong
          pong_vld := if b.turn_w then true else b.pong_vld && (b.pong_vld ^^ tready)
          turn_w := !b.turn_w
          turn_r := b.nextR tready }
      else b.hold tready
  | none => b.hold tready

/-- The number of entries. -/
def count : ℕ := b.ping_vld.toNat + b.pong_vld.toNat

/-- What is handed over in a cycle. -/
def out (tready : Bool) : List α := if b.tvalid && tready then [b.tdata] else []

/-- The buffer holds the entries, oldest first. -/
inductive Holds : TwoSlot α → List α → Prop
  | empty {x y : α} {r : Bool} : Holds ⟨x, false, y, false, r, r⟩ []
  | ping {x y : α} : Holds ⟨x, true, y, false, true, false⟩ [x]
  | pong {x y : α} : Holds ⟨x, false, y, true, false, true⟩ [y]
  | pingPong {x y : α} : Holds ⟨x, true, y, true, false, false⟩ [x, y]
  | pongPing {x y : α} : Holds ⟨x, true, y, true, true, true⟩ [y, x]

namespace Holds

variable {b : TwoSlot α} {q : List α}

lemma ready_iff (h : Holds b q) : b.ready = true ↔ q.length < 2 := by
  cases h <;> simp [ready]

lemma tvalid_eq (h : Holds b q) : b.tvalid = !q.isEmpty := by
  cases h with
  | empty => simp [tvalid]
  | ping | pong | pingPong | pongPing => rfl

lemma tdata_eq {x : α} (h : Holds b (x :: q)) : b.tdata = x := by
  cases h <;> rfl

/-- What is handed over is the first entry. -/
lemma out_eq (h : Holds b q) (tready : Bool) : b.out tready = if tready then q.take 1 else [] := by
  rw [out, h.tvalid_eq]
  cases q with
  | nil => simp
  | cons x q => simp [h.tdata_eq]

lemma length_le (h : Holds b q) : q.length ≤ 2 := by
  cases h <;> simp

/-- The valid bits count the entries. -/
lemma count_eq (h : Holds b q) : b.count = q.length := by
  cases h <;> rfl

/-- **One cycle of the buffer.** -/
theorem step (h : Holds b q) (x : Option α) (tready : Bool) :
    Holds (b.step x tready)
      ((if tready then q.tail else q) ++ (if b.ready then x.toList else [])) := by
  cases x with
  | none =>
      cases h with
      | @empty x y r => cases tready <;> cases r <;> exact .empty
      | ping =>
          cases tready
          · exact .ping
          · exact .empty
      | pong =>
          cases tready
          · exact .pong
          · exact .empty
      | pingPong =>
          cases tready
          · exact .pingPong
          · exact .pong
      | pongPing =>
          cases tready
          · exact .pongPing
          · exact .ping
  | some z =>
      cases h with
      | @empty x y r =>
          cases r
          · cases tready <;> exact .ping
          · cases tready <;> exact .pong
      | ping =>
          cases tready
          · exact .pingPong
          · exact .pong
      | pong =>
          cases tready
          · exact .pongPing
          · exact .ping
      | pingPong =>
          cases tready
          · exact .pingPong
          · exact .pong
      | pongPing =>
          cases tready
          · exact .pongPing
          · exact .ping

/-- The entries that were there go out in order: what is handed over and what is left. -/
lemma out_append (h : Holds b q) (tready : Bool) :
    b.out tready ++ (if tready then q.tail else q) = q := by
  rw [h.out_eq]
  cases tready with
  | false => simp
  | true => simpa using List.take_append_drop 1 q

/-- How the number of entries changes. -/
lemma count_step (h : Holds b q) (x : Option α) (tready : Bool) :
    (b.step x tready).count + (b.out tready).length
      = b.count + (b.ready && x.isSome).toNat := by
  have hnext := congrArg List.length (h.out_append tready)
  rw [List.length_append] at hnext
  rw [(h.step x tready).count_eq, h.count_eq, List.length_append, ← hnext]
  cases b.ready <;> cases x <;> simp <;> omega

end Holds

/-! ## Two buffers in step -/

/-- The valid bits and the turns are the same, the contents need not be. -/
structure Aligned (b c : TwoSlot α) : Prop where
  ping_vld : b.ping_vld = c.ping_vld
  pong_vld : b.pong_vld = c.pong_vld
  turn_w : b.turn_w = c.turn_w
  turn_r : b.turn_r = c.turn_r

namespace Aligned

variable {b c : TwoSlot α}

lemma ready_eq (h : Aligned b c) : b.ready = c.ready := by
  rw [ready, ready, h.ping_vld, h.pong_vld]

lemma tvalid_eq (h : Aligned b c) : b.tvalid = c.tvalid := by
  rw [tvalid, tvalid, h.turn_r, h.ping_vld, h.pong_vld]

lemma nextR_eq (h : Aligned b c) (tready : Bool) : b.nextR tready = c.nextR tready := by
  rw [nextR, nextR, h.turn_r, h.ping_vld, h.pong_vld]

lemma hold (h : Aligned b c) (tready : Bool) : Aligned (b.hold tready) (c.hold tready) where
  ping_vld := by simp only [TwoSlot.hold, h.turn_r, h.ping_vld]
  pong_vld := by simp only [TwoSlot.hold, h.turn_r, h.pong_vld]
  turn_w := h.turn_w
  turn_r := h.nextR_eq tready

/-- Both are offered something, or neither is. -/
lemma step (h : Aligned b c) {x y : Option α} (hxy : x.isSome = y.isSome) (tready : Bool) :
    Aligned (b.step x tready) (c.step y tready) := by
  cases x with
  | none =>
      cases y with
      | none => exact h.hold tready
      | some y => cases hxy
  | some x =>
      cases y with
      | none => cases hxy
      | some y =>
          cases hr : b.ready with
          | true =>
              rw [TwoSlot.step, TwoSlot.step, ← h.ready_eq, hr, if_pos rfl, if_pos rfl]
              exact ⟨by simp only [h.turn_w, h.ping_vld], by simp only [h.turn_w, h.pong_vld],
                by simp only [h.turn_w], h.nextR_eq tready⟩
          | false =>
              rw [TwoSlot.step, TwoSlot.step, ← h.ready_eq, hr]
              exact h.hold tready

end Aligned

end TwoSlot

end ThymesisFlow
