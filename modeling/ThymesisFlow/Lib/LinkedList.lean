import Mathlib.Data.List.Nodup
import Mathlib.Logic.Function.Basic

/-!
# Singly linked lists in a heap

A heap gives the contents of the allocated addresses.  `Segment h p xs q` says that from the pointer
`p` on there are the nodes `xs`, each an address with its value, and that the last one points to `q`.
A linked list is a segment that ends in the null pointer; such a list has no cycle.
-/

namespace ThymesisFlow

/-- A node; a pointer is null or an address. -/
structure ListNode (α : Type*) where
  val : α
  next : Option ℕ
  deriving DecidableEq

/-- The contents of the allocated addresses. -/
abbrev ListHeap (α : Type*) := ℕ → Option (ListNode α)

namespace ListHeap

variable {α : Type*} (h : ListHeap α)

/-- A node is written. -/
def store (a : ℕ) (node : ListNode α) : ListHeap α := Function.update h a (some node)

/-- An address is deallocated. -/
def free (a : ℕ) : ListHeap α := Function.update h a none

/-- The nodes `xs` are linked from `p` on, the last one points to `q`. -/
def Segment : Option ℕ → List (ℕ × α) → Option ℕ → Prop
  | p, [], q => p = q
  | p, (a, x) :: xs, q => p = some a ∧ ∃ next, h a = some ⟨x, next⟩ ∧ Segment next xs q

/-- The nodes `xs` are linked from `p` on to the end of the list. -/
def Linked (p : Option ℕ) (xs : List (ℕ × α)) : Prop := h.Segment p xs none

variable {h} {p q : Option ℕ} {xs ys : List (ℕ × α)} {a : ℕ} {x : α}

lemma segment_append : h.Segment p (xs ++ ys) q ↔ ∃ m, h.Segment p xs m ∧ h.Segment m ys q := by
  induction xs generalizing p with
  | nil => simp [Segment]
  | cons y xs ih =>
      simp only [List.cons_append, Segment, ih]
      constructor
      · rintro ⟨hp, next, hy, m, hxs, hys⟩
        exact ⟨m, ⟨hp, next, hy, hxs⟩, hys⟩
      · rintro ⟨m, ⟨hp, next, hy, hxs⟩, hys⟩
        exact ⟨hp, next, hy, m, hxs, hys⟩

/-- A segment does not depend on other addresses. -/
lemma Segment.congr {h' : ListHeap α} (hs : h.Segment p xs q)
    (heq : ∀ b ∈ xs.map Prod.fst, h' b = h b) : h'.Segment p xs q := by
  induction xs generalizing p with
  | nil => exact hs
  | cons y xs ih =>
      obtain ⟨hp, next, hy, hxs⟩ := hs
      refine ⟨hp, next, (heq y.1 (by simp)).trans hy, ih hxs fun b hb => heq b ?_⟩
      exact List.mem_cons_of_mem _ hb

lemma Segment.store_of_notMem {node : ListNode α} (hs : h.Segment p xs q)
    (ha : a ∉ xs.map Prod.fst) : (h.store a node).Segment p xs q :=
  hs.congr fun _ hb => Function.update_of_ne (ne_of_mem_of_not_mem hb ha) _ _

lemma Segment.free_of_notMem (hs : h.Segment p xs q) (ha : a ∉ xs.map Prod.fst) :
    (h.free a).Segment p xs q :=
  hs.congr fun _ hb => Function.update_of_ne (ne_of_mem_of_not_mem hb ha) _ _

/-- The nodes of a segment are allocated. -/
lemma Segment.get (hs : h.Segment p xs q) (hm : (a, x) ∈ xs) : ∃ next, h a = some ⟨x, next⟩ := by
  induction xs generalizing p with
  | nil => exact absurd hm (by simp)
  | cons y xs ih =>
      obtain ⟨-, next, hy, hxs⟩ := hs
      rcases List.mem_cons.mp hm with rfl | hm
      · exact ⟨next, hy⟩
      · exact ih hxs hm

lemma Segment.notMem_of_free (hs : h.Segment p xs q) (ha : h a = none) : a ∉ xs.map Prod.fst := by
  intro hm
  obtain ⟨⟨b, x⟩, hb, rfl⟩ := List.mem_map.mp hm
  obtain ⟨next, hx⟩ := hs.get hb
  rw [ha] at hx
  cases hx

/-- A pointer has one list. -/
lemma Linked.unique (hx : h.Linked p xs) (hy : h.Linked p ys) : xs = ys := by
  induction xs generalizing p ys with
  | nil =>
      obtain rfl : p = none := hx
      cases ys with
      | nil => rfl
      | cons y ys => exact absurd hy.1 (by simp)
  | cons x xs ih =>
      obtain ⟨rfl, next, hax, hxs⟩ := hx
      cases ys with
      | nil => exact absurd hy (by simp [Linked, Segment])
      | cons y ys =>
          obtain ⟨hp, next', hay, hys⟩ := hy
          obtain ⟨a, v⟩ := x
          obtain ⟨b, w⟩ := y
          simp only [Option.some.injEq] at hp hax hay
          subst hp
          obtain ⟨rfl, rfl⟩ := (ListNode.mk.injEq ..).mp (Option.some.inj (hax.symm.trans hay))
          rw [ih hxs hys]

/-- A linked list has no cycle. -/
lemma Linked.nodup (hx : h.Linked p xs) : (xs.map Prod.fst).Nodup := by
  induction xs generalizing p with
  | nil => exact List.nodup_nil
  | cons y xs ih =>
      have hall := hx
      obtain ⟨-, next, hy, hxs⟩ := hx
      refine List.nodup_cons.mpr ⟨fun hm => ?_, ih hxs⟩
      obtain ⟨z, hz, hzy⟩ := List.mem_map.mp hm
      obtain ⟨pre, post, rfl⟩ := List.append_of_mem hz
      obtain ⟨m, -, hpost⟩ := segment_append.mp hxs
      -- the list from the repeated address on would be the whole list
      have hlong : h.Linked (some y.1) (z :: post) := by
        obtain ⟨rfl, hrest⟩ := hpost
        exact ⟨congrArg some hzy.symm, hrest⟩
      rw [hall.1] at hall
      have hlen := congrArg List.length (hall.unique hlong)
      simp only [List.length_cons, List.length_append] at hlen
      omega

/-- A new node in front. -/
lemma Linked.cons (hx : h.Linked p xs) (ha : a ∉ xs.map Prod.fst) (x : α) :
    (h.store a ⟨x, p⟩).Linked (some a) ((a, x) :: xs) :=
  ⟨rfl, p, Function.update_self _ _ _, Segment.store_of_notMem hx ha⟩

/-- The first node is taken out. -/
lemma Linked.unlink_head (hx : h.Linked p ((a, x) :: xs)) :
    ∃ next, h a = some ⟨x, next⟩ ∧ (h.free a).Linked next xs := by
  have hnodup := hx.nodup
  obtain ⟨-, next, ha, hxs⟩ := hx
  exact ⟨next, ha, Segment.free_of_notMem hxs (List.nodup_cons.mp hnodup).1⟩

/-- A node behind another one is taken out: the one before it gets its successor. -/
lemma Linked.unlink {b : ℕ} {y : α} {pre : List (ℕ × α)}
    (hx : h.Linked p (pre ++ (b, y) :: (a, x) :: xs)) :
    ∃ next, h a = some ⟨x, next⟩ ∧ h b = some ⟨y, some a⟩ ∧
      ((h.store b ⟨y, next⟩).free a).Linked p (pre ++ (b, y) :: xs) := by
  have hnodup := hx.nodup
  rw [List.map_append, List.map_cons, List.map_cons] at hnodup
  obtain ⟨m, hpre, rfl, next', hb, rfl, next, ha, hxs⟩ := segment_append.mp hx
  obtain ⟨-, hrest, hdisj⟩ := List.nodup_append'.mp hnodup
  obtain ⟨hbnot, hrest⟩ := List.nodup_cons.mp hrest
  obtain ⟨hanot, -⟩ := List.nodup_cons.mp hrest
  have hba : b ≠ a := fun he => hbnot (by simp [he])
  have hbpre : b ∉ pre.map Prod.fst := fun hm => hdisj hm (by simp)
  have hapre : a ∉ pre.map Prod.fst := fun hm => hdisj hm (by simp)
  refine ⟨next, ha, hb, segment_append.mpr ⟨some b, ?_, rfl, next, ?_, ?_⟩⟩
  · exact (hpre.store_of_notMem hbpre).free_of_notMem hapre
  · rw [free, Function.update_of_ne hba, store, Function.update_self]
  · exact (Segment.store_of_notMem hxs fun hm => hbnot (List.mem_cons_of_mem _ hm)).free_of_notMem hanot

end ListHeap

end ThymesisFlow
