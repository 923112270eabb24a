import ThymesisFlow.Lib.Framing

/-!
# Streams whose headers prescribe their payload

In `Framing` a header says how many payload elements follow it; here it says which.  A script is what is to
come, with `none` for an element that is left open.  A queue that is filled at one end and read at the
other is described by two scripts: `Spans a xs b` says that `xs` follows the script `a` and that `b` is to
come behind it.
-/

namespace ThymesisFlow

namespace Script

variable {α : Type*} (good : α → Prop) (body : α → List (Option α))

/-- What is to come after the element `x`. -/
def next : List (Option α) → α → List (Option α)
  | [], x => body x
  | _ :: a, _ => a

/-- Where a header is to come `x` is a good one, and otherwise it is what the script says. -/
def Fits : List (Option α) → α → Prop
  | [], x => good x
  | o :: _, x => ∀ y ∈ o, x = y

/-- The stream follows the script `a`, and `b` is to come behind it. -/
def Spans : List (Option α) → List α → List (Option α) → Prop
  | a, [], b => a = b
  | a, x :: xs, b => Fits good a x ∧ Spans (next body a x) xs b

variable {good body} {good' : α → Prop} {body' : α → List (Option α)} {a b : List (Option α)} {x : α}
  {xs : List α} {size : α → ℕ}

/-- An element is read. -/
lemma Spans.pop (h : Spans good body a (x :: xs) b) :
    Fits good a x ∧ Spans good body (next body a x) xs b := h

/-- An element is written. -/
lemma Spans.push (h : Spans good body a xs b) (hx : Fits good b x) :
    Spans good body a (xs ++ [x]) (next body b x) := by
  induction xs generalizing a with
  | nil =>
      obtain rfl : a = b := h
      exact ⟨hx, rfl⟩
  | cons y xs ih => exact ⟨h.1, ih h.2⟩

lemma length_next (hsize : ∀ x, (body x).length = size x) (a : List (Option α)) (x : α) :
    (next body a x).length = Framing.next size a.length x := by
  cases a with
  | nil => exact hsize x
  | cons o a => rfl

/-- The headers of the stream are good. -/
lemma Spans.good_of_mem (hsize : ∀ x, (body x).length = size x) (h : Spans good body a xs b) :
    ∀ y ∈ Framing.heads size a.length xs, good y := by
  induction xs generalizing a with
  | nil =>
      intro y hy
      cases hy
  | cons x xs ih =>
      intro y hy
      rw [Framing.heads_cons, ← length_next hsize] at hy
      rcases List.mem_append.mp hy with hy | hy
      · cases a with
        | nil =>
            obtain rfl := List.mem_singleton.mp hy
            exact h.1
        | cons o a => cases hy
      · exact ih h.2 y hy

/-- What the headers of the stream prescribe is all that matters. -/
lemma Spans.congr (hsize : ∀ x, (body x).length = size x) (h : Spans good body a xs b)
    (hsame : ∀ y ∈ Framing.heads size a.length xs, good y → good' y ∧ body' y = body y) :
    Spans good' body' a xs b := by
  induction xs generalizing a with
  | nil => exact h
  | cons x xs ih =>
      rw [Framing.heads_cons, ← length_next hsize] at hsame
      have hrest := ih h.2 fun y hy => hsame y (List.mem_append_right _ hy)
      cases a with
      | nil =>
          obtain ⟨hgood, hbody⟩ := hsame x (List.mem_append_left _ (List.mem_singleton_self x)) h.1
          refine ⟨hgood, ?_⟩
          change Spans good' body' (body' x) xs b
          rw [hbody]
          exact hrest
      | cons o a => exact ⟨h.1, hrest⟩

end Script

end ThymesisFlow
