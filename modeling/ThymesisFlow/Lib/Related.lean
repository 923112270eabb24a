import Mathlib.Data.List.Induction
import Mathlib.Data.List.Perm.Subperm

/-!
# Sequences that are related

Two sequences that are related element by element have related beginnings, related parts and related
rearrangements.  A part whose elements are found key by key in the order of another sequence is a part
of it (`subperm_of_keyed`).
-/

namespace ThymesisFlow

variable {α β γ : Type*}

/-- What is related to a beginning of a sequence is the same beginning, if each element is related to
itself alone. -/
lemma isPrefix_of_related {R : β → α → Prop} {f : α → β} (hR : ∀ x y, R (f x) y → y = x) {hs : List β}
    {fs xs : List α} (hpre : hs <+: xs.map f) (hm : List.Forall₂ R hs fs) : fs <+: xs := by
  induction hm generalizing xs with
  | nil => exact List.nil_prefix
  | @cons h y hs fs hy _ ih =>
      cases xs with
      | nil => exact absurd (List.prefix_nil.mp hpre) (List.cons_ne_nil _ _)
      | cons x xs =>
          obtain ⟨rfl, htail⟩ := List.cons_prefix_cons.mp hpre
          obtain rfl := hR x y hy
          exact (List.prefix_cons_inj y).mpr (ih htail)

lemma exists_of_forall₂ {R : α → β → Prop} {as : List α} {bs : List β} (h : List.Forall₂ R as bs)
    {b : β} (hb : b ∈ bs) : ∃ a ∈ as, R a b := by
  induction h with
  | nil => cases hb
  | cons hr _ ih =>
      rcases List.mem_cons.mp hb with rfl | hb
      · exact ⟨_, List.mem_cons_self, hr⟩
      · obtain ⟨a, ha, hab⟩ := ih hb
        exact ⟨a, List.mem_cons_of_mem _ ha, hab⟩

lemma exists_forall₂ {R : α → β → Prop} {as : List α} (h : ∀ a ∈ as, ∃ b, R a b) :
    ∃ bs, List.Forall₂ R as bs := by
  induction as with
  | nil => exact ⟨[], .nil⟩
  | cons a as ih =>
      obtain ⟨b, hb⟩ := h a List.mem_cons_self
      obtain ⟨bs, hbs⟩ := ih fun x hx => h x (List.mem_cons_of_mem a hx)
      exact ⟨b :: bs, .cons hb hbs⟩

lemma forall₂_comp {R : α → β → Prop} {S : β → γ → Prop} {T : α → γ → Prop}
    (h : ∀ a b c, R a b → S b c → T a c) {as : List α} {bs : List β} {cs : List γ}
    (hab : List.Forall₂ R as bs) (hbc : List.Forall₂ S bs cs) : List.Forall₂ T as cs := by
  induction hab generalizing cs with
  | nil =>
      cases hbc
      exact .nil
  | cons hr _ ih =>
      cases hbc with
      | cons hs hbc => exact .cons (h _ _ _ hr hs) (ih hbc)

/-- A relation in two steps has a sequence in the middle. -/
lemma exists_between {R : α → γ → Prop} {S : α → β → Prop} {T : β → γ → Prop}
    (h : ∀ a c, R a c → ∃ b, S a b ∧ T b c) {as : List α} {cs : List γ} (hac : List.Forall₂ R as cs) :
    ∃ bs, List.Forall₂ S as bs ∧ List.Forall₂ T bs cs := by
  induction hac with
  | nil => exact ⟨[], .nil, .nil⟩
  | cons hr _ ih =>
      obtain ⟨b, hs, ht⟩ := h _ _ hr
      obtain ⟨bs, hss, hts⟩ := ih
      exact ⟨b :: bs, .cons hs hss, .cons ht hts⟩

lemma map_eq_of_forall₂ {f : β → α} {as : List α} {bs : List β}
    (h : List.Forall₂ (fun a b => f b = a) as bs) : bs.map f = as := by
  induction h with
  | nil => rfl
  | cons hab _ ih => rw [List.map_cons, hab, ih]

lemma flatMap_eq_of_forall₂ {f : α → List γ} {g : β → List γ} {as : List α} {bs : List β}
    (h : List.Forall₂ (fun a b => f a = g b) as bs) : as.flatMap f = bs.flatMap g := by
  induction h with
  | nil => rfl
  | cons hab _ ih => rw [List.flatMap_cons, List.flatMap_cons, hab, ih]

/-- A part of one sequence is related to a part of the other. -/
lemma sublist_related {R : α → β → Prop} {as : List α} {bs ds : List β} (h : List.Forall₂ R as bs)
    (hd : ds.Sublist bs) : ∃ cs, cs.Sublist as ∧ List.Forall₂ R cs ds := by
  induction hd generalizing as with
  | slnil => exact ⟨[], List.nil_sublist _, .nil⟩
  | cons b _ ih =>
      cases h with
      | @cons a _ as _ hr h =>
          obtain ⟨cs, hcs, hrel⟩ := ih h
          exact ⟨cs, hcs.cons a, hrel⟩
  | cons_cons b _ ih =>
      cases h with
      | @cons a _ as _ hr h =>
          obtain ⟨cs, hcs, hrel⟩ := ih h
          exact ⟨a :: cs, hcs.cons_cons a, .cons hr hrel⟩

/-- The same for parts in another order. -/
lemma subperm_related {R : α → β → Prop} {as : List α} {bs ds : List β} (h : List.Forall₂ R as bs)
    (hd : ds.Subperm bs) : ∃ cs, cs.Subperm as ∧ List.Forall₂ R cs ds := by
  obtain ⟨es, hperm, hsub⟩ := hd
  obtain ⟨fs, hfs, hrel⟩ := sublist_related h hsub
  obtain ⟨cs, hcs, hperm'⟩ := List.perm_comp_forall₂ hperm.symm hrel.flip
  exact ⟨cs, hperm'.subperm.trans hfs.subperm, hcs.flip⟩

section

variable {κ : Type*} [DecidableEq κ] {key : γ → κ} {key' : β → κ}

/-- Key by key the first ones of another sequence. -/
lemma subperm_of_keyed {us zs : List γ} (h : ∀ k, us.filter (key · = k) <+: zs.filter (key · = k)) :
    us.Subperm zs := by
  classical
  refine List.subperm_ext_iff.mpr fun x _ => ?_
  have hcount : ∀ xs : List γ, (xs.filter (key · = key x)).count x = xs.count x := fun xs =>
    List.count_filter (decide_eq_true rfl)
  rw [← hcount us, ← hcount zs]
  exact (h (key x)).sublist.count_le x

/-- Elements that have the same keys show the same under each key. -/
lemma map_filter_of_forall₂ {v : γ → α} {w : β → α} {us : List γ} {ys : List β}
    (h : List.Forall₂ (fun u y => key u = key' y ∧ v u = w y) us ys) (k : κ) :
    (us.filter (key · = k)).map v = (ys.filter (key' · = k)).map w := by
  induction h with
  | nil => rfl
  | @cons u y us ys huy _ ih =>
      rw [List.filter_cons, List.filter_cons, huy.1]
      split_ifs
      · rw [List.map_cons, List.map_cons, huy.2, ih]
      · exact ih

/-- A sequence that shows, key by key, the first ones of `zs` is what some of `zs` show. -/
lemma exists_of_keyed (v : γ → α) (w : β → α) {zs : List γ} {ys : List β}
    (h : ∀ k, (ys.filter (key' · = k)).map w <+: (zs.filter (key · = k)).map v) :
    ∃ us, List.Forall₂ (fun u y => key u = key' y ∧ v u = w y) us ys
      ∧ ∀ k, us.filter (key · = k) <+: zs.filter (key · = k) := by
  induction ys using List.reverseRecOn with
  | nil => exact ⟨[], .nil, fun k => List.nil_prefix⟩
  | append_singleton ys y ih =>
      obtain ⟨us, hus, hkeys⟩ := ih fun k => by
        refine List.IsPrefix.trans ?_ (h k)
        rw [List.filter_append, List.map_append]
        exact List.prefix_append _ _
      have hshow := map_filter_of_forall₂ hus (key' y)
      obtain ⟨rest, hrest⟩ := hkeys (key' y)
      have hy := h (key' y)
      rw [List.filter_append, List.filter_singleton, decide_eq_true rfl, cond_true, List.map_append,
        ← hrest, List.map_append, hshow, List.prefix_append_right_inj] at hy
      cases rest with
      | nil => exact absurd (List.prefix_nil.mp hy) (List.cons_ne_nil _ _)
      | cons u rest =>
          obtain ⟨hv, -⟩ := List.cons_prefix_cons.mp hy
          have hmem : u ∈ zs.filter (key · = key' y) := by
            rw [← hrest]
            exact List.mem_append_right _ List.mem_cons_self
          have hu : key u = key' y := of_decide_eq_true (List.mem_filter.mp hmem).2
          refine ⟨us ++ [u], List.rel_append hus (.cons ⟨hu, hv.symm⟩ .nil), fun k => ?_⟩
          rw [List.filter_append, List.filter_singleton, hu]
          by_cases hk : key' y = k
          · rw [decide_eq_true hk, cond_true, ← hk, ← hrest]
            exact (List.prefix_append_right_inj _).mpr ((List.prefix_cons_inj u).mpr List.nil_prefix)
          · rw [decide_eq_false hk, cond_false, List.append_nil]
            exact hkeys k

/-- The same where at most one is left over for each key. -/
lemma exists_of_keyed_option (v : γ → α) (w : β → α) {zs : List γ} {ys : List β}
    (h : ∀ k, ∃ c : Option α, (zs.filter (key · = k)).map v
      = (ys.filter (key' · = k)).map w ++ c.toList) :
    ∃ us, List.Forall₂ (fun u y => key u = key' y ∧ v u = w y) us ys
      ∧ ∀ k, ∃ c : Option γ, zs.filter (key · = k) = us.filter (key · = k) ++ c.toList := by
  obtain ⟨us, hus, hkeys⟩ := exists_of_keyed v w fun k => by
    obtain ⟨c, hc⟩ := h k
    rw [hc]
    exact List.prefix_append _ _
  refine ⟨us, hus, fun k => ?_⟩
  obtain ⟨rest, hrest⟩ := hkeys k
  obtain ⟨c, hc⟩ := h k
  rw [← hrest, List.map_append, map_filter_of_forall₂ hus, List.append_cancel_left_eq] at hc
  have hlen : rest.length ≤ 1 := by
    rw [← List.length_map v, hc]
    exact Option.length_toList_le
  rcases rest with _ | ⟨u, _ | ⟨u', rest⟩⟩
  · exact ⟨none, hrest.symm⟩
  · exact ⟨some u, hrest.symm⟩
  · exact absurd hlen (by simp)

end

end ThymesisFlow
