import ThymesisFlow.Agent.Connection
import ThymesisFlow.Lib.LinkedList
import ThymesisFlow.Lib.Machine

/-!
# The list of connections in memory

`connection.c` keeps `clist` as a linked list: `get_conn` and `del_conn` walk along the `next`
pointers, `add_conn` and `del_conn` change them.  Here the nodes are in a heap, and a loop takes fuel;
`none` is a dangling pointer, or fuel that has run out.  `Represents` says which list of `Connection`
the memory holds, and one lemma for each operation that it is done on this list.
-/

namespace ThymesisFlow

/-- The memory and the pointer `clist`. -/
structure ConnHeap where
  heap : ListHeap Connection := fun _ => none
  clist : Option ℕ := none

namespace ConnHeap

variable (s : ConnHeap) (fuel : ℕ)

/-- The loop of `get_conn`, from `runner` on. -/
def getLoop (circuit_id : List UInt8) : ℕ → Option ℕ → Option (Option ℕ)
  | 0, _ => none
  | _ + 1, none => some none
  | n + 1, some runner =>
      match s.heap runner with
      | none => none
      | some node =>
          if strncmpEq node.val.circuit_id circuit_id CIRCUIT_ID_SIZE then some (some runner)
          else getLoop circuit_id n node.next

def get_conn (circuit_id : List UInt8) : Option (Option ℕ) := s.getLoop circuit_id fuel s.clist

/-- The new connection is at the address `p` that `malloc` returns. -/
def new_conn (p : ℕ) (conn : Connection) : ConnHeap :=
  { s with heap := s.heap.store p ⟨conn, none⟩ }

def add_conn (p : ℕ) : Option (ConnHeap × ConnCode) :=
  match s.clist with
  | none => some ({ s with clist := some p }, .CONN_NULL)
  | some tmp =>
      match s.heap p with
      | none => none
      | some node =>
          (s.get_conn fuel node.val.circuit_id).map fun
            | some _ => (s, .CONN_DUP)
            | none =>
                ({ heap := s.heap.store p { node with next := some tmp }, clist := some p },
                  .CONN_SUCCESS)

/-- `runner` is unlinked: the head of the list, or the node behind `prev`. -/
def unlink (prev : Option ℕ) (runner : ℕ) (next : Option ℕ) : Option ConnHeap :=
  if s.clist = some runner then some { s with clist := next }
  else
    match prev with
    | none => none
    | some prev => (s.heap prev).map fun node =>
        { s with heap := s.heap.store prev { node with next := next } }

/-- `free_conn`, without the device. -/
def free_conn (p : ℕ) : ConnHeap := { s with heap := s.heap.free p }

/-- The loop of `del_conn`, from `runner` on, which `prev` points to. -/
def delLoop (circuit_id : List UInt8) : ℕ → Option ℕ → Option ℕ → Option (ConnHeap × ConnCode)
  | 0, _, _ => none
  | _ + 1, _, none => some (s, .CONN_NOT_FOUND)
  | n + 1, prev, some runner =>
      match s.heap runner with
      | none => none
      | some node =>
          if strncmpEq node.val.circuit_id circuit_id CIRCUIT_ID_SIZE then
            (s.unlink prev runner node.next).map fun s => (s.free_conn runner, .CONN_SUCCESS)
          else delLoop circuit_id n (some runner) node.next

def del_conn (circuit_id : List UInt8) : Option (ConnHeap × ConnCode) :=
  match s.clist with
  | none => some (s, .CONN_NULL)
  | some _ => s.delLoop circuit_id fuel none s.clist

/-! ## The list that the memory holds -/

/-- The connections are linked from `clist` on. -/
def Represents (xs : List (ℕ × Connection)) : Prop := s.heap.Linked s.clist xs

/-- The circuit of a node. -/
def circuit (x : ℕ × Connection) : List UInt8 := x.2.circuit

/-- The comparison of the loops. -/
def matchesId (circuit_id : List UInt8) (x : ℕ × Connection) : Bool :=
  strncmpEq x.2.circuit_id circuit_id CIRCUIT_ID_SIZE

variable {s fuel} {xs : List (ℕ × Connection)} {circuit_id : List UInt8}

lemma find?_matchesId (xs : List (ℕ × Connection)) (circuit_id : List UInt8) :
    xs.find? (matchesId circuit_id) = Keyed.lookup circuit xs (circuitOf circuit_id) := rfl

/-- The loop finds the first node that matches. -/
lemma getLoop_eq {p : Option ℕ} (h : s.heap.Linked p xs) (hfuel : xs.length < fuel) :
    s.getLoop circuit_id fuel p = some ((xs.find? (matchesId circuit_id)).map Prod.fst) := by
  induction xs generalizing p fuel with
  | nil =>
      obtain rfl : p = none := h
      cases fuel with
      | zero => exact absurd hfuel (by simp)
      | succ n => rfl
  | cons x xs ih =>
      obtain ⟨a, conn⟩ := x
      obtain ⟨rfl, next, ha, hxs⟩ := h
      cases fuel with
      | zero => exact absurd hfuel (by simp)
      | succ n =>
          rw [getLoop, ha, List.find?_cons]
          simp only [matchesId]
          cases hm : strncmpEq conn.circuit_id circuit_id CIRCUIT_ID_SIZE with
          | true => rfl
          | false => exact ih hxs (by simpa using hfuel)

lemma get_conn_eq (circuit_id : List UInt8) (h : s.Represents xs) (hfuel : xs.length < fuel) :
    s.get_conn fuel circuit_id
      = some ((Keyed.lookup circuit xs (circuitOf circuit_id)).map Prod.fst) :=
  getLoop_eq h hfuel

/-- The head of the list is unlinked and freed. -/
lemma unlink_head {a : ℕ} {conn : Connection} {next : Option ℕ} (prev : Option ℕ)
    (h : s.Represents ((a, conn) :: xs)) (ha : s.heap a = some ⟨conn, next⟩) :
    ∃ s', s.unlink prev a next = some s' ∧ (s'.free_conn a).Represents xs := by
  obtain ⟨next', ha', hxs⟩ := ListHeap.Linked.unlink_head h
  obtain ⟨-, rfl⟩ := (ListNode.mk.injEq ..).mp (Option.some.inj (ha.symm.trans ha'))
  exact ⟨_, if_pos h.1, hxs⟩

/-- A node behind another one is unlinked and freed. -/
lemma unlink_behind {a b : ℕ} {conn conn' : Connection} {next : Option ℕ}
    {pre : List (ℕ × Connection)} (h : s.Represents (pre ++ (b, conn') :: (a, conn) :: xs))
    (ha : s.heap a = some ⟨conn, next⟩) :
    ∃ s', s.unlink (some b) a next = some s' ∧
      (s'.free_conn a).Represents (pre ++ (b, conn') :: xs) := by
  have hnodup := ListHeap.Linked.nodup h
  have hhead : s.clist ≠ some a := by
    intro hc
    cases pre with
    | nil =>
        have hb : s.clist = some b := h.1
        obtain rfl : b = a := Option.some.inj (hb.symm.trans hc)
        simp at hnodup
    | cons y pre =>
        obtain ⟨c, v⟩ := y
        have hb : s.clist = some c := h.1
        obtain rfl : c = a := Option.some.inj (hb.symm.trans hc)
        simp at hnodup
  obtain ⟨next', ha', hb, hxs⟩ := ListHeap.Linked.unlink h
  obtain ⟨-, rfl⟩ := (ListNode.mk.injEq ..).mp (Option.some.inj (ha.symm.trans ha'))
  refine ⟨{ s with heap := s.heap.store b ⟨conn', next⟩ }, ?_, hxs⟩
  rw [unlink, if_neg hhead, hb]
  rfl

/-- The loop unlinks the first node that matches.  `pre` are the nodes that it has passed. -/
lemma delLoop_eq (circuit_id : List UInt8) (pre : List (ℕ × Connection)) {prev p : Option ℕ}
    (hpre : s.heap.Segment s.clist pre p) (h : s.heap.Linked p xs)
    (hprev : prev = pre.getLast?.map Prod.fst) (hfuel : xs.length < fuel) :
    (xs.find? (matchesId circuit_id) = none ∧
      s.delLoop circuit_id fuel prev p = some (s, .CONN_NOT_FOUND)) ∨
    ((xs.find? (matchesId circuit_id)).isSome = true ∧
      ∃ s', s.delLoop circuit_id fuel prev p = some (s', .CONN_SUCCESS) ∧
        s'.Represents (pre ++ xs.eraseP (matchesId circuit_id))) := by
  induction xs generalizing pre prev p fuel with
  | nil =>
      obtain rfl : p = none := h
      cases fuel with
      | zero => exact absurd hfuel (by simp)
      | succ n => exact .inl ⟨rfl, rfl⟩
  | cons x xs ih =>
      obtain ⟨a, conn⟩ := x
      have hall : s.Represents (pre ++ (a, conn) :: xs) := ListHeap.segment_append.mpr ⟨p, hpre, h⟩
      obtain ⟨rfl, next, ha, hxs⟩ := h
      cases fuel with
      | zero => exact absurd hfuel (by simp)
      | succ n =>
          rw [delLoop, ha, List.find?_cons, List.eraseP_cons]
          simp only [matchesId]
          cases hm : strncmpEq conn.circuit_id circuit_id CIRCUIT_ID_SIZE with
          | true =>
              refine .inr ⟨rfl, ?_⟩
              obtain rfl | ⟨pre, ⟨b, conn'⟩, rfl⟩ := List.eq_nil_or_concat pre
              · obtain ⟨s', hs', hrep⟩ := unlink_head prev hall ha
                exact ⟨_, by rw [if_pos rfl, hs']; rfl, hrep⟩
              · rw [List.concat_eq_append] at hall hprev ⊢
                rw [List.append_assoc] at hall
                obtain rfl : prev = some b := by simpa using hprev
                obtain ⟨s', hs', hrep⟩ := unlink_behind hall ha
                refine ⟨s'.free_conn a, by rw [if_pos rfl, hs']; rfl, ?_⟩
                rw [List.append_assoc]
                exact hrep
          | false =>
              have hpre' : s.heap.Segment s.clist (pre ++ [(a, conn)]) next :=
                ListHeap.segment_append.mpr ⟨some a, hpre, rfl, next, ha, rfl⟩
              have hstep := ih (pre ++ [(a, conn)]) hpre' hxs (show some a = _ by simp) (by simpa using hfuel)
              rw [List.append_assoc] at hstep
              exact hstep

lemma del_conn_eq (circuit_id : List UInt8) (h : s.Represents xs) (hd : Keyed.Distinct circuit xs) (hfuel : xs.length < fuel) :
    ∃ s' code, s.del_conn fuel circuit_id = some (s', code) ∧
      s'.Represents (Keyed.remove circuit xs (circuitOf circuit_id)) ∧
      (code = .CONN_SUCCESS ↔ (Keyed.lookup circuit xs (circuitOf circuit_id)).isSome = true) := by
  rw [del_conn]
  cases hc : s.clist with
  | none =>
      obtain rfl : xs = [] := by
        cases xs with
        | nil => rfl
        | cons x xs => exact absurd (hc.symm.trans h.1) (by simp)
      exact ⟨s, _, rfl, h, by simp [Keyed.lookup]⟩
  | some p =>
      have hloop := delLoop_eq circuit_id [] rfl h (show none = _ from rfl) hfuel
      rw [hc] at hloop
      rcases hloop with ⟨hno, hs'⟩ | ⟨hyes, s', hs', hrep⟩
      · have hnone : Keyed.lookup circuit xs (circuitOf circuit_id) = none := hno
        refine ⟨s, _, hs', ?_, by simp [hnone]⟩
        rw [Keyed.remove_eq_filter hd, List.filter_eq_self.mpr fun x hx =>
          decide_eq_true (Keyed.lookup_eq_none.mp hnone x hx)]
        exact h
      · exact ⟨s', _, hs', hrep, by rw [← find?_matchesId, hyes]; simp⟩

/-- A new connection is not in the list yet. -/
lemma represents_new_conn {p : ℕ} (h : s.Represents xs) (hp : s.heap p = none) (conn : Connection) :
    (s.new_conn p conn).Represents xs :=
  ListHeap.Segment.store_of_notMem h (ListHeap.Segment.notMem_of_free h hp)

/-- The connection that is created at `p` is put in front, unless its circuit is in the list. -/
lemma add_conn_eq {p : ℕ} (h : s.Represents xs) (hp : s.heap p = none) (conn : Connection)
    (hfuel : xs.length < fuel) :
    ((Keyed.lookup circuit xs (circuit (p, conn))).isSome = true ∧
      (s.new_conn p conn).add_conn fuel p = some (s.new_conn p conn, .CONN_DUP)) ∨
    (Keyed.lookup circuit xs (circuit (p, conn)) = none ∧
      ∃ s' code, (s.new_conn p conn).add_conn fuel p = some (s', code) ∧ code ≠ .CONN_DUP ∧
        s'.Represents ((p, conn) :: xs)) := by
  have hnew := represents_new_conn h hp conn
  have hnot := ListHeap.Segment.notMem_of_free h hp
  have hcell : (s.new_conn p conn).heap p = some ⟨conn, none⟩ := Function.update_self _ _ _
  have hfront := ListHeap.Linked.cons hnew hnot conn
  rw [add_conn]
  cases hc : (s.new_conn p conn).clist with
  | none =>
      obtain rfl : xs = [] := by
        cases xs with
        | nil => rfl
        | cons x xs => exact absurd (hc.symm.trans hnew.1) (by simp)
      refine .inr ⟨rfl, _, _, rfl, by simp, rfl, none, hcell, rfl⟩
  | some tmp =>
      have hget := get_conn_eq conn.circuit_id hnew hfuel
      simp only [hcell, hget, Option.map_some]
      cases hl : Keyed.lookup circuit xs (circuitOf conn.circuit_id) with
      | some x => exact .inl ⟨by rw [circuit, Connection.circuit, hl]; rfl, rfl⟩
      | none =>
          refine .inr ⟨hl, _, _, rfl, by simp, ?_⟩
          rw [hc] at hfront
          exact hfront

end ConnHeap

/-! ## Every sequence of calls -/

/-- A call; the connection that is added is created before, at the address `p`. -/
inductive ConnOp
  | add (p : ℕ) (circuit_id afu_name : List UInt8) (size : BitVec 64) (no_hotplug : BitVec 32)
  | del (circuit_id : List UInt8)
  | get (circuit_id : List UInt8)

namespace ConnOp

def run (fuel : ℕ) (s : ConnHeap) : ConnOp → Option ConnHeap
  | .add p circuit_id afu_name size no_hotplug =>
      ((s.new_conn p (new_conn circuit_id afu_name size no_hotplug)).add_conn fuel p).map Prod.fst
  | .del circuit_id => (s.del_conn fuel circuit_id).map Prod.fst
  | .get circuit_id => (s.get_conn fuel circuit_id).map fun _ => s

/-- `malloc` returns an address that is not in use. -/
def fresh (s : ConnHeap) : ConnOp → Prop
  | .add p _ _ _ _ => s.heap p = none
  | _ => True

instance (s : ConnHeap) (op : ConnOp) : Decidable (op.fresh s) :=
  match op with
  | .add p _ _ _ _ => inferInstanceAs (Decidable (s.heap p = none))
  | .del _ => inferInstanceAs (Decidable True)
  | .get _ => inferInstanceAs (Decidable True)

/-- What a call does to a map from circuits to the connections that were added last. -/
def effect (m : List UInt8 → Option (ℕ × Connection)) : ConnOp → List UInt8 → Option (ℕ × Connection)
  | .add p circuit_id afu_name size no_hotplug =>
      if m (circuitOf circuit_id) = none then
        Function.update m (circuitOf circuit_id)
          (some (p, new_conn circuit_id afu_name size no_hotplug))
      else m
  | .del circuit_id => Function.update m (circuitOf circuit_id) none
  | .get _ => m

/-- What a call does to the list of connections, as the requests of the agent see it. -/
def onList (clist : List Connection) : ConnOp → List Connection
  | .add _ circuit_id afu_name size no_hotplug =>
      (add_conn clist (new_conn circuit_id afu_name size no_hotplug)).1
  | .del circuit_id => (del_conn clist circuit_id).1
  | .get _ => clist

end ConnOp

/-- The calls one after the other. -/
def connCalls (fuel : ℕ) : Machine (Option ConnHeap) ConnOp where
  init := some {}
  step s op := s.bind fun s => op.run fuel s

/-- The address of an added connection is new. -/
def ConnFresh (s : Option ConnHeap) (op : ConnOp) : Prop := ∀ s' ∈ s, op.fresh s'

instance (s : Option ConnHeap) (op : ConnOp) : Decidable (ConnFresh s op) :=
  match s with
  | none => isTrue fun _ h => by cases h
  | some s => decidable_of_iff (op.fresh s)
      ⟨fun h _ hs => Option.some.inj hs ▸ h, fun h => h s rfl⟩

/-- For each circuit the latest connection that was added when there was none and has not been
deleted since. -/
def liveConns (ops : List ConnOp) : List UInt8 → Option (ℕ × Connection) :=
  ops.foldl ConnOp.effect fun _ => none

namespace ConnHeap

variable {s : ConnHeap} {fuel : ℕ} {xs : List (ℕ × Connection)}

lemma circuit_new_conn (p : ℕ) (circuit_id afu_name : List UInt8) (size : BitVec 64)
    (no_hotplug : BitVec 32) :
    circuit (p, ThymesisFlow.new_conn circuit_id afu_name size no_hotplug) = circuitOf circuit_id := by
  change circuitOf (circuit_id.take CIRCUIT_ID_SIZE) = _
  rw [circuitOf, List.take_take, Nat.min_self, circuitOf]

lemma registered_map (xs : List (ℕ × Connection)) (c : List UInt8) :
    registered (xs.map Prod.snd) c = (Keyed.lookup circuit xs c).map Prod.snd :=
  List.find?_map ..

lemma del_conn_map (xs : List (ℕ × Connection)) (circuit_id : List UInt8) :
    (ThymesisFlow.del_conn (xs.map Prod.snd) circuit_id).1
      = (Keyed.remove circuit xs (circuitOf circuit_id)).map Prod.snd := by
  have hmap : (xs.map Prod.snd).eraseP (fun c => c.circuit = circuitOf circuit_id)
      = (Keyed.remove circuit xs (circuitOf circuit_id)).map Prod.snd := List.eraseP_map ..
  rw [← hmap]
  cases hc : ThymesisFlow.get_conn (xs.map Prod.snd) circuit_id with
  | some conn => rw [del_conn_found hc]
  | none =>
      have hnone : ∀ c ∈ xs.map Prod.snd, ¬ decide (c.circuit = circuitOf circuit_id) = true :=
        fun c hm => by
          rw [decide_eq_true_eq]
          exact registered_eq_none.mp hc c hm
      rw [List.eraseP_of_forall_not hnone]
      cases hxs : xs.map Prod.snd with
      | nil => rfl
      | cons c cs =>
          rw [hxs] at hc
          rw [ThymesisFlow.del_conn, hc]
          rfl

/-- **One call** changes the list in memory as it changes the map, and as the list that the requests
of the agent see. -/
theorem run_op (op : ConnOp) {m : List UInt8 → Option (ℕ × Connection)} (h : s.Represents xs)
    (hd : Keyed.Distinct circuit xs) (hm : Keyed.lookup circuit xs = m) (hfuel : xs.length < fuel)
    (hfresh : op.fresh s) :
    ∃ s' xs', op.run fuel s = some s' ∧ s'.Represents xs' ∧ Keyed.Distinct circuit xs' ∧
      Keyed.lookup circuit xs' = op.effect m ∧ xs'.map Prod.snd = op.onList (xs.map Prod.snd) ∧
      xs'.length ≤ xs.length + 1 := by
  subst hm
  cases op with
  | add p circuit_id afu_name size no_hotplug =>
      have hcirc := circuit_new_conn p circuit_id afu_name size no_hotplug
      have hreg := registered_map xs (circuitOf circuit_id)
      rw [ConnOp.run, ConnOp.effect, ConnOp.onList]
      rcases add_conn_eq h hfresh (ThymesisFlow.new_conn circuit_id afu_name size no_hotplug) hfuel with
        ⟨hl, hadd⟩ | ⟨hl, s', code, hadd, -, hrep⟩
      · rw [hcirc] at hl
        have hne : Keyed.lookup circuit xs (circuitOf circuit_id) ≠ none :=
          Option.isSome_iff_ne_none.mp hl
        refine ⟨_, xs, by rw [hadd]; rfl, represents_new_conn h hfresh _, hd, (if_neg hne).symm, ?_,
          by simp⟩
        refine (add_conn_dup ?_).symm
        rw [show Connection.circuit _ = circuitOf circuit_id from hcirc, hreg]
        simpa using hne
      · refine ⟨s', _, by rw [hadd]; rfl, hrep, hd.cons hl, ?_, ?_, by simp⟩
        · rw [hcirc] at hl
          rw [if_pos hl]
          funext k
          rw [Keyed.lookup_cons, hcirc, Function.update_apply]
          simp only [eq_comm]
        · refine (add_conn_fresh ?_).symm
          change registered _ (circuit (p, _)) = none
          rw [registered_map, hl]
          rfl
  | del circuit_id =>
      obtain ⟨s', code, hdel, hrep, -⟩ := del_conn_eq circuit_id h hd hfuel
      refine ⟨s', _, by rw [ConnOp.run, hdel]; rfl, hrep, hd.remove _, ?_, ?_, ?_⟩
      · funext k
        rw [Keyed.lookup_remove hd, ConnOp.effect, Function.update_apply]
      · exact (del_conn_map xs circuit_id).symm
      · exact (List.length_eraseP_le).trans (Nat.le_succ _)
  | get circuit_id =>
      refine ⟨s, xs, ?_, h, hd, rfl, rfl, by simp⟩
      rw [ConnOp.run, get_conn_eq circuit_id h hfuel]
      rfl

/-- The state after some calls. -/
lemma run_calls (ops : List ConnOp) (hfuel : ops.length ≤ fuel)
    (hfresh : (connCalls fuel).Meets ConnFresh ops) :
    ∃ s xs, (connCalls fuel).run ops = some s ∧ s.Represents xs ∧ Keyed.Distinct circuit xs ∧
      Keyed.lookup circuit xs = liveConns ops ∧
      xs.map Prod.snd = ops.foldl ConnOp.onList [] ∧ xs.length ≤ ops.length := by
  induction ops using List.reverseRecOn with
  | nil => exact ⟨{}, [], rfl, rfl, List.nodup_nil, rfl, rfl, Nat.le_refl _⟩
  | append_singleton ops op ih =>
      obtain ⟨hpre, hlast⟩ := ((connCalls fuel).meets_concat _ ops op).mp hfresh
      rw [List.length_append, List.length_singleton] at hfuel
      obtain ⟨s, xs, hrun, h, hd, hm, hlist, hlen⟩ := ih (Nat.le_of_succ_le hfuel) hpre
      rw [hrun] at hlast
      obtain ⟨s', xs', hop, h', hd', hm', hlist', hlen'⟩ :=
        run_op op h hd hm (Nat.lt_of_le_of_lt hlen hfuel) (hlast s rfl)
      refine ⟨s', xs', ?_, h', hd', ?_, ?_, ?_⟩
      · rw [Machine.run_concat, hrun]
        exact hop
      · rw [hm', liveConns, liveConns, List.foldl_append]
        rfl
      · rw [hlist', hlist, List.foldl_append]
        rfl
      · rw [List.length_append, List.length_singleton]
        omega

/-- The memory holds the list `xs`, which is the map `m` from circuits to connections. -/
structure IsMap (s : ConnHeap) (fuel : ℕ) (m : List UInt8 → Option (ℕ × Connection))
    (xs : List (ℕ × Connection)) : Prop where
  represents : s.Represents xs
  acyclic : (xs.map Prod.fst).Nodup
  distinct : (xs.map circuit).Nodup
  get : ∀ circuit_id, s.get_conn fuel circuit_id = some ((m (circuitOf circuit_id)).map Prod.fst)
  stored : ∀ c x, m c = some x ↔ x ∈ xs ∧ circuit x = c
  /-- The entry of the circuit is removed and no other. -/
  del : ∀ circuit_id, ∃ s' code, s.del_conn fuel circuit_id = some (s', code) ∧
    s'.Represents (xs.filter fun x => circuit x ≠ circuitOf circuit_id) ∧
    (code = .CONN_SUCCESS ↔ ∃ x ∈ xs, circuit x = circuitOf circuit_id)
  /-- A circuit that is in the list is not added again. -/
  dup : ∀ p conn, s.heap p = none → (∃ x ∈ xs, circuit x = conn.circuit) →
    ∃ s', (s.new_conn p conn).add_conn fuel p = some (s', .CONN_DUP) ∧ s'.Represents xs

/-- **The connection registry is a finite map.**  After any sequence of calls the memory holds a list
without a cycle and without double circuits.  `get_conn` finds the latest connection of a circuit that
was added when there was none and not deleted since; `del_conn` takes out this connection and no
other, and says whether there was one; adding a circuit that is there changes nothing in the list. -/
theorem registry_is_map (ops : List ConnOp) (fuel : ℕ) (hfuel : ops.length < fuel)
    (hfresh : (connCalls fuel).Meets ConnFresh ops) :
    ∃ s xs, (connCalls fuel).run ops = some s ∧ s.IsMap fuel (liveConns ops) xs := by
  obtain ⟨s, xs, hrun, h, hd, hm, -, hlen⟩ := run_calls ops hfuel.le hfresh
  have hfuel' : xs.length < fuel := Nat.lt_of_le_of_lt hlen hfuel
  have hsome : ∀ c, (Keyed.lookup circuit xs c).isSome = true ↔ ∃ x ∈ xs, circuit x = c := by
    intro c
    rw [Option.isSome_iff_ne_none, ne_eq, Keyed.lookup_eq_none]
    push Not
    rfl
  refine ⟨s, xs, hrun, h, ListHeap.Linked.nodup h, hd, fun circuit_id => ?_, fun c x => ?_,
    fun circuit_id => ?_, fun p conn hp hdup => ?_⟩
  · rw [get_conn_eq circuit_id h hfuel', hm]
  · rw [← hm]
    refine ⟨Keyed.lookup_some, ?_⟩
    rintro ⟨hx, rfl⟩
    exact Keyed.lookup_of_mem hd hx
  · obtain ⟨s', code, hdel, hrep, hcode⟩ := del_conn_eq circuit_id h hd hfuel'
    rw [Keyed.remove_eq_filter hd] at hrep
    exact ⟨s', code, hdel, hrep, hcode.trans (hsome _)⟩
  · rcases add_conn_eq h hp conn hfuel' with ⟨-, hadd⟩ | ⟨hl, -⟩
    · exact ⟨_, hadd, represents_new_conn h hp conn⟩
    · have hyes := (hsome (circuit (p, conn))).mpr hdup
      rw [hl] at hyes
      exact absurd hyes (by simp)

/-- Three circuits are added, the second one a second time; then one in the middle and the first one
are deleted. -/
def connTest : List ConnOp :=
  [.add 1 (ascii ['a']) (ascii ['a', 'f', 'u', '1']) 10 0,
    .add 2 (ascii ['b']) (ascii ['a', 'f', 'u', '2']) 10 0,
    .add 3 (ascii ['b']) (ascii ['a', 'f', 'u', '2']) 10 0,
    .add 4 (ascii ['c']) (ascii ['a', 'f', 'u', '3']) 10 0,
    .get (ascii ['b']), .del (ascii ['b']), .del (ascii ['a'])]

theorem registry_is_map_connTest :
    ∃ s xs, (connCalls 8).run connTest = some s ∧ s.IsMap 8 (liveConns connTest) xs :=
  registry_is_map connTest 8 (by decide) (by decide +kernel)

end ConnHeap

end ThymesisFlow
