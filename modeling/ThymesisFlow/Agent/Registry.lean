import ThymesisFlow.Agent.Handlers
import ThymesisFlow.Lib.History
import ThymesisFlow.Lib.Machine

/-!
# The registry and the statuses that are reported

The agent answers one request after the other.  `ledger` is the registry as someone sees it who
reads the responses only: for each circuit the request that was last answered `ATTACH_OK`, unless
a `DETACH_OK` came after it.  `RegistryAgrees` compares it with `clist`.

An attach request for a circuit that is registered already is not added to `clist`, but the result
of `add_conn` is thrown away and the request is answered `ATTACH_OK`.
-/

namespace ThymesisFlow

/-- What a registry entry holds. -/
structure Entry where
  afu_name : List UInt8
  size : BitVec 64
  no_hotplug : BitVec 32
  deriving DecidableEq

def Connection.entry (c : Connection) : Entry := ⟨c.afu_name, c.size, c.no_hotplug⟩

/-- What an attach request asks to be registered; on the memory side there is no hotplug flag. -/
def Message.entry (msg : Message) : Entry :=
  ⟨cstr msg.get_afu_name, msg.get_size,
    if msg.mode = .MEMORY_ATTACH then 0 else msg.get_no_hotplug⟩

/-- The agent serves requests until it runs into undefined behaviour. -/
structure Agent where
  node : Node := {}
  running : Bool := true

/-- A request, and what the platform decides while it is handled. -/
structure Request where
  msg : Message
  plat : Platform

def Agent.step (build : Build) (s : Agent) (i : Request) : Agent :=
  if s.running then
    match handle_request build i.plat s.node i.msg with
    | some (node, _) => { s with node := node }
    | none => { s with running := false }
  else s

def agent (build : Build) : Machine Agent Request where
  init := {}
  step := Agent.step build

/-- The request and its response. -/
def Agent.exchanged (build : Build) (s : Agent) (i : Request) : List (Message × Message) :=
  if s.running then ((handle_request build i.plat s.node i.msg).map fun r => (i.msg, r.2)).toList
  else []

/-! ## What the responses say -/

/-- The effect of a response on the registry that the responses describe. -/
def record (l : List UInt8 → Option Entry) (x : Message × Message) : List UInt8 → Option Entry :=
  fun circuit =>
    if x.1.mode ≠ .UNKNOWN ∧ circuitOf x.2.get_circuitid = circuit then
      if x.2.get_status = ATTACH_OK then some x.1.entry
      else if x.2.get_status = DETACH_OK then none
      else l circuit
    else l circuit

/-- For each circuit the last attach that was answered `ATTACH_OK`, unless it was followed by a
`DETACH_OK`. -/
def ledger (h : List (Message × Message)) : List UInt8 → Option Entry :=
  h.foldl record fun _ => none

/-- An attach for a circuit that is attached is not answered `ATTACH_OK`. -/
def Answered : List (Message × Message) → Prop :=
  Each fun h x => x.1.mode ≠ .UNKNOWN → x.2.get_status = ATTACH_OK →
    ledger h (circuitOf x.2.get_circuitid) = none

/-- **The registry agrees with the responses** after the requests `is`. -/
structure RegistryAgrees (is : List Request) : Prop where
  running : ((agent .MOCK).run is).running = true
  circuits : ∀ circuit, (∃ conn ∈ ((agent .MOCK).run is).node.clist, conn.circuit = circuit) ↔
    ledger ((agent .MOCK).collect (Agent.exchanged .MOCK) is) circuit ≠ none
  entries : ∀ conn ∈ ((agent .MOCK).run is).node.clist,
    ledger ((agent .MOCK).collect (Agent.exchanged .MOCK) is) conn.circuit = some conn.entry
  answered : Answered ((agent .MOCK).collect (Agent.exchanged .MOCK) is)

/-- The request gets as far as `add_conn`. -/
def Message.registers (msg : Message) : Bool :=
  msg.mode = .MEMORY_ATTACH || (msg.mode = .COMPUTE_ATTACH && msg.get_iports.length = 1)

/-- The condition on a request: an attach that gets as far as `add_conn` is for a circuit that is
not registered, and a memory detach is not for one that was attached on the compute side. -/
structure RequestOk (s : Agent) (i : Request) : Prop where
  fresh : i.msg.registers = true → registered s.node.clist (circuitOf i.msg.get_circuitid) = none
  assigned : i.msg.mode = .MEMORY_DETACH → ∀ conn,
    registered s.node.clist (circuitOf i.msg.get_circuitid) = some conn → conn.ea ≠ none

/-! ## One request -/

/-- What a request can do in the mock build, when the allocation succeeds: register the circuit
and answer `ATTACH_OK`, unlink its connection and answer `DETACH_OK`, or leave the list as it is
and answer neither. -/
inductive Handled (plat : Platform) (node : Node) (msg : Message) :
    Option (Node × Message) → Prop
  | attached {rsp : Message} {conn : Connection} (hm : msg.registers = true)
      (hc : conn.circuit = circuitOf msg.get_circuitid) (he : conn.entry = msg.entry)
      (hs : rsp.get_status = ATTACH_OK) (hid : rsp.get_circuitid = msg.get_circuitid) :
      Handled plat node msg (some (⟨(add_conn node.clist conn).1, node.online⟩, rsp))
  | detached {rsp : Message} {conn : Connection} (hm : msg.registers = false)
      (hk : msg.mode ≠ .UNKNOWN)
      (hc : registered node.clist (circuitOf msg.get_circuitid) = some conn)
      (ha : msg.mode = .MEMORY_DETACH → conn.ea ≠ none)
      (hs : rsp.get_status = DETACH_OK) (hid : rsp.get_circuitid = msg.get_circuitid) :
      Handled plat node msg
        (some (⟨node.clist.eraseP fun c => c.circuit = circuitOf msg.get_circuitid, node.online⟩, rsp))
  | refused {rsp : Message} (hm : msg.registers = false)
      (hs : msg.mode ≠ .UNKNOWN → rsp.get_status ≠ ATTACH_OK ∧ rsp.get_status ≠ DETACH_OK)
      (hn : msg.mode = .MEMORY_DETACH → registered node.clist (circuitOf msg.get_circuitid) = none) :
      Handled plat node msg (some (node, rsp))
  | undefined {conn : Connection} (hm : msg.mode = .MEMORY_DETACH)
      (hc : registered node.clist (circuitOf msg.get_circuitid) = some conn) (ha : conn.ea = none) :
      Handled plat node msg none

section Handlers

variable {plat : Platform} {node : Node} {msg : Message}

lemma circuitOf_take (circuit_id : List UInt8) :
    circuitOf (circuit_id.take CIRCUIT_ID_SIZE) = circuitOf circuit_id := by
  rw [circuitOf, List.take_take, Nat.min_self, circuitOf]

lemma get_afu_name_take (msg : Message) : msg.get_afu_name.take AFUNAME_SIZE = msg.get_afu_name :=
  List.take_of_length_le (Bytes.length_get _ _ _).le

lemma handled_attach_memory {ea : BitVec 64} (hm : msg.mode = .MEMORY_ATTACH)
    (hea : plat.memalign = some ea) :
    Handled plat node msg (some (proto_attach_memory .MOCK plat node msg)) := by
  have heq : attach_memory .MOCK plat node msg.get_circuitid msg.get_afu_name msg.get_size
      = (⟨(add_conn node.clist { new_conn msg.get_circuitid msg.get_afu_name msg.get_size 0 with
          ea := some ea }).1, node.online⟩, ATTACH_OK, some ea) := by
    simp only [attach_memory, hea]
  rw [proto_attach_memory, heq]
  refine .attached (by simp [Message.registers, hm]) (circuitOf_take _) ?_ (by simp) (by simp)
  simp [Connection.entry, Message.entry, new_conn, get_afu_name_take, hm]

lemma handled_detach_memory (hm : msg.mode = .MEMORY_DETACH) :
    Handled plat node msg (proto_detach_memory plat node msg) := by
  rw [proto_detach_memory, detach_memory]
  cases hc : get_conn node.clist msg.get_circuitid with
  | none =>
      refine .refused (by simp [Message.registers, hm]) (fun _ => ?_) fun _ => hc
      simp only [Message.get_status_set_status]
      decide
  | some conn =>
      cases hea : conn.ea with
      | none =>
          simp only [hea, Option.map_none]
          exact .undefined hm hc hea
      | some ea =>
          simp only [hea, del_conn_found hc, Option.map_some]
          exact .detached (by simp [Message.registers, hm]) (by simp [hm]) hc (by simp [hea]) (by simp) (by simp)

lemma handled_attach_compute (hm : msg.mode = .COMPUTE_ATTACH) :
    Handled plat node msg (proto_attach_compute .MOCK plat node msg) := by
  have hrefuse (hl : msg.get_iports.length ≠ 1) {rsp : Message}
      (hs : rsp.get_status = ERR_PORT_UNSUPPORTED) : Handled plat node msg (some (node, rsp)) := by
    refine .refused (by simp [Message.registers, hm, hl]) (fun _ => ?_) (by simp [hm])
    rw [hs]
    decide
  match hp : msg.get_iports with
  | [] =>
      rw [proto_attach_compute, hp]
      exact hrefuse (by simp [hp]) (by simp)
  | p :: q :: r =>
      rw [proto_attach_compute, hp]
      exact hrefuse (by simp [hp]) (by simp)
  | [p] =>
      rw [proto_attach_compute, hp]
      refine .attached (by simp [Message.registers, hm, hp]) (circuitOf_take _) ?_ (by simp) (by simp)
      simp [Connection.entry, Message.entry, new_conn, get_afu_name_take, hm]

lemma handled_detach_compute (hm : msg.mode = .COMPUTE_DETACH) :
    Handled plat node msg (proto_detach_compute .MOCK plat node msg) := by
  rw [proto_detach_compute, detach_compute]
  cases hc : get_conn node.clist msg.get_circuitid with
  | none =>
      refine .refused (by simp [Message.registers, hm]) (fun _ => ?_) (by simp [hm])
      simp only [Message.get_status_set_status]
      decide
  | some conn =>
      simp only [reduceCtorEq, false_and, if_false, Option.map_some, del_conn_found hc, if_true]
      exact .detached (by simp [Message.registers, hm]) (by simp [hm]) hc (by simp [hm]) (by simp) (by simp)

theorem handle_request_handled (node : Node) (msg : Message) (h : plat.memalign ≠ none) :
    Handled plat node msg (handle_request .MOCK plat node msg) := by
  obtain ⟨ea, hea⟩ := Option.ne_none_iff_exists'.mp h
  rw [handle_request]
  split
  · exact handled_attach_memory ‹_› hea
  · exact handled_detach_memory ‹_›
  · exact handled_attach_compute ‹_›
  · exact handled_detach_compute ‹_›
  · rename_i hm
    exact .refused (by simp [Message.registers, hm]) (fun hne => absurd hm hne) (by simp [hm])

end Handlers

/-! ## The ledger -/

lemma ledger_concat (h : List (Message × Message)) (x : Message × Message) :
    ledger (h ++ [x]) = record (ledger h) x := by
  rw [ledger, List.foldl_append]
  rfl

/-- What the responses say is what the list says. -/
def Agrees (clist : List Connection) (h : List (Message × Message)) : Prop :=
  ∀ circuit, (registered clist circuit).map Connection.entry = ledger h circuit

/-! ## One request of the agent -/

section Step

variable {s : Agent} {i : Request} {h : List (Message × Message)}

lemma step_some {node : Node} {rsp : Message} (hr : s.running = true)
    (hh : handle_request .MOCK i.plat s.node i.msg = some (node, rsp)) :
    s.step .MOCK i = { s with node := node } ∧ s.exchanged .MOCK i = [(i.msg, rsp)] := by
  rw [Agent.step, Agent.exchanged, if_pos hr, if_pos hr, hh]
  exact ⟨rfl, rfl⟩

lemma step_none (hr : s.running = true) (hh : handle_request .MOCK i.plat s.node i.msg = none) :
    s.step .MOCK i = { s with running := false } := by
  rw [Agent.step, if_pos hr, hh]

/-- The list never has a circuit twice. -/
lemma distinct_step (hd : Distinct s.node.clist) (halloc : i.plat.memalign ≠ none) :
    Distinct (s.step .MOCK i).node.clist := by
  by_cases hr : s.running = true
  · have hh := handle_request_handled s.node i.msg halloc
    generalize ho : handle_request .MOCK i.plat s.node i.msg = o at hh
    cases hh with
    | @attached rsp conn =>
        rw [(step_some hr ho).1]
        by_cases hc : registered s.node.clist conn.circuit = none
        · rw [add_conn_fresh hc]
          exact hd.cons hc
        · rw [add_conn_dup hc]
          exact hd
    | detached =>
        rw [(step_some hr ho).1]
        exact hd.eraseP _
    | refused =>
        rw [(step_some hr ho).1]
        exact hd
    | undefined =>
        rw [step_none hr ho]
        exact hd
  · rw [Agent.step, if_neg hr]
    exact hd

/-- **A request that meets the condition keeps the agreement.** -/
lemma agrees_step (hr : s.running = true) (hd : Distinct s.node.clist)
    (halloc : i.plat.memalign ≠ none) (ha : Agrees s.node.clist h) (hA : Answered h)
    (hok : RequestOk s i) :
    (s.step .MOCK i).running = true ∧ Agrees (s.step .MOCK i).node.clist (h ++ s.exchanged .MOCK i) ∧
      Answered (h ++ s.exchanged .MOCK i) := by
  have hh := handle_request_handled s.node i.msg halloc
  generalize ho : handle_request .MOCK i.plat s.node i.msg = o at hh
  cases hh with
  | @attached rsp conn hm hc he hs hid =>
      obtain ⟨hstep, hex⟩ := step_some hr ho
      have hmode : i.msg.mode ≠ .UNKNOWN := by
        intro hu
        simp [Message.registers, hu] at hm
      have hfresh : registered s.node.clist conn.circuit = none := hc ▸ hok.fresh hm
      rw [hstep, hex, Answered, each_concat]
      refine ⟨hr, fun circuit => ?_, hA, fun _ _ => ?_⟩
      · rw [ledger_concat, add_conn_fresh hfresh, registered_cons, record, hid, ← hc, ← ha circuit]
        by_cases hcc : conn.circuit = circuit
        · simp [hcc, hmode, hs, he]
        · simp [hcc]
      · rw [hid, ← hc, ← ha, hfresh]
        rfl
  | @detached rsp conn hm hmode hc _ hs hid =>
      obtain ⟨hstep, hex⟩ := step_some hr ho
      have hne : DETACH_OK ≠ ATTACH_OK := by decide
      rw [hstep, hex, Answered, each_concat]
      refine ⟨hr, fun circuit => ?_, hA, fun _ hs' => absurd (hs.symm.trans hs') hne⟩
      rw [ledger_concat, registered_eraseP hd, record, hid, ← ha circuit]
      by_cases hcc : circuitOf i.msg.get_circuitid = circuit
      · simp [hcc, hmode, hs, hne]
      · simp [hcc, Ne.symm hcc]
  | @refused rsp hm hs =>
      obtain ⟨hstep, hex⟩ := step_some hr ho
      rw [hstep, hex, Answered, each_concat]
      refine ⟨hr, fun circuit => ?_, hA, fun hk hs' => absurd hs' (hs hk).1⟩
      rw [ledger_concat, record, ← ha circuit]
      split_ifs with hk h1 h2
      · exact absurd h1 (hs hk.1).1
      · exact absurd h2 (hs hk.1).2
      · rfl
      · rfl
  | @undefined conn hm hc hea => exact absurd hea (hok.assigned hm conn hc)

/-- Conversely, a request that is answered in agreement meets the condition. -/
lemma ok_of_agrees (hr : s.running = true) (halloc : i.plat.memalign ≠ none)
    (ha : Agrees s.node.clist h) (hr' : (s.step .MOCK i).running = true)
    (hA : Answered (h ++ s.exchanged .MOCK i)) : RequestOk s i := by
  have hh := handle_request_handled s.node i.msg halloc
  have hnot (hm : i.msg.mode = .MEMORY_DETACH) : i.msg.registers = false := by
    simp [Message.registers, hm]
  generalize ho : handle_request .MOCK i.plat s.node i.msg = o at hh
  cases hh with
  | @attached rsp conn hm hc _ hs hid =>
      obtain ⟨-, hex⟩ := step_some hr ho
      have hmode : i.msg.mode ≠ .UNKNOWN := by
        intro hu
        simp [Message.registers, hu] at hm
      rw [hex, Answered, each_concat] at hA
      have hnone := hA.2 hmode hs
      rw [hid, ← ha] at hnone
      exact ⟨fun _ => Option.map_eq_none_iff.mp hnone,
        fun hd => absurd (hm.symm.trans (hnot hd)) (by decide)⟩
  | detached hm _ hc hea =>
      refine ⟨fun hm' => absurd (hm'.symm.trans hm) (by decide), fun hd conn' hc' => ?_⟩
      obtain rfl := Option.some.inj (hc.symm.trans hc')
      exact hea hd
  | refused hm _ hn =>
      exact ⟨fun hm' => absurd (hm'.symm.trans hm) (by decide),
        fun hd conn hc => absurd (hc.symm.trans (hn hd)) (by simp)⟩
  | undefined =>
      rw [step_none hr ho] at hr'
      exact absurd hr' (by simp)

end Step

/-! ## Every run -/

/-- What one can ask of the list and the responses, for a list without double circuits. -/
lemma registryAgrees_iff {is : List Request} (hd : Distinct ((agent .MOCK).run is).node.clist) :
    RegistryAgrees is ↔ ((agent .MOCK).run is).running = true ∧
      Agrees ((agent .MOCK).run is).node.clist
        ((agent .MOCK).collect (Agent.exchanged .MOCK) is) ∧
      Answered ((agent .MOCK).collect (Agent.exchanged .MOCK) is) := by
  constructor
  · rintro ⟨hr, hc, he, hA⟩
    refine ⟨hr, fun circuit => ?_, hA⟩
    cases hreg : registered ((agent .MOCK).run is).node.clist circuit with
    | none =>
        have hno := registered_eq_none.mp hreg
        by_contra hne
        obtain ⟨conn, hm, hcirc⟩ := (hc circuit).mpr fun hn => hne hn.symm
        exact hno conn hm hcirc
    | some conn =>
        obtain ⟨hm, rfl⟩ := registered_some hreg
        exact (he conn hm).symm
  · rintro ⟨hr, ha, hA⟩
    refine ⟨hr, fun circuit => ?_, fun conn hm => ?_, hA⟩
    · rw [← ha circuit]
      constructor
      · rintro ⟨conn, hm, rfl⟩
        simp [registered_of_mem hd hm]
      · intro hne
        have hsome : registered ((agent .MOCK).run is).node.clist circuit ≠ none :=
          fun hn => hne (by rw [hn]; rfl)
        obtain ⟨conn, hreg⟩ := Option.ne_none_iff_exists'.mp hsome
        exact ⟨conn, registered_some hreg⟩
    · rw [← ha, registered_of_mem hd hm]
      rfl

lemma distinct_run (is : List Request)
    (halloc : (agent .MOCK).Meets (fun _ i => i.plat.memalign ≠ none) is) :
    Distinct ((agent .MOCK).run is).node.clist :=
  (agent .MOCK).invariant (P := fun s => Distinct s.node.clist) List.nodup_nil
    (fun _ _ hd hi => distinct_step hd hi) is halloc

/-- **The registry agrees with the responses after every request** exactly when every request
meets the condition. -/
theorem registry_agrees_iff (is : List Request) (halloc : ∀ i ∈ is, i.plat.memalign ≠ none) :
    (∀ js, js <+: is → RegistryAgrees js) ↔ (agent .MOCK).Meets RequestOk is := by
  have hnil : RegistryAgrees [] :=
    (registryAgrees_iff (distinct_run [] trivial)).mpr ⟨rfl, fun _ => rfl, each_nil⟩
  have hplat : (agent .MOCK).Meets (fun _ i => i.plat.memalign ≠ none) is :=
    (agent .MOCK).meets_of_forall fun _ => halloc
  refine (agent .MOCK).forall_prefix_iff hnil (fun is i hpre hi _ hagrees => ?_) is hplat
  have hd := distinct_run is hpre
  obtain ⟨hr, ha, hA⟩ := (registryAgrees_iff hd).mp hagrees
  rw [registryAgrees_iff (distinct_run _ ((Machine.meets_concat _ _ is i).mpr ⟨hpre, hi⟩)),
    Machine.run_concat, Machine.collect_concat]
  exact ⟨fun ⟨hr', _, hA'⟩ => ok_of_agrees hr hi ha hr' hA', agrees_step hr hd hi ha hA⟩

/-! ## Two requests -/

/-- A compute attach of circuit `c` with `blocks` memory blocks on the first port. -/
def computeAttach (blocks : ℕ) : Request where
  msg :=
    let msg := Message.set_circuitid (fun _ => 0) (ascii ['c'])
    let msg := msg.set_msgtype COMPUTE_ATTACH
    let msg := msg.set_afu (ascii ['a'])
    let msg := msg.set_iports [1]
    msg.set_size (BitVec.ofNat 64 (blocks * MEMBLOCK_SIZE))
  plat := plainPlatform

/-- A compute detach of circuit `c`. -/
def computeDetach : Request where
  msg := (Message.set_circuitid (fun _ => 0) (ascii ['c'])).set_msgtype COMPUTE_DETACH
  plat := plainPlatform

theorem registry_agrees_iff_reattach :
    (∀ js, js <+: [computeAttach 1, computeDetach, computeAttach 2] → RegistryAgrees js) ↔
      (agent .MOCK).Meets RequestOk [computeAttach 1, computeDetach, computeAttach 2] :=
  registry_agrees_iff _ (by decide)

/-- **A second attach is answered `ATTACH_OK` and not registered.** -/
theorem attach_twice_disagrees :
    (∀ i ∈ [computeAttach 1, computeAttach 2], i.plat.memalign ≠ none) ∧
    ((agent .MOCK).collect (Agent.exchanged .MOCK) [computeAttach 1, computeAttach 2]).map
      (fun x => x.2.get_status) = [ATTACH_OK, ATTACH_OK] ∧
    ((agent .MOCK).run [computeAttach 1, computeAttach 2]).node.clist.map Connection.entry
      = [⟨ascii ['a'], 0x10000000, 0⟩] ∧
    ¬ RegistryAgrees [computeAttach 1, computeAttach 2] := by
  refine ⟨by decide, by decide +kernel, by decide +kernel, fun h => ?_⟩
  have hentry := h.entries
  have hno : ¬ ∀ conn ∈ ((agent .MOCK).run [computeAttach 1, computeAttach 2]).node.clist,
      ledger ((agent .MOCK).collect (Agent.exchanged .MOCK) [computeAttach 1, computeAttach 2])
        conn.circuit = some conn.entry := by decide +kernel
  exact hno hentry

end ThymesisFlow
