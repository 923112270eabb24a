import ThymesisFlow.Agent.Message
import ThymesisFlow.Lib.BitSum

/-!
# Sets of ports

`marshal_iports` and `unmarshal_iports` of `iport.c`.  A set of ports is a byte with bit `k` for port
`k + 1`.  The decoder tests the bits one by one, so it never lists a port twice.  The encoder adds the
bits where it could set them: a port that occurs twice carries into the next.
-/

namespace ThymesisFlow

/-! ## The decoder -/

lemma foldl_ports_eq (n : UInt8) (ks pl : List ℕ) :
    ks.foldl (fun pl k => if n.toNat.testBit k then (k + 1) :: pl else pl) pl
      = ((ks.filter n.toNat.testBit).map (· + 1)).reverse ++ pl := by
  induction ks generalizing pl with
  | nil => rfl
  | cons k ks ih =>
      rw [List.foldl_cons, ih, List.filter_cons]
      split_ifs with hk
      · simp
      · rfl

/-- The ports come in descending order. -/
lemma unmarshal_iports_eq (n : UInt8) :
    unmarshal_iports n = (((List.range 8).filter n.toNat.testBit).map (· + 1)).reverse := by
  rw [unmarshal_iports, foldl_ports_eq, List.append_nil]

lemma mem_unmarshal_iports (n : UInt8) (p : ℕ) :
    p ∈ unmarshal_iports n ↔ ∃ k < 8, n.toNat.testBit k = true ∧ p = k + 1 := by
  simp only [unmarshal_iports_eq, List.mem_reverse, List.mem_map, List.mem_filter, List.mem_range,
    and_assoc, eq_comm]

lemma nodup_unmarshal_iports (n : UInt8) : (unmarshal_iports n).Nodup := by
  rw [unmarshal_iports_eq, List.nodup_reverse]
  exact (List.nodup_range.filter _).map (add_left_injective 1)

/-! ## The encoder -/

lemma toNat_foldl_ports (ports : List ℕ) (port_rep : UInt8) :
    (ports.foldl (fun port_rep nport => port_rep + UInt8.ofNat (1 <<< (nport - 1))) port_rep).toNat
      = (port_rep.toNat + bitSum (ports.map (· - 1))) % 2 ^ 8 := by
  induction ports generalizing port_rep with
  | nil => exact (Nat.mod_eq_of_lt port_rep.toNat_lt).symm
  | cons p ports ih =>
      rw [List.foldl_cons, ih, UInt8.toNat_add, UInt8.toNat_ofNat', Nat.one_shiftLeft, List.map_cons,
        bitSum_cons]
      omega

/-- The byte is the sum of the bits, as far as it fits. -/
lemma toNat_marshal_iports (ports : List ℕ) :
    (marshal_iports ports).toNat = bitSum (ports.map (· - 1)) % 2 ^ 8 := by
  rw [marshal_iports, toNat_foldl_ports]
  simp

/-- **A byte comes out again.** -/
lemma marshal_unmarshal (n : UInt8) : marshal_iports (unmarshal_iports n) = n := by
  have hall : ∀ k : Fin 256, marshal_iports (unmarshal_iports (UInt8.ofNat k)) = UInt8.ofNat k := by
    decide +kernel
  simpa using hall ⟨n.toNat, n.toNat_lt⟩

/-! ## A list of ports -/

section RoundTrip

variable {ports : List ℕ}

/-- The ports come out again exactly when the bits that repeated ports add are lost. -/
lemma mem_unmarshal_marshal_iff (hrange : ∀ p ∈ ports, 1 ≤ p ∧ p ≤ 8) :
    (∀ p, p ∈ unmarshal_iports (marshal_iports ports) ↔ p ∈ ports) ↔
      256 ∣ excess (ports.map (· - 1)) := by
  have hlt : ∀ k ∈ ports.map (· - 1), k < 8 := by
    intro k hk
    obtain ⟨p, hp, rfl⟩ := List.mem_map.mp hk
    have hp' := hrange p hp
    omega
  have hmem (k : ℕ) : k ∈ ports.map (· - 1) ↔ k + 1 ∈ ports := by
    rw [List.mem_map]
    constructor
    · rintro ⟨p, hp, rfl⟩
      rwa [Nat.sub_add_cancel (hrange p hp).1]
    · exact fun hk => ⟨k + 1, hk, rfl⟩
  refine Iff.trans ?_ (testBit_bitSum_mod_iff hlt)
  simp only [mem_unmarshal_iports, toNat_marshal_iports]
  constructor
  · intro hall k
    rw [hmem, ← hall]
    constructor
    · intro hk
      have hk8 : k < 8 := by
        rw [Nat.testBit_mod_two_pow, Bool.and_eq_true, decide_eq_true_eq] at hk
        exact hk.1
      exact ⟨k, hk8, hk, rfl⟩
    · rintro ⟨j, -, hj, heq⟩
      rwa [Nat.succ.inj heq]
  · intro hbits p
    constructor
    · rintro ⟨k, -, hk, rfl⟩
      exact (hmem k).mp ((hbits k).mp hk)
    · intro hp
      have hp' := hrange p hp
      have hsucc : p - 1 + 1 = p := Nat.sub_add_cancel hp'.1
      exact ⟨p - 1, by omega, (hbits _).mpr ((hmem _).mpr (hsucc.symm ▸ hp)), hsucc.symm⟩

/-- Distinct ports come out again. -/
lemma mem_unmarshal_marshal (hrange : ∀ p ∈ ports, 1 ≤ p ∧ p ≤ 8) (hd : ports.Nodup) (p : ℕ) :
    p ∈ unmarshal_iports (marshal_iports ports) ↔ p ∈ ports := by
  have hnodup : (ports.map (· - 1)).Nodup := by
    refine hd.map_on fun p hp q hq heq => ?_
    have hp' := hrange p hp
    have hq' := hrange q hq
    omega
  refine (mem_unmarshal_marshal_iff hrange).mpr ?_ p
  rw [(excess_eq_zero_iff _).mpr hnodup]
  exact Nat.dvd_zero 256

/-- **The set of ports comes out again**, as a list without repetitions. -/
def PortsKept (ports : List ℕ) : Prop :=
  (unmarshal_iports (marshal_iports ports)).Nodup ∧
    ∀ p, p ∈ unmarshal_iports (marshal_iports ports) ↔ p ∈ ports

/-- **The set of ports comes out again** exactly when the weights of the repeated ports add up to a
multiple of 256. -/
theorem ports_kept_iff (ports : List ℕ) (hrange : ∀ p ∈ ports, 1 ≤ p ∧ p ≤ 8) :
    PortsKept ports ↔ 256 ∣ excess (ports.map (· - 1)) := by
  rw [PortsKept, mem_unmarshal_marshal_iff hrange]
  exact and_iff_right (nodup_unmarshal_iports _)

/-- Port 8 three times adds 256. -/
theorem ports_kept_iff_three_times : PortsKept [8, 1, 8, 8] ↔ 256 ∣ excess ([8, 1, 8, 8].map (· - 1)) :=
  ports_kept_iff [8, 1, 8, 8] (by decide)

/-- **Port 1 twice comes out as port 2.** -/
theorem repeated_port_lost :
    (∀ p ∈ [1, 1], 1 ≤ p ∧ p ≤ 8) ∧ unmarshal_iports (marshal_iports [1, 1]) = [2] ∧
      ¬ PortsKept [1, 1] := by
  refine ⟨by decide, by decide, fun h => ?_⟩
  exact absurd ((h.2 1).mpr (by decide)) (by decide)

end RoundTrip

end ThymesisFlow
