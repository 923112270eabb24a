import ThymesisFlow.Port.LineDelivers

/-!
# Packets on a line

A line carries two formats, the commands of one node and the responses of the other.  What a line does
to them is the same: a `PacketFormat` says what is needed of a format, and then a stream of packets has
no NOPs (`clean_stream`), what is offered next is none either (`next_noNop`), and what has come through
belongs to packets again, the same up to the credits (`received`).
-/

namespace ThymesisFlow

/-- A format of packets: a header with its data.  The packets that may cross a line (`ok`) are
transactions of the link layer, and a header with other credits belongs to a packet as well. -/
structure PacketFormat (τ : Type) where
  hdr : τ → Flit
  data : τ → List Flit
  ok : τ → Prop
  txn : ∀ u, ok u → ∃ t : LlcTxn, t.flits = hdr u :: data u
  other_creds : ∀ u f, ok u → setField f 27 0#8 = setField (hdr u) 27 0#8 →
    ∃ v, hdr v = f ∧ data v = data u

/-- Above the credits two flits agree, if they agree without them. -/
lemma bit_of_clear {f g : Flit} (h : setField f 27 0#8 = setField g 27 0#8) {k : ℕ} (hk : 35 ≤ k) :
    bit f k = bit g k := by
  have hb : bit (setField f 27 0#8) k = bit (setField g 27 0#8) k := by rw [h]
  rwa [bit_setField_of_disjoint _ _ _ _ (by omega), bit_setField_of_disjoint _ _ _ _ (by omega)] at hb

lemma field_of_clear {f g : Flit} (h : setField f 27 0#8 = setField g 27 0#8) {lo len : ℕ}
    (hlo : 35 ≤ lo) : field f lo len = field g lo len := by
  have hf : field (setField f 27 0#8) lo len = field (setField g 27 0#8) lo len := by rw [h]
  rwa [field_setField_of_disjoint _ _ _ _ (by omega), field_setField_of_disjoint _ _ _ _ (by omega)]
    at hf

lemma phaseAfter_of_clean {p : Phase} {fs : List Flit} (h : nopPadding.Clean p fs) :
    phaseAfter p fs = nopPadding.after p fs := by
  induction fs generalizing p with
  | nil => rfl
  | cons f fs ih =>
      obtain ⟨hf, hfs⟩ := h
      rw [phaseAfter_cons, nopPadding.after_cons, nopPadding_next_of_clean hf]
      rw [nopPadding_next_of_clean hf] at hfs
      exact ih hfs

/-- Four data flits are not touched; what comes behind them is in the command phase again. -/
lemma clearCreds_data {a b c d : Flit} {gs rest : List Flit}
    (h : clearCreds ⟨.DATAFLIT, 4⟩ gs <+: clearCreds ⟨.DATAFLIT, 4⟩ (a :: b :: c :: d :: rest)) :
    gs <+: [a, b, c, d]
      ∨ ∃ gs', gs = a :: b :: c :: d :: gs'
        ∧ clearCreds ⟨.CMDFLIT, 1⟩ gs' <+: clearCreds ⟨.CMDFLIT, 1⟩ rest := by
  have h4 : ∀ x xs, clearCreds ⟨.DATAFLIT, 4⟩ (x :: xs) = x :: clearCreds ⟨.DATAFLIT, 3⟩ xs :=
    fun _ _ => rfl
  have h3 : ∀ x xs, clearCreds ⟨.DATAFLIT, 3⟩ (x :: xs) = x :: clearCreds ⟨.DATAFLIT, 2⟩ xs :=
    fun _ _ => rfl
  have h2 : ∀ x xs, clearCreds ⟨.DATAFLIT, 2⟩ (x :: xs) = x :: clearCreds ⟨.DATAFLIT, 1⟩ xs :=
    fun _ _ => rfl
  have h1 : ∀ x xs, clearCreds ⟨.DATAFLIT, 1⟩ (x :: xs) = x :: clearCreds ⟨.CMDFLIT, 1⟩ xs :=
    fun _ _ => rfl
  rw [h4, h3, h2, h1] at h
  rcases gs with _ | ⟨x, _ | ⟨y, _ | ⟨z, _ | ⟨w, gs⟩⟩⟩⟩
  · exact .inl (List.nil_prefix)
  · rw [h4] at h
    simp only [List.cons_prefix_cons] at h
    simp [h.1]
  · rw [h4, h3] at h
    simp only [List.cons_prefix_cons] at h
    simp [h.1, h.2.1]
  · rw [h4, h3, h2] at h
    simp only [List.cons_prefix_cons] at h
    simp [h.1, h.2.1, h.2.2.1]
  · rw [h4, h3, h2, h1] at h
    simp only [List.cons_prefix_cons] at h
    obtain ⟨rfl, rfl, rfl, rfl, hrest⟩ := h
    exact .inr ⟨gs, rfl, hrest⟩

namespace PacketFormat

variable {τ : Type} (F : PacketFormat τ)

/-- A stream of packets. -/
def stream (us : List τ) : List Flit := us.flatMap fun u => F.hdr u :: F.data u

/-- A packet that is carried over: its header up to the credits, and its own data. -/
structure Carries (u v : τ) : Prop where
  hdr : setField (F.hdr v) 27 0#8 = setField (F.hdr u) 27 0#8
  data : F.data v = F.data u

variable {F} {us : List τ} {p : Phase}

lemma stream_cons (u : τ) (us : List τ) :
    F.stream (u :: us) = F.hdr u :: (F.data u ++ F.stream us) := rfl

lemma carries_refl (us : List τ) : List.Forall₂ F.Carries us us :=
  List.forall₂_same.mpr fun _ _ => ⟨rfl, rfl⟩

lemma clean_stream (h : ∀ u ∈ us, F.ok u) (hp : p.isCmd = true) : nopPadding.Clean p (F.stream us) := by
  induction us generalizing p with
  | nil => trivial
  | cons u us ih =>
      obtain ⟨t, ht⟩ := F.txn u (h u (List.mem_cons_self ..))
      obtain ⟨hclean, hcmd⟩ := t.clean hp
      rw [ht] at hclean hcmd
      have hrest := ih (fun v hv => h v (List.mem_cons_of_mem u hv)) hcmd
      have hall := (nopPadding.all_append).mpr ⟨hclean, hrest⟩
      exact hall

/-- **What is offered next in a stream of packets is no NOP.** -/
lemma next_noNop (h : ∀ u ∈ us, F.ok u) {e : BckpressureEgress} {sent before : List Flit} {f : Flit}
    (hstamps : PortLine.Stamps e sent before) (hnext : before ++ [f] <+: F.stream us)
    (hcmd : e.phase.isCmd = true) : isNopCmd f = false := by
  obtain ⟨hphase, -, hafter⟩ := hstamps
  have hclean : nopPadding.Clean {} (F.stream us) := clean_stream h rfl
  obtain ⟨rest, htotal⟩ := hnext
  rw [← htotal, List.append_assoc] at hclean
  obtain ⟨hbefore, hf, -⟩ := (nopPadding.all_append).mp hclean
  rw [← phaseAfter_of_clean hbefore, ← hafter, ← hphase] at hf
  have hnop : (_ && isNopCmd _) = false := hf
  rw [hcmd, Bool.true_and] at hnop
  exact hnop

/-- **What has come through belongs to packets** that are the same up to the credits. -/
lemma restamp (h : ∀ u ∈ us, F.ok u) (hp : p.isCmd = true) {fs : List Flit}
    (hfs : clearCreds p fs <+: clearCreds p (F.stream us)) :
    ∃ rs, fs <+: F.stream rs ∧ List.Forall₂ F.Carries us rs := by
  induction us generalizing p fs with
  | nil =>
      cases fs with
      | nil => exact ⟨[], List.prefix_rfl, .nil⟩
      | cons f fs => exact absurd hfs (by simp [clearCreds, stream])
  | cons u us ih =>
      have hu := h u (List.mem_cons_self ..)
      have hus := fun v hv => h v (List.mem_cons_of_mem u hv)
      cases fs with
      | nil => exact ⟨u :: us, List.nil_prefix, carries_refl _⟩
      | cons f gs =>
          rw [stream_cons, clearCreds, clearCreds, if_pos hp, if_pos hp, List.cons_prefix_cons] at hfs
          obtain ⟨hhdr, hgs⟩ := hfs
          obtain ⟨r, rfl, hdata⟩ := F.other_creds u f hu hhdr
          have hr : F.Carries u r := ⟨hhdr, hdata⟩
          have hsm : p.ocapi_sm = .CMDFLIT := by simpa [Phase.isCmd] using hp
          have hsame : hasData (F.hdr r) = hasData (F.hdr u) := by
            rw [hasData, hasData, bit_of_clear hhdr (show 35 ≤ 253 by decide),
              bit_of_clear hhdr (show 35 ≤ 250 by decide), bit_of_clear hhdr (show 35 ≤ 248 by decide)]
          rw [Phase.next, Phase.next, hsm, hsame] at hgs
          obtain ⟨t, ht⟩ := F.txn u hu
          cases t with
          | short hdr known cmd =>
              obtain ⟨rfl, hnil⟩ := List.cons.inj ht
              rw [known, if_neg Bool.false_ne_true, ← hnil] at hgs
              obtain ⟨rs, hpre, hrs⟩ := ih hus hp hgs
              refine ⟨r :: rs, ?_, .cons hr hrs⟩
              rw [stream_cons, hdata, ← hnil]
              exact (List.prefix_cons_inj _).mpr hpre
          | long hdr a b c d known cmd =>
              obtain ⟨rfl, hfour⟩ := List.cons.inj ht
              rw [known, if_pos rfl, ← hfour] at hgs
              rcases clearCreds_data hgs with hpart | ⟨gs', rfl, hrest⟩
              · refine ⟨r :: us, ?_, .cons hr (carries_refl us)⟩
                rw [stream_cons, hdata, ← hfour]
                exact (List.prefix_cons_inj _).mpr (hpart.trans (List.prefix_append _ _))
              · obtain ⟨rs, hpre, hrs⟩ := ih hus rfl hrest
                refine ⟨r :: rs, ?_, .cons hr hrs⟩
                rw [stream_cons, hdata, ← hfour]
                exact (List.prefix_cons_inj _).mpr
                  ((List.prefix_append_right_inj [a, b, c, d]).mpr hpre)

/-- **What the ingress of a node has accepted belongs to packets**, where the egress of the other was
offered a stream of them. -/
lemma received_of_offered (h : ∀ u ∈ us, F.ok u) {offered recv : List Flit}
    (hrecv : clearCreds {} recv <+: clearCreds {} offered) (hoff : offered <+: F.stream us) :
    ∃ rs, recv <+: F.stream rs ∧ List.Forall₂ F.Carries us rs :=
  restamp h rfl (hrecv.trans (clearCreds_isPrefix _ hoff))

end PacketFormat

end ThymesisFlow
