import Mathlib.Data.List.Perm.Basic
import ThymesisFlow.Memory.RespEng

/-!
# The ledger of the CAPPTAGs

What the memory node is about, without its streams and registers: a tag is free, or it belongs to a
command that is on its way to the host, at the host, or answered.  An answer that is followed by
others does not take the tag with it.  The lemmas of this file are the transitions of the ledger;
each says that it stays sound.
-/

namespace ThymesisFlow

/-- What the engines read of a command. -/
@[ext]
structure CmdShape where
  isWrite : Bool
  dl : BitVec 2
  hasTag : Bool
  deriving DecidableEq, Repr

/-- The data flits behind the command. -/
def CmdShape.size (sh : CmdShape) : ℕ := if sh.isWrite then (dataSize sh.dl).toNat else 0

/-- The response is the last one for a command with data length `dl`, as the response engine sees
it. -/
def lastResp (dl : BitVec 2) (r : TlResp) : Bool :=
  let st := respState (TlResp.opcode r) (TlResp.code r)
  if bit st 0 then true
  else if bit st 1 then !(TlResp.dl r ≠ dl && TlResp.dp r = 0)
  else bit st 2

/-- Each of the responses is for a command of `host`, or its last one is still to come. -/
def Backed (host : List Tag) (last : TlResp → Bool) : List TlResp → Prop
  | [] => True
  | r :: rs => (TlResp.capptag r ∈ host ∨
      ∃ r' ∈ r :: rs, last r' = true ∧ TlResp.capptag r' = TlResp.capptag r) ∧ Backed host last rs

namespace Backed

variable {host host' : List Tag} {last last' : TlResp → Bool} {r : TlResp} {rs : List TlResp}

lemma mem (h : Backed host last rs) (hr : r ∈ rs) :
    TlResp.capptag r ∈ host ∨ TlResp.capptag r ∈ (rs.filter last).map TlResp.capptag := by
  induction rs with
  | nil => cases hr
  | cons r' rs ih =>
      rcases List.mem_cons.mp hr with rfl | hr
      · rcases h.1 with hhost | ⟨r', hr', hlast, htag⟩
        · exact .inl hhost
        · rw [← htag]
          exact .inr (List.mem_map_of_mem (List.mem_filter.mpr ⟨hr', hlast⟩))
      · rcases ih h.2 hr with hhost | htag
        · exact .inl hhost
        · refine .inr (List.map_subset _ ?_ htag)
          exact (List.sublist_cons_self r' rs).filter last |>.subset

lemma congr (h : Backed host last rs) (hlast : ∀ r ∈ rs, last' r = last r) : Backed host last' rs := by
  induction rs with
  | nil => trivial
  | cons r rs ih =>
      refine ⟨h.1.imp_right ?_, ih h.2 fun r' hr' => hlast r' (List.mem_cons_of_mem r hr')⟩
      rintro ⟨r', hr', hl, htag⟩
      exact ⟨r', hr', (hlast r' hr').trans hl, htag⟩

lemma mono (h : Backed host last rs) (hsub : ∀ t ∈ host, t ∈ host') : Backed host' last rs := by
  induction rs with
  | nil => trivial
  | cons r rs ih => exact ⟨h.1.imp_left (hsub _), ih h.2⟩

/-- A response is added: it is not the last one of its command, or it takes the command along. -/
lemma concat (h : Backed host last rs) (hsub : ∀ t ∈ host, t ∈ host' ∨
      last r = true ∧ t = TlResp.capptag r)
    (hr : TlResp.capptag r ∈ host' ∨ last r = true) : Backed host' last (rs ++ [r]) := by
  induction rs with
  | nil =>
      refine ⟨?_, trivial⟩
      rcases hr with hhost | hlast
      · exact .inl hhost
      · exact .inr ⟨r, List.mem_singleton_self r, hlast, rfl⟩
  | cons r' rs ih =>
      refine ⟨?_, ih h.2⟩
      rcases h.1 with hhost | ⟨r'', hr'', hlast, htag⟩
      · rcases hsub _ hhost with hhost | ⟨hlast, htag⟩
        · exact .inl hhost
        · exact .inr ⟨r, by simp, hlast, htag.symm⟩
      · exact .inr ⟨r'', List.mem_append_left [r] hr'', hlast, htag⟩

end Backed

/-- `moving` are the commands in the output register and on the retry path, `flight` the responses
on their way to the response engine, `busy` the tag whose data it forwards.  `wide` is set once a
write of four data flits has been taken. -/
@[ext]
structure TagLedger where
  seeded : List Tag
  stored : Tag → CmdShape
  wide : Bool
  fifo : List Tag
  moving : List (Tag × CmdShape)
  host : List (Tag × CmdShape)
  flight : List TlResp
  busy : List Tag

namespace TagLedger

variable (l : TagLedger)

def last (r : TlResp) : Bool := lastResp (l.stored (TlResp.capptag r)).dl r

/-- The tags whose command has been answered for the last time. -/
def answered : List Tag := (l.flight.filter l.last).map TlResp.capptag

def owned : List Tag := (l.moving ++ l.host).map Prod.fst ++ (l.answered ++ l.busy)

/-- A command the node handles: it has a tag, and it is no write of four flits unless one was
taken. -/
def Plain (sh : CmdShape) : Prop :=
  sh.hasTag = true ∧ (l.wide = false → sh.isWrite = true → sh.dl ≠ 0b11)

structure Sound : Prop where
  nodup : l.seeded.Nodup
  tags : (l.fifo ++ l.owned).Perm l.seeded
  shapes : ∀ c ∈ l.moving ++ l.host, c.2 = l.stored c.1
  plain : ∀ t ∈ l.owned, l.Plain (l.stored t)
  backed : Backed (l.host.map Prod.fst) l.last l.flight

namespace Sound

variable {l} {t : Tag} {r : TlResp}

lemma nodup_owned (h : l.Sound) : (l.fifo ++ l.owned).Nodup := h.tags.nodup_iff.mpr h.nodup

lemma mem_seeded (h : l.Sound) (ht : t ∈ l.fifo ++ l.owned) : t ∈ l.seeded := h.tags.subset ht

lemma not_owned_of_fifo (h : l.Sound) (ht : t ∈ l.fifo) : t ∉ l.owned := by
  intro ho
  exact (List.nodup_append.mp h.nodup_owned).2.2 t ht t ho rfl

/-- The tag of every response on its way belongs to a command. -/
lemma flight_owned (h : l.Sound) (hr : r ∈ l.flight) : TlResp.capptag r ∈ l.owned := by
  rcases h.backed.mem hr with hhost | hans
  · refine List.mem_append_left _ ?_
    rw [List.map_append]
    exact List.mem_append_right _ hhost
  · exact List.mem_append_right _ (List.mem_append_left _ hans)

/-! ## Commands move -/

/-- Commands change places. -/
lemma permute (h : l.Sound) {moving host : List (Tag × CmdShape)}
    (hperm : (moving ++ host).Perm (l.moving ++ l.host))
    (hhost : ∀ t ∈ l.host.map Prod.fst, t ∈ host.map Prod.fst) :
    Sound { l with moving, host } where
  nodup := h.nodup
  tags := by
    refine List.Perm.trans ?_ h.tags
    exact (((hperm.map Prod.fst).append_right _).append_left l.fifo)
  shapes c hc := h.shapes c (hperm.subset hc)
  plain t ht := by
    refine h.plain t ?_
    exact ((hperm.map Prod.fst).append_right (l.answered ++ l.busy)).subset ht
  backed := h.backed.mono hhost

/-- **A free tag is given to a new command.** -/
lemma grant (h : l.Sound) {fifo : List Tag} (hfifo : l.fifo = t :: fifo) {sh : CmdShape} {wide : Bool}
    {stored : Tag → CmdShape} (hwide : l.wide = true → wide = true) (hself : stored t = sh)
    (hother : ∀ t' ∈ l.owned, stored t' = l.stored t') (htag : sh.hasTag = true)
    (hsize : wide = false → sh.isWrite = true → sh.dl ≠ 0b11) :
    Sound { l with fifo, stored, wide, moving := (t, sh) :: l.moving } := by
  have hlast : ∀ r ∈ l.flight, lastResp (stored (TlResp.capptag r)).dl r = l.last r := by
    intro r hr
    rw [hother _ (h.flight_owned hr)]
    rfl
  have hans : (l.flight.filter fun r => lastResp (stored (TlResp.capptag r)).dl r).map TlResp.capptag
      = l.answered := by
    rw [List.filter_congr hlast]
    rfl
  have howned : { l with fifo, stored, wide, moving := (t, sh) :: l.moving }.owned
      = t :: l.owned := by
    have hunfold : { l with fifo, stored, wide, moving := (t, sh) :: l.moving }.owned
        = t :: ((l.moving ++ l.host).map Prod.fst ++ ((l.flight.filter fun r =>
          lastResp (stored (TlResp.capptag r)).dl r).map TlResp.capptag ++ l.busy)) := rfl
    rw [hunfold, hans]
    rfl
  refine ⟨h.nodup, ?_, ?_, ?_, h.backed.congr hlast⟩
  · rw [howned]
    have htags := h.tags
    rw [hfifo] at htags
    exact List.perm_middle.trans htags
  · intro c hc
    rcases List.mem_cons.mp hc with rfl | hc
    · exact hself.symm
    · have hmem : c.1 ∈ l.owned := List.mem_append_left _ (List.mem_map_of_mem hc)
      exact (h.shapes c hc).trans (hother _ hmem).symm
  · intro t' ht'
    rw [howned] at ht'
    change (stored t').hasTag = true ∧
      (wide = false → (stored t').isWrite = true → (stored t').dl ≠ 0b11)
    rcases List.mem_cons.mp ht' with rfl | ht'
    · rw [hself]
      exact ⟨htag, hsize⟩
    · obtain ⟨hplain, hdl⟩ := h.plain t' ht'
      rw [hother t' ht']
      refine ⟨hplain, fun hw => hdl (eq_false_of_ne_true fun hx => ?_)⟩
      rw [hwide hx] at hw
      cases hw

/-! ## The host answers -/

/-- A response that is not the last one. -/
lemma answer_more (h : l.Sound) (hhost : TlResp.capptag r ∈ l.host.map Prod.fst)
    (hlast : l.last r = false) : Sound { l with flight := l.flight ++ [r] } := by
  have howned : { l with flight := l.flight ++ [r] }.owned = l.owned := by
    have hans : { l with flight := l.flight ++ [r] }.answered = l.answered := by
      change ((l.flight ++ [r]).filter l.last).map TlResp.capptag = _
      rw [List.filter_append, List.filter_singleton, hlast, cond_false, List.append_nil]
      rfl
    rw [owned, hans]
    rfl
  refine ⟨h.nodup, by rw [howned]; exact h.tags, h.shapes, by rw [howned]; exact h.plain, ?_⟩
  exact h.backed.concat (fun t ht => .inl ht) (.inl hhost)

/-- **The last response takes the command along.** -/
lemma answer_last (h : l.Sound) {host : List (Tag × CmdShape)} {sh : CmdShape}
    (hhost : l.host.Perm ((TlResp.capptag r, sh) :: host)) (hlast : l.last r = true) :
    Sound { l with host, flight := l.flight ++ [r] } := by
  have hans : { l with host, flight := l.flight ++ [r] }.answered
      = l.answered ++ [TlResp.capptag r] := by
    change ((l.flight ++ [r]).filter l.last).map TlResp.capptag = _
    rw [List.filter_append, List.filter_singleton, hlast, cond_true, List.map_append]
    rfl
  have howned : { l with host, flight := l.flight ++ [r] }.owned.Perm l.owned := by
    rw [owned, hans]
    refine List.perm_iff_count.mpr fun t => ?_
    have hcount := (hhost.map Prod.fst).count_eq t
    simp only [List.map_cons, List.count_cons] at hcount
    simp only [owned, List.map_append, List.count_append, List.count_cons, List.count_nil]
    omega
  refine ⟨h.nodup, (howned.append_left l.fifo).trans h.tags, ?_, fun t ht => h.plain t (howned.subset ht),
    ?_⟩
  · intro c hc
    refine h.shapes c ?_
    rcases List.mem_append.mp hc with hc | hc
    · exact List.mem_append_left _ hc
    · exact List.mem_append_right _ (hhost.symm.subset (List.mem_cons_of_mem _ hc))
  · refine h.backed.concat (fun t ht => ?_) (.inr hlast)
    rcases List.mem_cons.mp ((hhost.map Prod.fst).subset ht) with rfl | ht
    · exact .inr ⟨hlast, rfl⟩
    · exact .inl ht

/-! ## The response engine -/

lemma answered_cons {rs : List TlResp} (hflight : l.flight = r :: rs) :
    l.answered = (if l.last r then [TlResp.capptag r] else [])
      ++ { l with flight := rs }.answered := by
  have hrest : { l with flight := rs }.answered = (rs.filter l.last).map TlResp.capptag := rfl
  rw [hrest, answered, hflight, List.filter_cons]
  cases l.last r <;> rfl

/-- A response that is not the last one is handled. -/
lemma drop (h : l.Sound) {rs : List TlResp} (hflight : l.flight = r :: rs) (hlast : l.last r = false) :
    Sound { l with flight := rs } := by
  have hans := answered_cons hflight
  rw [hlast, if_neg Bool.false_ne_true, List.nil_append] at hans
  have howned : { l with flight := rs }.owned = l.owned := by
    rw [owned, owned, hans]
  have hbacked := h.backed
  rw [hflight] at hbacked
  exact ⟨h.nodup, by rw [howned]; exact h.tags, h.shapes, by rw [howned]; exact h.plain, hbacked.2⟩

/-- **The last response of a command is handled**: the tag is freed, goes back with the command, or
stays with the engine. -/
lemma finish (h : l.Sound) {rs : List TlResp} (hflight : l.flight = r :: rs) (hlast : l.last r = true)
    {fifo busy : List Tag} {moving : List (Tag × CmdShape)}
    (hperm : (fifo ++ (moving.map Prod.fst ++ busy)).Perm
      (TlResp.capptag r :: (l.fifo ++ (l.moving.map Prod.fst ++ l.busy))))
    (hmoving : ∀ c ∈ moving, c ∈ l.moving ∨ c = (TlResp.capptag r, l.stored (TlResp.capptag r)))
    (hbusy : ∀ t ∈ busy, t ∈ TlResp.capptag r :: l.busy) :
    Sound { l with fifo, busy, moving, flight := rs } := by
  have hans := answered_cons hflight
  rw [hlast, if_pos rfl] at hans
  have hsame : { l with fifo, busy, moving, flight := rs }.answered = { l with flight := rs }.answered :=
    rfl
  have hmem : TlResp.capptag r ∈ l.owned := h.flight_owned (by rw [hflight]; exact List.mem_cons_self)
  have hsub : ∀ t ∈ { l with fifo, busy, moving, flight := rs }.owned, t ∈ l.owned := by
    intro t ht
    rw [owned, hsame] at ht
    rw [owned, hans]
    simp only [List.map_append, List.mem_append, List.mem_cons] at ht ⊢
    rcases ht with (ht | ht) | ht | ht
    · obtain ⟨c, hc, rfl⟩ := List.mem_map.mp ht
      rcases hmoving c hc with hc | rfl
      · exact .inl (.inl (List.mem_map_of_mem hc))
      · exact .inr (.inl (.inl (by simp)))
    · exact .inl (.inr ht)
    · exact .inr (.inl (.inr ht))
    · rcases List.mem_cons.mp (hbusy t ht) with rfl | ht
      · exact .inr (.inl (.inl (by simp)))
      · exact .inr (.inr ht)
  have hbacked := h.backed
  rw [hflight] at hbacked
  refine ⟨h.nodup, ?_, ?_, fun t ht => h.plain t (hsub t ht), hbacked.2⟩
  · refine List.Perm.trans ?_ h.tags
    rw [owned, hsame, owned, hans]
    refine List.perm_iff_count.mpr fun t => ?_
    have hcount := hperm.count_eq t
    simp only [List.count_cons, List.count_append] at hcount
    simp only [List.map_append, List.count_append, List.count_cons, List.count_nil]
    omega
  · intro c hc
    rcases List.mem_append.mp hc with hc | hc
    · rcases hmoving c hc with hc | rfl
      · exact h.shapes c (List.mem_append_left _ hc)
      · rfl
    · exact h.shapes c (List.mem_append_right _ hc)

/-- The engine has forwarded the data and frees the tag. -/
lemma release (h : l.Sound) {fifo busy : List Tag} (hperm : (fifo ++ busy).Perm (l.fifo ++ l.busy))
    (hbusy : ∀ t ∈ busy, t ∈ l.busy) : Sound { l with fifo, busy } where
  nodup := h.nodup
  tags := by
    refine List.Perm.trans (List.perm_iff_count.mpr fun t => ?_) h.tags
    have hcount := hperm.count_eq t
    have hsame : { l with fifo, busy }.answered = l.answered := rfl
    simp only [List.count_append] at hcount
    simp only [owned, hsame, List.count_append]
    omega
  shapes := h.shapes
  plain t ht := by
    refine h.plain t ?_
    have hsame : { l with fifo, busy }.answered = l.answered := rfl
    rw [owned, hsame] at ht
    rw [owned]
    simp only [List.mem_append] at ht ⊢
    rcases ht with ht | ht | ht
    · exact .inl ht
    · exact .inr (.inl ht)
    · exact .inr (.inr (hbusy t ht))
  backed := h.backed

/-- A new tag. -/
lemma seed (h : l.Sound) {seeded : List Tag} (hnodup : seeded.Nodup)
    (hperm : seeded.Perm (t :: l.seeded)) : Sound { l with seeded, fifo := l.fifo ++ [t] } where
  nodup := hnodup
  tags := by
    refine List.Perm.trans ?_ (hperm.symm)
    refine List.Perm.trans ?_ (h.tags.cons t)
    rw [List.append_assoc]
    exact List.perm_middle
  shapes := h.shapes
  plain := h.plain
  backed := h.backed

end Sound

end TagLedger

end ThymesisFlow
