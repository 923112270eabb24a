import ThymesisFlow.Lib.Framing
import ThymesisFlow.Memory.RtyEng

/-!
# The streams of the retry engine are framed

Each of the three streams of the retry engine is a sequence of commands with their data behind
them, read and written in pieces: the engine may stand in the middle of a command at both ends.
`Framed` says what is to come at either end of each stream, and `cmds` lists the commands on the
way.  A call of the engine moves commands from one stream to another and loses none.
-/

namespace ThymesisFlow

open Framing

/-- The data flits behind a retried command. -/
def rtySize (fl : Flit512) : ℕ := if cmdIsWrite fl then (dataSize (cmdDl fl)).toNat else 0

namespace RtyEng

variable (e : RtyEng)

/-- The data flits the engine reads next from its input. -/
def inDue : ℕ := if e.smstate = .DATA then e.rdata.toNat else 0

/-- The data flits the engine reads next from the jail. -/
def jailDue : ℕ := if e.smstate = .JAIL_DATA then e.rdata.toNat else 0

/-- The data flits the engine has still to write to the jail. -/
def jailOwed : ℕ := if e.smstate = .DATA ∧ e.jaildata = true then e.rdata.toNat else 0

/-- The data flits the engine has still to write to its output. -/
def outOwed : ℕ :=
  if e.smstate = .JAIL_DATA ∨ e.smstate = .DATA ∧ e.jaildata = false then e.rdata.toNat else 0

/-- The ways of a frame through the engine: from the input into the jail, from the input to the output,
and from the jail to the output. -/
inductive Route
  | jails
  | passes
  | leaves
  deriving DecidableEq, Repr

/-- The words of the frame in hand that have still to be moved. -/
def remaining : ℕ := if e.smstate = .START then 0 else e.rdata.toNat

/-- The frame in hand, if there is one, goes this way. -/
def On (e : RtyEng) : Route → Prop
  | .jails => e.smstate = .START ∨ (e.smstate = .DATA ∧ e.jaildata = true)
  | .passes => e.smstate = .START ∨ (e.smstate = .DATA ∧ e.jaildata = false)
  | .leaves => e.smstate = .START ∨ e.smstate = .JAIL_DATA

/-- The word `x` goes this way. -/
def Carried (e e' : RtyEng) (x : Flit512) : Route → Prop
  | .jails => e.input_fifo = x :: e'.input_fifo ∧ e'.rty_jail = e.rty_jail ++ [x] ∧
      e'.output_fifo = e.output_fifo
  | .passes => e.input_fifo = x :: e'.input_fifo ∧ e'.rty_jail = e.rty_jail ∧
      e'.output_fifo = e.output_fifo ++ [x]
  | .leaves => e'.input_fifo = e.input_fifo ∧ e.rty_jail = x :: e'.rty_jail ∧
      e'.output_fifo = e.output_fifo ++ [x]

namespace Route

variable {β : Type*} (r : Route) (cur none : β)

/-! What is to come at the ends of the streams, `cur` where the frame in hand passes. -/

def inFront : β := match r with
  | jails | passes => cur
  | leaves => none

def jailFront : β := match r with
  | jails | passes => none
  | leaves => cur

def jailBack : β := match r with
  | jails => cur
  | passes | leaves => none

def outBack : β := match r with
  | jails => none
  | passes | leaves => cur

end Route

section Carried

variable {e e' : RtyEng}

/-- The ends that the frame in hand does not pass are between two frames. -/
lemma On.dues {r : Route} (h : e.On r) : e.inDue = r.inFront e.remaining 0 ∧
    e.jailDue = r.jailFront e.remaining 0 ∧ e.jailOwed = r.jailBack e.remaining 0 ∧
    e.outOwed = r.outBack e.remaining 0 := by
  cases r with
  | jails =>
      rcases h with h | ⟨h, hflag⟩ <;>
        simp [inDue, jailDue, jailOwed, outOwed, remaining, Route.inFront, Route.jailFront,
          Route.jailBack, Route.outBack, *]
  | passes =>
      rcases h with h | ⟨h, hflag⟩ <;>
        simp [inDue, jailDue, jailOwed, outOwed, remaining, Route.inFront, Route.jailFront,
          Route.jailBack, Route.outBack, *]
  | leaves =>
      rcases h with h | h <;>
        simp [inDue, jailDue, jailOwed, outOwed, remaining, Route.inFront, Route.jailFront,
          Route.jailBack, Route.outBack, *]

lemma On.of_start (h : e.smstate = .START) (r : Route) : e.On r := by
  cases r <;> exact .inl h

/-- Only one way is open to a frame in hand. -/
lemma On.unique {r r' : Route} (h : e.On r) (h' : e.On r') : e.smstate = .START ∨ r = r' := by
  by_cases hstate : e.smstate = .START
  · exact .inl hstate
  · right
    cases r <;> cases r' <;> simp_all [On]

lemma rtyCountDown_output (e : RtyEng) : (rtyCountDown e).output_fifo = e.output_fifo := by
  rw [rtyCountDown]
  split <;> rfl

/-- The count after one more word. -/
lemma remaining_countDown (hstate : e.smstate ≠ .START) (hpos : 0 < e.rdata.toNat) (x : Flit512) :
    (rtyCountDown e).remaining = next rtySize e.remaining x ∧
      ((rtyCountDown e).smstate ≠ .START → 0 < (rtyCountDown e).rdata.toNat) := by
  have hrem : e.remaining = e.rdata.toNat := if_neg hstate
  rw [hrem, next_pos (by omega)]
  by_cases h1 : e.rdata.toNat = 1
  · rw [rtyCountDown_last h1, h1]
    exact ⟨rfl, fun hx => absurd rfl hx⟩
  · have hpred := rdata_pred hpos
    rw [rtyCountDown_more h1]
    refine ⟨?_, fun _ => ?_⟩
    · rw [remaining, if_neg hstate]
      exact hpred
    · change 0 < (e.rdata - 1).toNat
      omega

/-- The way of the frame in hand does not change. -/
lemma On.countDown {r : Route} (h : e.On r) : (rtyCountDown e).On r := by
  rw [rtyCountDown]
  split
  · exact On.of_start rfl r
  · cases r <;> exact h

/-- A command is read from the input in state START. -/
lemma carried_receive {fl : Flit512} {rest : List Flit512}
    (hin : e.input_fifo = fl :: rest) (hstep : rtyReceive e fl rest = some e') :
    ∃ r, e'.On r ∧ Carried e e' fl r ∧ e'.remaining = rtySize fl ∧
      (e'.smstate ≠ .START → 0 < e'.rdata.toNat) := by
  have hpos := dataSize_pos (cmdDl fl)
  simp only [rtyReceive, getTLxCmdRespAnno_fromOCxFlit, getDl_fromOCxFlit,
    tlxCmdIsWrite_fromOCxFlit, OCxFlit.toOCxFlit_fromOCxFlit] at hstep
  by_cases hrty : cmdAnno fl = TLRESP_CODE_RTY
  · -- into the jail
    rw [if_pos hrty] at hstep
    by_cases hroom : e.rty_jail.length < rtyJailDepth
    · rw [if_pos hroom] at hstep
      obtain rfl := Option.some.inj hstep
      refine ⟨.jails, ?_, ⟨hin, rfl, rfl⟩, ?_⟩ <;>
        cases hw : cmdIsWrite fl <;> simp [On, remaining, rtySize, hw, hpos]
    · rw [if_neg hroom] at hstep
      cases hstep
  · -- straight to the output
    rw [if_neg hrty] at hstep
    obtain rfl := Option.some.inj hstep
    refine ⟨.passes, ?_, ⟨hin, rfl, rfl⟩, ?_⟩ <;>
      cases hw : cmdIsWrite fl <;> simp [On, remaining, rtySize, hw, hpos]

/-- A command is read from the jail in state START. -/
lemma carried_release {fl : Flit512} {jail : List Flit512} (hfl : e.rty_jail = fl :: jail) :
    (rtyRelease e fl jail).On .leaves ∧ Carried e (rtyRelease e fl jail) fl .leaves ∧
      (rtyRelease e fl jail).remaining = rtySize fl ∧
      ((rtyRelease e fl jail).smstate ≠ .START → 0 < (rtyRelease e fl jail).rdata.toNat) := by
  have hpos := dataSize_pos (cmdDl fl)
  refine ⟨?_, ⟨rfl, hfl, by simp [rtyRelease]⟩, ?_⟩ <;>
    cases hw : cmdIsWrite fl <;> simp [rtyRelease, On, remaining, rtySize, hw, hpos]

/-- **A call of the engine carries one word on its way.** -/
theorem carried (hcount : e.smstate ≠ .START → 0 < e.rdata.toNat) (hstep : rtyEngSM e = some e') :
    ∃ r x, e.On r ∧ e'.On r ∧ Carried e e' x r ∧ e'.remaining = next rtySize e.remaining x ∧
      (e'.smstate ≠ .START → 0 < e'.rdata.toNat) := by
  cases hstate : e.smstate with
  | START =>
      have hrem : ∀ x, next rtySize e.remaining x = rtySize x := fun x => by
        rw [remaining, if_pos hstate, next_zero]
      simp only [rtyEngSM, hstate] at hstep
      split at hstep
      · obtain ⟨r, hon, hcarried, hnext, hcount'⟩ := carried_receive ‹_› hstep
        exact ⟨r, _, On.of_start hstate r, hon, hcarried, hnext.trans (hrem _).symm, hcount'⟩
      · split at hstep
        · obtain rfl := Option.some.inj hstep
          obtain ⟨hon, hcarried, hnext, hcount'⟩ := carried_release (e := e) ‹_›
          exact ⟨.leaves, _, .inl hstate, hon, hcarried, hnext.trans (hrem _).symm, hcount'⟩
        · cases hstep
  | DATA =>
      have hne : e.smstate ≠ .START := by rw [hstate]; decide
      have hcount' := remaining_countDown hne (hcount hne)
      have hsame := rtyCountDown_streams e
      cases hin : e.input_fifo with
      | nil => simp [rtyEngSM, hstate, hin] at hstep
      | cons x rest =>
          simp only [rtyEngSM, hstate, hin] at hstep
          split_ifs at hstep with hflag
          · have hon : e.On .jails := .inr ⟨hstate, hflag⟩
            obtain rfl := Option.some.inj hstep
            exact ⟨.jails, x, hon, hon.countDown, ⟨hin, rfl, rtyCountDown_output e⟩, hcount' x⟩
          · have hon : e.On .passes := .inr ⟨hstate, eq_false_of_ne_true hflag⟩
            obtain rfl := Option.some.inj hstep
            exact ⟨.passes, x, hon, hon.countDown, ⟨hin, hsame.2, rfl⟩, hcount' x⟩
  | JAIL_DATA =>
      have hne : e.smstate ≠ .START := by rw [hstate]; decide
      cases hfl : e.rty_jail with
      | nil => simp [rtyEngSM, hstate, hfl] at hstep
      | cons x jail =>
          simp only [rtyEngSM, hstate, hfl] at hstep
          have hon : e.On .leaves := .inr hstate
          obtain rfl := Option.some.inj hstep
          exact ⟨.leaves, x, hon, hon.countDown, ⟨(rtyCountDown_streams e).1, hfl, rfl⟩,
            remaining_countDown hne (hcount hne) x⟩

end Carried

/-- `owed` data flits are still to be written to the input, and the reader of the output expects
`due` data flits. -/
structure Framed (e : RtyEng) (owed due : ℕ) : Prop where
  input : left rtySize e.inDue e.input_fifo = owed
  jail : left rtySize e.jailDue e.rty_jail = e.jailOwed
  output : left rtySize due e.output_fifo = e.outOwed
  count : e.smstate ≠ .START → 0 < e.rdata.toNat

/-- The commands in the streams. -/
def cmds (due : ℕ) : List Flit512 :=
  heads rtySize e.inDue e.input_fifo ++ heads rtySize e.jailDue e.rty_jail
    ++ heads rtySize due e.output_fifo

namespace Framed

variable {e e' : RtyEng} {owed due : ℕ}

lemma init : Framed {} 0 0 := ⟨rfl, rfl, rfl, fun h => absurd rfl h⟩

/-! ## The two ends -/

/-- A word is written to the input. -/
lemma push (h : Framed e owed due) (x : Flit512) :
    Framed { e with input_fifo := e.input_fifo ++ [x] } (next rtySize owed x) due where
  input := left_concat.trans (congrArg (next rtySize · x) h.input)
  jail := h.jail
  output := h.output
  count := h.count

lemma cmds_push (h : Framed e owed due) (x : Flit512) :
    ({ e with input_fifo := e.input_fifo ++ [x] }.cmds due).Perm
      (e.cmds due ++ if owed = 0 then [x] else []) := by
  have hheads : heads rtySize e.inDue (e.input_fifo ++ [x])
      = heads rtySize e.inDue e.input_fifo ++ if owed = 0 then [x] else [] := by
    rw [heads_concat, h.input]
  change (heads rtySize e.inDue (e.input_fifo ++ [x]) ++ heads rtySize e.jailDue e.rty_jail
    ++ heads rtySize due e.output_fifo).Perm _
  rw [hheads, cmds]
  refine List.perm_iff_count.mpr fun c => ?_
  simp only [List.count_append]
  omega

/-- A word is read from the output. -/
lemma pop (h : Framed e owed due) {x : Flit512} {rest : List Flit512}
    (hout : e.output_fifo = x :: rest) :
    Framed { e with output_fifo := rest } owed (next rtySize due x) where
  input := h.input
  jail := h.jail
  output := by
    have houtput := h.output
    rw [hout, left_cons] at houtput
    exact houtput
  count := h.count

lemma cmds_pop {x : Flit512} {rest : List Flit512} (hout : e.output_fifo = x :: rest) :
    (e.cmds due).Perm ((if due = 0 then [x] else [])
      ++ { e with output_fifo := rest }.cmds (next rtySize due x)) := by
  have hrest : { e with output_fifo := rest }.cmds (next rtySize due x)
      = heads rtySize e.inDue e.input_fifo ++ heads rtySize e.jailDue e.rty_jail
        ++ heads rtySize (next rtySize due x) rest := rfl
  rw [hrest, cmds, hout, heads_cons]
  refine List.perm_iff_count.mpr fun c => ?_
  simp only [List.count_append]
  omega

/-! ## A call of the engine -/

/-- What a call leaves: the frames, and the commands. -/
def Kept (e e' : RtyEng) (owed due : ℕ) : Prop :=
  Framed e' owed due ∧ (e'.cmds due).Perm (e.cmds due)

/-- **A call of the engine keeps the frames and the commands.** -/
theorem step (h : Framed e owed due) (hstep : rtyEngSM e = some e') : Kept e e' owed due := by
  obtain ⟨r, x, hon, hon', hcarried, hnext, hcount⟩ := carried h.count hstep
  obtain ⟨h1, h2, h3, h4⟩ := hon.dues
  obtain ⟨h1', h2', h3', h4'⟩ := hon'.dues
  obtain ⟨hinput, hjail, houtput, -⟩ := h
  cases r with
  | jails =>
      obtain ⟨hin, hfl, hout⟩ := hcarried
      simp only [Route.inFront, Route.jailFront, Route.jailBack, Route.outBack, hnext]
        at h1 h2 h3 h4 h1' h2' h3' h4'
      rw [hin, h1, left_cons] at hinput
      rw [h2, h3] at hjail
      refine ⟨⟨by rw [h1', hinput], by rw [h2', h3', hfl, left_concat, hjail],
        by rw [h4', hout, houtput, h4], hcount⟩, ?_⟩
      rw [cmds, cmds, h1', h2', h1, h2, hin, hfl, hout, heads_cons, heads_concat, hjail]
      refine List.perm_iff_count.mpr fun c => ?_
      simp only [List.count_append]
      omega
  | passes =>
      obtain ⟨hin, hfl, hout⟩ := hcarried
      simp only [Route.inFront, Route.jailFront, Route.jailBack, Route.outBack, hnext]
        at h1 h2 h3 h4 h1' h2' h3' h4'
      rw [hin, h1, left_cons] at hinput
      rw [h2, h3] at hjail
      rw [h4] at houtput
      refine ⟨⟨by rw [h1', hinput], by rw [h2', h3', hfl, hjail],
        by rw [h4', hout, left_concat, houtput], hcount⟩, ?_⟩
      rw [cmds, cmds, h1', h2', h1, h2, hin, hfl, hout, heads_cons, heads_concat, houtput]
      refine List.perm_iff_count.mpr fun c => ?_
      simp only [List.count_append]
      omega
  | leaves =>
      obtain ⟨hin, hfl, hout⟩ := hcarried
      simp only [Route.inFront, Route.jailFront, Route.jailBack, Route.outBack, hnext]
        at h1 h2 h3 h4 h1' h2' h3' h4'
      rw [hfl, h2, left_cons] at hjail
      rw [h4] at houtput
      refine ⟨⟨by rw [h1', hin, ← h1, hinput], by rw [h2', h3', hjail, h3],
        by rw [h4', hout, left_concat, houtput], hcount⟩, ?_⟩
      rw [cmds, cmds, h1', h2', h1, h2, hin, hfl, hout, heads_cons, heads_concat, houtput]
      refine List.perm_iff_count.mpr fun c => ?_
      simp only [List.count_append]
      omega

end Framed

end RtyEng

end ThymesisFlow
