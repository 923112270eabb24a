import ThymesisFlow.Lib.Script
import ThymesisFlow.Memory.RtyFrames

/-!
# The contents of the retry streams

The retry engine passes on what it is given: if each command that is written to its input is good, and has
the data that it prescribes behind it, then so have the commands that are read from its output, whatever
the engine has put into the jail in between.
-/

namespace ThymesisFlow

open Script

namespace RtyEng

variable {good good' : Flit512 → Prop} {body body' : Flit512 → List (Option Flit512)} {e e' : RtyEng}
  {owed due : List (Option Flit512)}

/-- The frame in hand goes the way `r`, and `cur` is what is to come of it; `owed` is still to be written
to the input, and `due` is what the reader of the output expects. -/
structure Carrying (good : Flit512 → Prop) (body : Flit512 → List (Option Flit512)) (e : RtyEng)
    (r : Route) (cur owed due : List (Option Flit512)) : Prop where
  on : e.On r
  length : cur.length = e.remaining
  input : Spans good body (r.inFront cur []) e.input_fifo owed
  jail : Spans good body (r.jailFront cur []) e.rty_jail (r.jailBack cur [])
  output : Spans good body due e.output_fifo (r.outBack cur [])

/-- The streams carry good commands, each with the data that it prescribes. -/
def Scripted (good : Flit512 → Prop) (body : Flit512 → List (Option Flit512)) (e : RtyEng)
    (owed due : List (Option Flit512)) : Prop :=
  ∃ r cur, Carrying good body e r cur owed due

namespace Scripted

lemma init : Scripted good body {} [] [] := ⟨.passes, [], .inl rfl, rfl, rfl, rfl, rfl⟩

/-- A word is written to the input. -/
lemma push (h : Scripted good body e owed due) {x : Flit512} (hx : Fits good owed x) :
    Scripted good body { e with input_fifo := e.input_fifo ++ [x] } (Script.next body owed x) due := by
  obtain ⟨r, cur, hon, hlen, hinput, hjail, houtput⟩ := h
  refine ⟨r, cur, ?_, hlen, hinput.push hx, hjail, houtput⟩
  cases r <;> exact hon

/-- A word is read from the output. -/
lemma pop (h : Scripted good body e owed due) {x : Flit512} {rest : List Flit512}
    (hout : e.output_fifo = x :: rest) :
    Fits good due x ∧
      Scripted good body { e with output_fifo := rest } owed (Script.next body due x) := by
  obtain ⟨r, cur, hon, hlen, hinput, hjail, houtput⟩ := h
  rw [hout] at houtput
  refine ⟨houtput.1, r, cur, ?_, hlen, hinput, hjail, houtput.2⟩
  cases r <;> exact hon

/-- Between two frames any way is open. -/
lemma turn {r r' : Route} {cur : List (Option Flit512)} (h : Carrying good body e r cur owed due)
    (hon : e.On r') : Carrying good body e r' cur owed due := by
  rcases h.on.unique hon with hstate | rfl
  · have hnil : cur = [] := List.length_eq_zero_iff.mp (h.length.trans (if_pos hstate))
    subst hnil
    have hinput := h.input
    have hjail := h.jail
    have houtput := h.output
    refine ⟨hon, h.length, ?_, ?_, ?_⟩ <;> cases r <;> cases r' <;> assumption
  · exact h

/-- **A call of the engine.** -/
theorem step (hsize : ∀ x, (body x).length = rtySize x) (h : Scripted good body e owed due)
    (hcount : e.smstate ≠ .START → 0 < e.rdata.toNat) (hstep : rtyEngSM e = some e') :
    Scripted good body e' owed due := by
  obtain ⟨r, x, hon, hon', hcarried, hnext, -⟩ := carried hcount hstep
  obtain ⟨r₀, cur, h⟩ := h
  obtain ⟨-, hlen, hinput, hjail, houtput⟩ := turn h hon
  have hlen' : (Script.next body cur x).length = e'.remaining := by
    rw [Script.length_next hsize, hlen, hnext]
  cases r with
  | jails =>
      obtain ⟨hin, hfl, hout⟩ := hcarried
      rw [hin] at hinput
      have hback := hjail.push hinput.1
      rw [← hfl] at hback
      rw [← hout] at houtput
      exact ⟨.jails, _, hon', hlen', hinput.2, hback, houtput⟩
  | passes =>
      obtain ⟨hin, hfl, hout⟩ := hcarried
      rw [hin] at hinput
      have hback := houtput.push hinput.1
      rw [← hout] at hback
      rw [← hfl] at hjail
      exact ⟨.passes, _, hon', hlen', hinput.2, hjail, hback⟩
  | leaves =>
      obtain ⟨hin, hfl, hout⟩ := hcarried
      rw [hfl] at hjail
      have hback := houtput.push hjail.1
      rw [← hout] at hback
      rw [← hin] at hinput
      exact ⟨.leaves, _, hon', hlen', hinput, hjail.2, hback⟩

/-- The headers that the streams hold are good. -/
lemma good_of_mem (hsize : ∀ x, (body x).length = rtySize x) (h : Scripted good body e owed due) :
    ∀ f ∈ e.cmds due.length, good f := by
  obtain ⟨r, cur, hon, hlen, hinput, hjail, houtput⟩ := h
  obtain ⟨hin, hfl, -, -⟩ := hon.dues
  have hin' : e.inDue = (r.inFront cur []).length := by cases r <;> simp_all [Route.inFront]
  have hfl' : e.jailDue = (r.jailFront cur []).length := by cases r <;> simp_all [Route.jailFront]
  intro f hf
  rw [cmds, hin', hfl'] at hf
  rcases List.mem_append.mp hf with hf | hf
  · rcases List.mem_append.mp hf with hf | hf
    · exact hinput.good_of_mem hsize f hf
    · exact hjail.good_of_mem hsize f hf
  · exact houtput.good_of_mem hsize f hf

/-- What the headers in the streams prescribe is all that matters. -/
lemma congr (hsize : ∀ x, (body x).length = rtySize x) (h : Scripted good body e owed due)
    (hsame : ∀ f ∈ e.cmds due.length, good f → good' f ∧ body' f = body f) :
    Scripted good' body' e owed due := by
  obtain ⟨r, cur, hon, hlen, hinput, hjail, houtput⟩ := h
  obtain ⟨hin, hfl, -, -⟩ := hon.dues
  have hin' : e.inDue = (r.inFront cur []).length := by cases r <;> simp_all [Route.inFront]
  have hfl' : e.jailDue = (r.jailFront cur []).length := by cases r <;> simp_all [Route.jailFront]
  rw [cmds, hin', hfl'] at hsame
  refine ⟨r, cur, hon, hlen, hinput.congr hsize fun f hf => hsame f ?_,
    hjail.congr hsize fun f hf => hsame f ?_, houtput.congr hsize fun f hf => hsame f ?_⟩
  · exact List.mem_append_left _ (List.mem_append_left _ hf)
  · exact List.mem_append_left _ (List.mem_append_right _ hf)
  · exact List.mem_append_right _ hf

end Scripted

end RtyEng

end ThymesisFlow
