import Mathlib
import RecordQuery.Paging.Run

/-!
# Runs step by step

A run on a script is the same step taken over and over: the next request is sent and its answer
received. One step more than there are answers ends every run.
-/
namespace RecordQuery.Paging

/-- A run between two requests. -/
structure Moment where
  progress : Progress
  cancelled : Bool
  /-- The answers that are still to come. -/
  script : Script

namespace Moment

def first (plan : Plan) (cancelled : Bool) (script : Script) : Moment :=
  ⟨start plan cancelled, cancelled, script⟩

/-- Sends the next request, if there is one, and receives the answer. -/
def next (plan : Plan) (m : Moment) : Moment :=
  match m.progress with
  | .finished _ => m
  | .asking request c =>
    let (d, script) := Script.send request m.script
    let cancelled := m.cancelled || d.cancels
    ⟨receive plan cancelled c d.reply, cancelled, script⟩

variable {plan : Plan} {m : Moment}

theorem next_of_finished {result : Except Failure Collected} (h : m.progress = .finished result) :
    next plan m = m := by
  simp [next, h]

theorem iterate_of_finished {result : Except Failure Collected}
    (h : m.progress = .finished result) (n : Nat) : (next plan)^[n] m = m :=
  Function.iterate_fixed (next_of_finished h) n

/-- A finished run stays as it is. -/
theorem finished_unique {i j : Nat} {x y : Except Failure Collected}
    (hx : ((next plan)^[i] m).progress = .finished x)
    (hy : ((next plan)^[j] m).progress = .finished y) : x = y := by
  wlog hij : i ≤ j generalizing i j x y
  · exact (this hy hx (Nat.le_of_not_le hij)).symm
  · obtain ⟨n, rfl⟩ := Nat.exists_eq_add_of_le' hij
    rw [Function.iterate_add_apply, iterate_of_finished hx, hx] at hy
    exact Progress.finished.inj hy

/-- The answers are used up one by one, and without an answer a run ends. -/
theorem exists_finished (plan : Plan) (m : Moment) :
    ∃ result, ((next plan)^[m.script.length + 1] m).progress = .finished result := by
  generalize hs : m.script = script
  induction script generalizing m with
  | nil =>
    cases hp : m.progress with
    | finished result => exact ⟨result, by rwa [iterate_of_finished hp]⟩
    | asking request c =>
      exact ⟨.error Script.exhausted,
        by simp [next, hp, hs, Script.send, receive, bind, Except.bind]⟩
  | cons d rest ih =>
    cases hp : m.progress with
    | finished result => exact ⟨result, by rwa [iterate_of_finished hp]⟩
    | asking request c =>
      rw [Function.iterate_succ_apply]
      exact ih (next plan m) (by simp [next, hp, hs])

end Moment

open Moment

theorem advance_finished (plan : Plan) (n : Nat) (cancelled : Bool) (script : Script)
    (result : Except Failure Collected) :
    advance Script.channel plan n cancelled script (.finished result) =
      ⟨⟨result, cancelled⟩, [], script⟩ := by
  cases n <;> rfl

theorem advance_asking {plan : Plan} {m : Moment} {request : Request} {c : Collected}
    (h : m.progress = .asking request c) (n : Nat) :
    advance Script.channel plan (n + 1) m.cancelled m.script m.progress =
      let rest := advance Script.channel plan n (next plan m).cancelled (next plan m).script
        (next plan m).progress
      { rest with requests := request :: rest.requests } := by
  simp only [next, h, advance]
  rfl

/-- A trace that ends with the moment `n` steps behind `m`, and whose requests are those that the
moments on the way ask. -/
structure Follows (plan : Plan) (m : Moment) (n : Nat) (t : Trace Script Outcome) : Prop where
  result : ((next plan)^[n] m).progress = .finished t.result.result
  cancelled : ((next plan)^[n] m).cancelled = t.result.cancelled
  state : ((next plan)^[n] m).script = t.state
  requests (i : Nat) (r : Request) :
    t.requests[i]? = some r ↔ ∃ c, ((next plan)^[i] m).progress = .asking r c

theorem follows_of_finished {plan : Plan} {m : Moment} {result : Except Failure Collected}
    (h : m.progress = .finished result) (n : Nat) :
    Follows plan m n ⟨⟨result, m.cancelled⟩, [], m.script⟩ := by
  refine ⟨?_, ?_, ?_, fun i r => ?_⟩
  · rw [iterate_of_finished h, h]
  · rw [iterate_of_finished h]
  · rw [iterate_of_finished h]
  · simp [iterate_of_finished h, h]

/-- A run that ends within its bound goes through its moments. -/
theorem follows_advance {plan : Plan} {n : Nat} {m : Moment} {result : Except Failure Collected}
    (h : ((next plan)^[n] m).progress = .finished result) :
    Follows plan m n (advance Script.channel plan n m.cancelled m.script m.progress) := by
  induction n generalizing m with
  | zero =>
    have hp : m.progress = .finished result := h
    rw [hp, advance_finished]
    exact follows_of_finished hp 0
  | succ n ih =>
    cases hp : m.progress with
    | finished x =>
      rw [advance_finished]
      exact follows_of_finished hp (n + 1)
    | asking request c =>
      rw [Function.iterate_succ_apply] at h
      have hrest := ih h
      rw [← hp, advance_asking hp]
      refine ⟨?_, ?_, ?_, fun i r => ?_⟩
      · exact hrest.result
      · exact hrest.cancelled
      · exact hrest.state
      · cases i with
        | zero => simp [hp]
        | succ i => simpa using hrest.requests i r

theorem follows_run (plan : Plan) (cancelled : Bool) (script : Script) :
    Follows plan (first plan cancelled script) (script.length + 1)
      (run Script.channel plan cancelled script) :=
  have ⟨_, h⟩ := exists_finished plan (first plan cancelled script)
  follows_advance h

theorem send_snd (r : Request) (script : Script) : (Script.send r script).2 = script.drop 1 := by
  cases script <;> rfl

/-- Every request takes one answer, and answers that nothing was sent for are left. -/
theorem advance_state (plan : Plan) (n : Nat) (cancelled : Bool) (script : Script)
    (p : Progress) :
    let t := advance Script.channel plan n cancelled script p
    t.state = script.drop t.requests.length := by
  induction n generalizing cancelled script p with
  | zero => cases p <;> rfl
  | succ n ih =>
    cases p with
    | finished result => rfl
    | asking request c =>
      have := ih (cancelled || (Script.send request script).1.cancels)
        (Script.send request script).2
        (receive plan (cancelled || (Script.send request script).1.cancels) c
          (Script.send request script).1.reply)
      simp only [send_snd, List.drop_drop] at this
      simpa [advance, Script.channel, send_snd, Nat.add_comm] using this

end RecordQuery.Paging
