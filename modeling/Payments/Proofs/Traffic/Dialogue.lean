import Payments.Proofs.Service.Dialogue
import Payments.Proofs.Traffic

/-!
# Payments.Proofs.Traffic.Dialogue -- the dialogue of each call, in the log of all

What a call has asked and what it was answered stands in the log, among the exchanges of all other
calls. The call knows no more than that: what it still has to do is what its procedure comes to when
it is answered so (`Traffic.recorded_after`). So whatever the dialogues of a procedure have in
common, every call in flight has, whoever answered it and whatever else went on.
-/

namespace Payments

namespace Exchange

/-- The request with its answer, whoever put it. -/
def reply (x : Exchange) : Reply :=
  ⟨x.request, x.answer⟩

/-- What a call has asked in a log, with the answers. -/
def dialogue (n : Nat) (log : List Exchange) : List Reply :=
  (log.filter fun x => x.caller == n).map reply

variable {n : Nat} {log : List Exchange}

theorem not_mem_of_dialogue_eq_nil (h : dialogue n log = []) : ∀ x ∈ log, x.caller ≠ n := by
  simpa [dialogue] using h

/-- Where a reply stands in the dialogue, its exchange stands in the log. -/
theorem split_of_dialogue (before after : List Reply) {d : Reply}
    (h : dialogue n log = before ++ d :: after) :
    ∃ earlier x later, log = earlier ++ x :: later ∧ x.caller = n ∧ x.reply = d ∧
      dialogue n earlier = before ∧ dialogue n later = after := by
  obtain ⟨l₁, l₂, hl, hbefore, h₂⟩ := List.map_eq_append_iff.1 h
  obtain ⟨x, l₃, rfl, hx, hafter⟩ := List.map_eq_cons_iff.1 h₂
  obtain ⟨earlier, rest, rfl, rfl, hrest⟩ := List.filter_eq_append_iff.1 hl
  obtain ⟨skipped, later, rfl, hskipped, hcaller, rfl⟩ := List.filter_eq_cons_iff.1 hrest
  refine ⟨earlier ++ skipped, x, later, by rw [List.append_assoc], beq_iff_eq.1 hcaller, hx, ?_,
    hafter⟩
  rw [dialogue, List.filter_append, List.filter_eq_nil_iff.2 hskipped, List.append_nil]
  exact hbefore

end Exchange

namespace Traffic

variable {t : Traffic} {n : Nat} {c : Call}

/-- What a call has asked so far, with the answers. -/
def dialogue (t : Traffic) (n : Nat) : List Reply :=
  Exchange.dialogue n t.log

theorem mem_dialogue {d : Reply} : d ∈ t.dialogue n ↔ ∃ x ∈ t.log, x.caller = n ∧ x.reply = d := by
  simp [dialogue, Exchange.dialogue, and_assoc]

/-- The log holds the dialogue of every call, and no dialogue but of calls that came in. -/
structure Recorded (t : Traffic) : Prop where
  reaches : ∀ (n : Nat) (c : Call) (rest : Procedure (Outcome c.Result)),
    t.activities[n]? = some ⟨c, rest⟩ → c.attempt.run.Reaches (t.dialogue n) rest
  callers : ∀ x ∈ t.log, ∃ rest, t.activities[x.caller]? = some ⟨x.call, rest⟩

theorem recorded_start : start.Recorded where
  reaches := fun _ _ _ h => (nomatch h)
  callers := fun _ h => (nomatch h)

/-- A call that has not come in has no dialogue. -/
theorem Recorded.dialogue_of_length_le (h : t.Recorded) (hn : t.activities.length ≤ n) :
    t.dialogue n = [] := by
  apply List.eq_nil_iff_forall_not_mem.2
  intro d hd
  obtain ⟨x, hx, rfl, -⟩ := mem_dialogue.1 hd
  obtain ⟨rest, hrest⟩ := h.callers x hx
  exact Nat.not_lt.2 hn (List.getElem?_eq_some_iff.1 hrest).1

theorem Recorded.call (h : t.Recorded) (c : Call) : (t.step (.call c)).Recorded where
  reaches := by
    intro n c' rest hn
    show c'.attempt.run.Reaches (t.dialogue n) rest
    rcases Nat.lt_trichotomy n t.activities.length with hlt | rfl | hgt
    · exact h.reaches n c' rest ((List.getElem?_append_left hlt).symm.trans hn)
    · cases List.getElem?_concat_length.symm.trans hn
      rw [h.dialogue_of_length_le (Nat.le_refl _)]
      exact .here _
    · have hnone : (t.step (.call c)).activities[n]? = none :=
        List.getElem?_eq_none (by rw [step, List.length_append]; exact hgt)
      cases hnone.symm.trans hn
  callers := by
    intro x hx
    obtain ⟨rest, hrest⟩ := h.callers x hx
    have hlt := (List.getElem?_eq_some_iff.1 hrest).1
    exact ⟨rest, (List.getElem?_append_left hlt).trans hrest⟩

variable {r : Request} {next : r.Answer → Procedure (Outcome c.Result)}

/-- An answer takes the call that waits for it further, and no other. -/
theorem activities_answer (h : t.activities[n]? = some ⟨c, .ask r next⟩) (cue : Cue) (m : Nat) :
    (t.step (.answer n cue)).activities[m]? =
      if n = m then some ⟨c, next (cue.answer t.store r).1⟩ else t.activities[m]? := by
  rw [step_answer h cue]
  by_cases hm : n = m
  · subst hm
    rw [if_pos rfl]
    exact List.getElem?_set_self (List.getElem?_eq_some_iff.1 h).1
  · rw [if_neg hm]
    exact List.getElem?_set_ne hm

/-- An answer is added to the dialogue of the call, and to no other. -/
theorem dialogue_answer (h : t.activities[n]? = some ⟨c, .ask r next⟩) (cue : Cue) (m : Nat) :
    (t.step (.answer n cue)).dialogue m =
      t.dialogue m ++ if n = m then [⟨r, (cue.answer t.store r).1⟩] else [] := by
  rw [step_answer h cue, dialogue, Exchange.dialogue, List.filter_append, List.map_append]
  congr 1
  by_cases hm : n = m
  · simp [hm, Exchange.reply]
  · simp [hm]

theorem Recorded.answer (h : t.Recorded) (hn : t.activities[n]? = some ⟨c, .ask r next⟩)
    (cue : Cue) : (t.step (.answer n cue)).Recorded where
  reaches := by
    intro m c' rest hm
    rw [dialogue_answer hn cue]
    rw [activities_answer hn cue] at hm
    split at hm
    · next hnm =>
      subst hnm
      cases hm
      rw [if_pos rfl]
      exact (h.reaches n c _ hn).snoc _
    · next hnm =>
      rw [if_neg hnm, List.append_nil]
      exact h.reaches m c' rest hm
  callers := by
    -- the call that is answered goes on, and is the same call still
    have hgoes (m : Nat) (c' : Call) (h' : ∃ rest, t.activities[m]? = some ⟨c', rest⟩) :
        ∃ rest, (t.step (.answer n cue)).activities[m]? = some ⟨c', rest⟩ := by
      obtain ⟨rest, hrest⟩ := h'
      rw [activities_answer hn cue]
      split
      · next hnm =>
        subst hnm
        cases hn.symm.trans hrest
        exact ⟨_, rfl⟩
      · exact ⟨rest, hrest⟩
    intro x hx
    rw [step_answer hn cue] at hx
    rcases List.mem_append.1 hx with hx | hx
    · exact hgoes _ _ (h.callers x hx)
    · cases List.mem_singleton.1 hx
      exact hgoes n c ⟨_, hn⟩

/-- A move is a call that comes in, or an answer that some call waits for, or nothing. -/
theorem step_cases (t : Traffic) (m : Move) :
    (∃ c, m = .call c) ∨
      (∃ n c r, ∃ next : r.Answer → Procedure (Outcome c.Result), ∃ cue,
        m = .answer n cue ∧ t.activities[n]? = some ⟨c, .ask r next⟩) ∨
      t.step m = t := by
  cases m with
  | call c => exact Or.inl ⟨c, rfl⟩
  | answer n cue =>
    cases hn : t.activities[n]? with
    | none => exact Or.inr (Or.inr (by rw [step, hn]))
    | some a =>
      obtain ⟨c, rest⟩ := a
      cases rest with
      | done o => exact Or.inr (Or.inr (by rw [step, hn]))
      | ask r next => exact Or.inr (Or.inl ⟨n, c, r, next, cue, rfl, hn⟩)

/-- What each of the moves keeps, all of them keep. -/
theorem steps_induction {P : Traffic → Prop} {moves : List Move} (h : P t)
    (step : ∀ s, ∀ m ∈ moves, P s → P (s.step m)) : P (moves.foldl Traffic.step t) := by
  induction moves generalizing t with
  | nil => exact h
  | cons m ms ih =>
    exact ih (step t m List.mem_cons_self h) fun s m hm => step s m (List.mem_cons_of_mem _ hm)

theorem Recorded.step (h : t.Recorded) (m : Move) : (t.step m).Recorded := by
  rcases t.step_cases m with ⟨c, rfl⟩ | ⟨n, c, r, next, cue, rfl, hn⟩ | hstay
  · exact h.call c
  · exact h.answer hn cue
  · rw [hstay]
    exact h

theorem recorded_after (moves : List Move) : (after moves).Recorded :=
  steps_induction recorded_start fun _ m _ h => h.step m

end Traffic

end Payments
