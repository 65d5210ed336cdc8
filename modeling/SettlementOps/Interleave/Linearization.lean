import Mathlib.Data.List.Nodup
import SettlementOps.Interleave.Outline

/-!
# Linearizability

A run of a pool is linearizable when the outcomes of its calls are those of the calls made
one at a time, in an order that respects which call returned before which was made.  The
order is read off the log: `commit` says which action of a call is the one it takes effect
at, and with what outcome.

* `SequentialRun` — calls served one at a time by `serve`.
* `Linear` — the log is a sequential run that serves every call at most once, with the
  step rules `Linear.skip` and `Linear.at_commit`.
* `Linearizable`, `linearizable_of_outline` — the property, and how an outline proves it.
-/

namespace Interleave

variable {σ τ Ω A L α : Type} {R : A → Type}

/-- One call of a sequential run. -/
structure Served (L Ω α : Type) where
  pid : Nat
  label : L
  oracle : Ω
  outcome : α

/-- The calls made one at a time, each served on what the ones before it left. -/
inductive SequentialRun (serve : L → Ω → τ → α × τ) (t₀ : τ) :
    List (Served L Ω α) → τ → Prop
  | nil : SequentialRun serve t₀ [] t₀
  | snoc {history : List (Served L Ω α)} {t : τ} (i : Nat) (ℓ : L) (ω : Ω) :
      SequentialRun serve t₀ history t →
        SequentialRun serve t₀ (history ++ [⟨i, ℓ, ω, (serve ℓ ω t).1⟩]) (serve ℓ ω t).2

/-- The call an action takes effect for. -/
def served (commit : Entry Ω A R L → Option α) (e : Entry Ω A R L) : Option (Served L Ω α) :=
  (commit e).map fun x => ⟨e.pid, e.label, e.oracle, x⟩

/-- The calls of a log in the order they took effect. -/
def history (commit : Entry Ω A R L → Option α) (log : List (Entry Ω A R L)) :
    List (Served L Ω α) :=
  log.filterMap (served commit)

section

variable {commit : Entry Ω A R L → Option α} {serve : L → Ω → τ → α × τ} {view : σ → τ}

@[simp] theorem history_nil : history commit [] = [] := rfl

@[simp] theorem history_append (log log' : List (Entry Ω A R L)) :
    history commit (log ++ log') = history commit log ++ history commit log' := by
  simp [history]

theorem mem_history {log : List (Entry Ω A R L)} {r : Served L Ω α} :
    r ∈ history commit log ↔ ∃ e ∈ log, e.pid = r.pid ∧ e.label = r.label ∧
      e.oracle = r.oracle ∧ commit e = some r.outcome := by
  simp only [history, served, List.mem_filterMap, Option.map_eq_some_iff]
  constructor
  · rintro ⟨e, he, x, hx, rfl⟩
    exact ⟨e, he, rfl, rfl, rfl, hx⟩
  · rintro ⟨e, he, hp, hl, ho, hx⟩
    exact ⟨e, he, r.outcome, hx, by rw [hp, hl, ho]⟩

/-- What a call took effect with is in its own part of the log. -/
theorem mem_history_own {i : Nat} {log : List (Entry Ω A R L)} {r : Served L Ω α} :
    r ∈ history commit (own i log) ↔ r ∈ history commit log ∧ r.pid = i := by
  simp only [mem_history, own, List.mem_filter, beq_iff_eq]
  constructor
  · rintro ⟨e, ⟨he, rfl⟩, hp, hrest⟩
    exact ⟨⟨e, he, hp, hrest⟩, hp.symm⟩
  · rintro ⟨⟨e, he, hp, hrest⟩, rfl⟩
    exact ⟨e, ⟨he, hp⟩, hp, hrest⟩

/-- The log is a sequential run from `t₀` to the current view, and serves no call twice. -/
structure Linear (commit : Entry Ω A R L → Option α) (serve : L → Ω → τ → α × τ)
    (view : σ → τ) (t₀ : τ) (s : σ) (log : List (Entry Ω A R L)) : Prop where
  run : SequentialRun serve t₀ (history commit log) (view s)
  once : ((history commit log).map (·.pid)).Nodup

variable {t₀ : τ} {s s' : σ} {log : List (Entry Ω A R L)}

theorem linear_nil (s : σ) : Linear commit serve view (view s) s [] :=
  ⟨.nil, List.nodup_nil⟩

/-- An action nothing takes effect at leaves the view. -/
theorem Linear.skip (h : Linear commit serve view t₀ s log) {e : Entry Ω A R L}
    (hcommit : commit e = none) (hview : view s' = view s) :
    Linear commit serve view t₀ s' (log ++ [e]) := by
  have hhistory : history commit (log ++ [e]) = history commit log := by
    simp [history, served, hcommit]
  refine ⟨?_, ?_⟩
  · rw [hhistory, hview]
    exact h.run
  · rw [hhistory]
    exact h.once

/-- An action its call takes effect at serves the call on the current view. -/
theorem Linear.at_commit (h : Linear commit serve view t₀ s log) {e : Entry Ω A R L} {x : α}
    (hcommit : commit e = some x) (hserve : serve e.label e.oracle (view s) = (x, view s'))
    (hfresh : history commit (own e.pid log) = []) :
    Linear commit serve view t₀ s' (log ++ [e]) := by
  have hhistory : history commit (log ++ [e]) =
      history commit log ++ [⟨e.pid, e.label, e.oracle, x⟩] := by
    simp [history, served, hcommit]
  refine ⟨?_, ?_⟩
  · rw [hhistory]
    have hrun := h.run.snoc e.pid e.label e.oracle
    rw [hserve] at hrun
    exact hrun
  · rw [hhistory, List.map_append]
    refine List.nodup_append.2 ⟨h.once, by simp, ?_⟩
    intro p hp q hq hpq
    obtain ⟨r, hr, rfl⟩ := List.mem_map.1 hp
    simp only [List.map_cons, List.map_nil, List.mem_singleton] at hq
    have hmem : r ∈ history commit (own e.pid log) :=
      mem_history_own.2 ⟨hr, hpq.trans hq⟩
    rw [hfresh] at hmem
    cases hmem

end

/-- Every outcome is that of a sequential run: each call that has returned was served
once, with what it returned, and calls that follow one another are served in that order. -/
structure Linearizable (S : System σ Ω A R L α) (commit : Entry Ω A R L → Option α)
    (serve : L → Ω → τ → α × τ) (view : σ → τ) (s₀ : σ) (c : Config σ Ω A R L α) : Prop where
  run : SequentialRun serve (view s₀) (history commit c.log) (view c.state)
  once : ((history commit c.log).map (·.pid)).Nodup
  outcomes : ∀ i ℓ x, c.returned i = some (ℓ, x) →
    ∃ ω, (⟨i, ℓ, ω, x⟩ : Served L Ω α) ∈ history commit c.log
  order : ∀ c₁, S.Reachable (fun _ _ => True) (Config.init s₀) c₁ →
    S.Reachable (fun _ _ => True) c₁ c →
    ∀ i ℓ x, c₁.returned i = some (ℓ, x) → ∀ j, c₁.threads.length ≤ j →
      ∃ earlier later, history commit c.log = earlier ++ later ∧
        (∃ ω, (⟨i, ℓ, ω, x⟩ : Served L Ω α) ∈ earlier) ∧ ∀ r ∈ earlier, r.pid ≠ j

section

variable {S : System σ Ω A R L α} {commit : Entry Ω A R L → Option α}
  {serve : L → Ω → τ → α × τ} {view : σ → τ} {s₀ : σ}

/-- A call is served with nothing but what it returns. -/
theorem Linearizable.outcome_eq {c : Config σ Ω A R L α}
    (h : Linearizable S commit serve view s₀ c) {r : Served L Ω α}
    (hr : r ∈ history commit c.log) {ℓ : L} {x : α}
    (hret : c.returned r.pid = some (ℓ, x)) : r.outcome = x := by
  obtain ⟨ω, hmem⟩ := h.outcomes r.pid ℓ x hret
  have heq := List.inj_on_of_nodup_map h.once hr hmem rfl
  rw [heq]

/-- Without rules every move is allowed. -/
theorem reachable_unruled {c c' : Config σ Ω A R L α} (h : S.Reachable (fun _ _ => True) c c') :
    S.Reachable (Rules.Allows {}) c c' := by
  refine h.mono fun c m _ => ?_
  cases m with
  | call ℓ => trivial
  | run i ω => exact fun _ _ => trivial
  | fail i => trivial

/-- **An outline that keeps the log linear, and in which a call returns what it was served,
makes every run linearizable.** -/
theorem linearizable_of_outline (O : Outline S ({} : Rules σ Ω A R L) s₀)
    (hinv : ∀ s log, O.inv s log → Linear commit serve view (view s₀) s log)
    (hpost : ∀ i ℓ x s log, O.post i ℓ x s log →
      ∃ ω, (⟨i, ℓ, ω, x⟩ : Served L Ω α) ∈ history commit (own i log))
    {c : Config σ Ω A R L α} (h : S.Reachable (fun _ _ => True) (Config.init s₀) c) :
    Linearizable S commit serve view s₀ c := by
  have houtcomes : ∀ c₁, S.Reachable (fun _ _ => True) (Config.init s₀) c₁ →
      ∀ i ℓ x, c₁.returned i = some (ℓ, x) →
        ∃ ω, (⟨i, ℓ, ω, x⟩ : Served L Ω α) ∈ history commit c₁.log := by
    intro c₁ h₁ i ℓ x hret
    obtain ⟨s, log₀, hp, hothers⟩ := O.returned (reachable_unruled h₁) hret
    obtain ⟨ω, hmem⟩ := hpost i ℓ x s log₀ hp
    rw [← hothers.own_eq] at hmem
    exact ⟨ω, (mem_history_own.1 hmem).1⟩
  have hlinear := hinv _ _ (O.inv_of_reachable (reachable_unruled h))
  refine ⟨hlinear.run, hlinear.once, houtcomes c h, ?_⟩
  intro c₁ h₁ hfrom i ℓ x hret j hj
  obtain ⟨later, hlater⟩ := hfrom.log_prefix
  refine ⟨history commit c₁.log, history commit later, ?_, houtcomes c₁ h₁ i ℓ x hret, ?_⟩
  · rw [← history_append, hlater]
  · intro r hr
    obtain ⟨e, he, hp, -⟩ := mem_history.1 hr
    have hlt := (O.good_of_reachable (reachable_unruled h₁)).pids e he
    omega

end

end Interleave
