import Mathlib.Data.List.Perm.Basic
import Mathlib.Data.List.Perm.Subperm
import SettlementOps.Interleave.Program

/-!
# A pool of calls over one store

Any number of calls run over a shared store.  A call is a program; one step performs the
next action of one call, atomically.  Calls may start at any time, and a call may be
lost to a failure between any two of its actions.

* `System` — what an action does to the store, and the program of each call.
* `Config`, `Move`, `System.step` — a configuration of the pool and its moves.
* `System.Reachable` — the configurations reached by moves that a predicate allows.
* `System.replay` — a run given by its list of moves, for evaluation.
-/

namespace Interleave

variable {σ Ω A L α : Type} {R : A → Type}

/-- A store `σ` with actions `A`, and calls `L` with their programs.  `Ω` is what the
surroundings contribute to an action: the clock, a generated id. -/
structure System (σ Ω : Type) (A : Type) (R : A → Type) (L α : Type) where
  exec : Ω → (a : A) → σ → R a × σ
  prog : L → Prog A R α

/-- One performed action: who performed it, in which call, and what came of it. -/
structure Entry (Ω : Type) (A : Type) (R : A → Type) (L : Type) where
  pid : Nat
  label : L
  act : A
  answer : R act
  oracle : Ω

/-- A call in the pool with the rest of its program; nothing is left of a lost call. -/
structure Thread (A : Type) (R : A → Type) (L α : Type) where
  label : L
  code : Option (Prog A R α)

structure Config (σ Ω : Type) (A : Type) (R : A → Type) (L α : Type) where
  state : σ
  threads : List (Thread A R L α)
  log : List (Entry Ω A R L)

/-- The configuration no call has been made in. -/
def Config.init (s : σ) : Config σ Ω A R L α := ⟨s, [], []⟩

inductive Move (L Ω : Type)
  | call (ℓ : L)
  | run (i : Nat) (ω : Ω)
  | fail (i : Nat)

namespace Config

/-- The call and the next action of a thread that has one. -/
def pending (c : Config σ Ω A R L α) (i : Nat) : Option (L × A) :=
  match c.threads[i]? with
  | some ⟨ℓ, some (.act a _)⟩ => some (ℓ, a)
  | _ => none

/-- The call of a thread and what it returned, once it has. -/
def returned (c : Config σ Ω A R L α) (i : Nat) : Option (L × α) :=
  match c.threads[i]? with
  | some ⟨ℓ, some (.ret x)⟩ => some (ℓ, x)
  | _ => none

theorem returned_eq_some {c : Config σ Ω A R L α} {i : Nat} {ℓ : L} {x : α} :
    c.returned i = some (ℓ, x) ↔ c.threads[i]? = some ⟨ℓ, some (.ret x)⟩ := by
  unfold returned
  split
  · rename_i ℓ' y hi
    simp [hi]
  · rename_i hno
    constructor
    · intro h
      cases h
    · intro h
      exact absurd h (hno ℓ x)

/-- No call is under way: each has returned or is lost. -/
def settled (c : Config σ Ω A R L α) : Bool :=
  c.threads.all fun t => match t.code with
    | some (.act _ _) => false
    | _ => true

/-- In a settled configuration every call has returned or is lost. -/
theorem settled_thread {c : Config σ Ω A R L α} (h : c.settled = true) {i : Nat}
    {t : Thread A R L α} (hi : c.threads[i]? = some t) :
    t.code = none ∨ ∃ x, c.returned i = some (t.label, x) := by
  have ht := List.all_eq_true.1 h t (List.mem_of_getElem? hi)
  obtain ⟨ℓ, code⟩ := t
  match code, ht with
  | none, _ => exact .inl rfl
  | some (.ret x), _ => exact .inr ⟨x, by simp [returned, hi]⟩

end Config

namespace System

/-- One move of the pool, if it can be made. -/
def step (S : System σ Ω A R L α) (c : Config σ Ω A R L α) :
    Move L Ω → Option (Config σ Ω A R L α)
  | .call ℓ => some { c with threads := c.threads ++ [⟨ℓ, some (S.prog ℓ)⟩] }
  | .run i ω =>
      match c.threads[i]? with
      | some ⟨ℓ, some (.act a k)⟩ =>
          let out := S.exec ω a c.state
          some {
            state := out.2
            threads := c.threads.set i ⟨ℓ, some (k out.1)⟩
            log := c.log ++ [⟨i, ℓ, a, out.1, ω⟩] }
      | _ => none
  | .fail i =>
      match c.threads[i]? with
      | some ⟨ℓ, some _⟩ => some { c with threads := c.threads.set i ⟨ℓ, none⟩ }
      | _ => none

variable (S : System σ Ω A R L α) (P : Config σ Ω A R L α → Move L Ω → Prop)

/-- The configurations reached from one by moves that `P` allows where they are made. -/
inductive Reachable (c₀ : Config σ Ω A R L α) : Config σ Ω A R L α → Prop
  | refl : Reachable c₀ c₀
  | step {c c' : Config σ Ω A R L α} {m : Move L Ω} :
      Reachable c₀ c → P c m → S.step c m = some c' → Reachable c₀ c'

/-- A run given by its moves; it stops at the first move that is not allowed or cannot be
made. -/
def replay [∀ c m, Decidable (P c m)] :
    Config σ Ω A R L α → List (Move L Ω) → Option (Config σ Ω A R L α)
  | c, [] => some c
  | c, m :: ms =>
      if P c m then
        match S.step c m with
        | some c' => replay c' ms
        | none => none
      else none

variable {S P}

theorem Reachable.trans {c₀ c₁ c₂ : Config σ Ω A R L α} (h₁ : S.Reachable P c₀ c₁)
    (h₂ : S.Reachable P c₁ c₂) : S.Reachable P c₀ c₂ := by
  induction h₂ with
  | refl => exact h₁
  | step _ hP hstep ih => exact .step ih hP hstep

/-- Fewer moves reach less. -/
theorem Reachable.mono {Q : Config σ Ω A R L α → Move L Ω → Prop} (hPQ : ∀ c m, P c m → Q c m)
    {c₀ c : Config σ Ω A R L α} (h : S.Reachable P c₀ c) : S.Reachable Q c₀ c := by
  induction h with
  | refl => exact .refl
  | step _ hP hstep ih => exact .step ih (hPQ _ _ hP) hstep

/-- A replayed run reaches its last configuration. -/
theorem reachable_of_replay [∀ c m, Decidable (P c m)] (moves : List (Move L Ω)) :
    ∀ {c c' : Config σ Ω A R L α}, S.replay P c moves = some c' → S.Reachable P c c' := by
  induction moves with
  | nil =>
      intro c c' h
      simp only [replay, Option.some.injEq] at h
      subst h
      exact .refl
  | cons m ms ih =>
      intro c c' h
      unfold replay at h
      split at h
      · rename_i hP
        split at h
        · rename_i c₁ hstep
          have hfirst : S.Reachable P c c₁ := .step .refl hP hstep
          exact hfirst.trans (ih h)
        · cases h
      · cases h

/-! ## What a move does -/

/-- The three kinds of move, with all they do. -/
theorem step_cases {c c' : Config σ Ω A R L α} {m : Move L Ω} (h : S.step c m = some c') :
    (∃ ℓ, m = .call ℓ ∧ c' = { c with threads := c.threads ++ [⟨ℓ, some (S.prog ℓ)⟩] }) ∨
    (∃ i ω ℓ a k, m = .run i ω ∧ c.threads[i]? = some ⟨ℓ, some (.act a k)⟩ ∧
      c' = { state := (S.exec ω a c.state).2
             threads := c.threads.set i ⟨ℓ, some (k (S.exec ω a c.state).1)⟩
             log := c.log ++ [⟨i, ℓ, a, (S.exec ω a c.state).1, ω⟩] }) ∨
    (∃ i ℓ p, m = .fail i ∧ c.threads[i]? = some ⟨ℓ, some p⟩ ∧
      c' = { c with threads := c.threads.set i ⟨ℓ, none⟩ }) := by
  cases m with
  | call ℓ => exact .inl ⟨ℓ, rfl, (Option.some.inj h).symm⟩
  | run i ω =>
      simp only [step] at h
      split at h
      · rename_i ℓ a k hi
        exact .inr (.inl ⟨i, ω, ℓ, a, k, rfl, hi, (Option.some.inj h).symm⟩)
      · cases h
  | fail i =>
      simp only [step] at h
      split at h
      · rename_i ℓ p hi
        exact .inr (.inr ⟨i, ℓ, p, rfl, hi, (Option.some.inj h).symm⟩)
      · cases h

/-- A thread of the pool after one was set is that one or an old one. -/
theorem getElem?_set_cases {ts : List (Thread A R L α)} {i j : Nat} {t t' : Thread A R L α}
    (h : (ts.set i t)[j]? = some t') : (j = i ∧ t' = t) ∨ (j ≠ i ∧ ts[j]? = some t') := by
  by_cases hji : j = i
  · subst hji
    rw [List.getElem?_set, if_pos rfl, Option.ite_none_right_eq_some, Option.some.injEq] at h
    exact .inl ⟨rfl, h.2.symm⟩
  · rw [List.getElem?_set_ne (Ne.symm hji)] at h
    exact .inr ⟨hji, h⟩

/-- A thread of the pool after one was added is that one or an old one. -/
theorem getElem?_concat_cases {ts : List (Thread A R L α)} {j : Nat} {t t' : Thread A R L α}
    (h : (ts ++ [t])[j]? = some t') :
    (j = ts.length ∧ t' = t) ∨ (j ≠ ts.length ∧ ts[j]? = some t') := by
  by_cases hj : j = ts.length
  · subst hj
    rw [List.getElem?_concat_length, Option.some.injEq] at h
    exact .inl ⟨rfl, h.symm⟩
  · have hlt : j < ts.length := by
      have hle := (List.getElem?_eq_some_iff.1 h).1
      simp only [List.length_append, List.length_singleton] at hle
      omega
    rw [List.getElem?_append_left hlt] at h
    exact .inr ⟨hj, h⟩

/-- What is left of a call sends no more than its program does. -/
theorem Reachable.thread_sends {s : σ} {c : Config σ Ω A R L α}
    (h : S.Reachable P (Config.init s) c) {i : Nat} {ℓ : L} {p : Prog A R α}
    (hi : c.threads[i]? = some ⟨ℓ, some p⟩) {a : A} (ha : p.Sends a) : (S.prog ℓ).Sends a := by
  induction h generalizing i ℓ p a with
  | refl => simp [Config.init] at hi
  | step _ _ hstep ih =>
      rcases step_cases hstep with ⟨ℓ', rfl, rfl⟩ | ⟨j, ω, ℓ', b, k, rfl, hj, rfl⟩ |
        ⟨j, ℓ', q, rfl, hj, rfl⟩
      · rcases getElem?_concat_cases hi with ⟨-, heq⟩ | ⟨-, hi⟩
        · cases heq
          exact ha
        · exact ih hi ha
      · rcases getElem?_set_cases hi with ⟨-, heq⟩ | ⟨-, hi⟩
        · cases heq
          exact ih hj (.inr ⟨_, ha⟩)
        · exact ih hi ha
      · rcases getElem?_set_cases hi with ⟨-, heq⟩ | ⟨-, hi⟩
        · cases heq
        · exact ih hi ha

/-- An action of the log was performed by a call of the pool. -/
theorem Reachable.thread_of_mem {s : σ} {c : Config σ Ω A R L α}
    (h : S.Reachable P (Config.init s) c) {e : Entry Ω A R L} (he : e ∈ c.log) :
    ∃ code, c.threads[e.pid]? = some ⟨e.label, code⟩ := by
  have hset {ts : List (Thread A R L α)} {i j : Nat} {ℓ : L} {code code' : Option (Prog A R α)}
      (hi : ts[i]? = some ⟨ℓ, code⟩) {ℓ' : L} (hj : ∃ code, ts[j]? = some ⟨ℓ', code⟩) :
      ∃ code, (ts.set i ⟨ℓ, code'⟩)[j]? = some ⟨ℓ', code⟩ := by
    by_cases hij : i = j
    · subst hij
      obtain ⟨code₀, hj⟩ := hj
      have hlt := (List.getElem?_eq_some_iff.1 hi).1
      rw [hi, Option.some.injEq, Thread.mk.injEq] at hj
      rw [← hj.1]
      exact ⟨code', List.getElem?_set_self hlt⟩
    · rw [List.getElem?_set_ne hij]
      exact hj
  induction h with
  | refl => cases he
  | step _ _ hstep ih =>
      rcases step_cases hstep with ⟨ℓ, rfl, rfl⟩ | ⟨i, ω, ℓ, a, k, rfl, hi, rfl⟩ |
        ⟨i, ℓ, p, rfl, hi, rfl⟩
      · obtain ⟨code, hcode⟩ := ih he
        exact ⟨code, by rw [List.getElem?_append_left (List.getElem?_eq_some_iff.1 hcode).1, hcode]⟩
      · refine hset hi ?_
        rcases List.mem_append.1 he with he | he
        · exact ih he
        · rw [List.mem_singleton.1 he]
          exact ⟨_, hi⟩
      · exact hset hi (ih he)

/-- The log only grows. -/
theorem Reachable.log_prefix {c₀ c : Config σ Ω A R L α} (h : S.Reachable P c₀ c) :
    c₀.log <+: c.log := by
  induction h with
  | refl => exact List.prefix_refl _
  | step _ _ hstep ih =>
      rcases step_cases hstep with ⟨ℓ, rfl, rfl⟩ | ⟨i, ω, ℓ, a, k, rfl, hi, rfl⟩ |
        ⟨i, ℓ, p, rfl, hi, rfl⟩
      · exact ih
      · exact ih.trans (List.prefix_append _ _)
      · exact ih

end System

/-! ## The log -/

/-- The log grew by actions of others only. -/
def Others (i : Nat) (log log' : List (Entry Ω A R L)) : Prop :=
  ∃ added, log' = log ++ added ∧ ∀ e ∈ added, e.pid ≠ i

/-- The part of a log one call wrote. -/
def own (i : Nat) (log : List (Entry Ω A R L)) : List (Entry Ω A R L) :=
  log.filter (fun e => e.pid == i)

theorem Others.refl (i : Nat) (log : List (Entry Ω A R L)) : Others i log log :=
  ⟨[], by simp, by simp⟩

theorem Others.trans {i : Nat} {log₁ log₂ log₃ : List (Entry Ω A R L)}
    (h₁ : Others i log₁ log₂) (h₂ : Others i log₂ log₃) : Others i log₁ log₃ := by
  obtain ⟨added₁, rfl, hadded₁⟩ := h₁
  obtain ⟨added₂, rfl, hadded₂⟩ := h₂
  refine ⟨added₁ ++ added₂, by rw [List.append_assoc], fun e he => ?_⟩
  rcases List.mem_append.1 he with he | he
  · exact hadded₁ e he
  · exact hadded₂ e he

theorem Others.mem {i : Nat} {log log' : List (Entry Ω A R L)} (h : Others i log log')
    {e : Entry Ω A R L} (he : e ∈ log) : e ∈ log' := by
  obtain ⟨added, rfl, -⟩ := h
  exact List.mem_append_left _ he

/-- Others do not write for a call. -/
theorem Others.own_eq {i : Nat} {log log' : List (Entry Ω A R L)} (h : Others i log log') :
    own i log' = own i log := by
  obtain ⟨added, rfl, hadded⟩ := h
  have hnil : added.filter (fun e => e.pid == i) = [] := by
    simpa [List.filter_eq_nil_iff] using hadded
  simp [own, hnil]

@[simp] theorem own_nil (i : Nat) : own i ([] : List (Entry Ω A R L)) = [] := rfl

@[simp] theorem own_append (i : Nat) (log log' : List (Entry Ω A R L)) :
    own i (log ++ log') = own i log ++ own i log' := by
  simp [own]

@[simp] theorem own_singleton_self (i : Nat) (ℓ : L) (a : A) (r : R a) (ω : Ω) :
    own i [(⟨i, ℓ, a, r, ω⟩ : Entry Ω A R L)] = [⟨i, ℓ, a, r, ω⟩] := by
  simp [own]

theorem own_eq_nil {i : Nat} {log : List (Entry Ω A R L)} (h : ∀ e ∈ log, e.pid ≠ i) :
    own i log = [] := by
  simpa [own, List.filter_eq_nil_iff] using h

/-- A call performed an action that a reading of the log makes out as `x`. -/
def Did {β : Type} (i : Nat) (log : List (Entry Ω A R L)) (f : Entry Ω A R L → Option β)
    (x : β) : Prop :=
  ∃ e ∈ log, e.pid = i ∧ f e = some x

theorem Did.mono {β : Type} {i : Nat} {log log' : List (Entry Ω A R L)}
    {f : Entry Ω A R L → Option β} {x : β} (h : Did i log f x) (hlog : ∀ e ∈ log, e ∈ log') :
    Did i log' f x := by
  obtain ⟨e, he, hpid, hx⟩ := h
  exact ⟨e, hlog e he, hpid, hx⟩

theorem Did.append {β : Type} {i : Nat} {log : List (Entry Ω A R L)}
    {f : Entry Ω A R L → Option β} {x : β} (h : Did i log f x) (added : List (Entry Ω A R L)) :
    Did i (log ++ added) f x :=
  h.mono fun _ he => List.mem_append_left _ he

theorem did_last {β : Type} {f : Entry Ω A R L → Option β} {x : β} {e : Entry Ω A R L}
    (h : f e = some x) (log : List (Entry Ω A R L)) : Did e.pid (log ++ [e]) f x :=
  ⟨e, List.mem_append_right _ (List.mem_singleton_self e), rfl, h⟩

/-- An action a reading tells apart from all others is determined by what it makes of it. -/
theorem eq_of_filterMap_nodup {β : Type} {f : Entry Ω A R L → Option β} {x : β}
    {log : List (Entry Ω A R L)} (h : (log.filterMap f).Nodup) :
    ∀ {e e' : Entry Ω A R L}, e ∈ log → e' ∈ log → f e = some x → f e' = some x → e = e' := by
  induction log with
  | nil =>
      intro e e' he
      cases he
  | cons a log ih =>
      intro e e' he he' hx hx'
      rw [List.filterMap_cons] at h
      rcases List.mem_cons.1 he with heq | hmem <;> rcases List.mem_cons.1 he' with heq' | hmem'
      · rw [heq, heq']
      · rw [← heq, hx] at h
        exact absurd (List.mem_filterMap.2 ⟨e', hmem', hx'⟩) (List.nodup_cons.1 h).1
      · rw [← heq', hx'] at h
        exact absurd (List.mem_filterMap.2 ⟨e, hmem, hx⟩) (List.nodup_cons.1 h).1
      · refine ih ?_ hmem hmem' hx hx'
        split at h
        · exact h
        · exact (List.nodup_cons.1 h).2

/-- A log is its calls' parts, in some order. -/
theorem perm_flatMap_own (n : Nat) :
    ∀ log : List (Entry Ω A R L), (∀ e ∈ log, e.pid < n) →
      log.Perm ((List.range n).flatMap fun i => own i log) := by
  induction n with
  | zero =>
      intro log h
      cases log with
      | nil => simp
      | cons e log => exact absurd (h e List.mem_cons_self) (Nat.not_lt_zero _)
  | succ n ih =>
      intro log h
      rw [List.range_succ, List.flatMap_append]
      -- split the log by whether the last call wrote the entry
      have hsplit := (List.filter_append_perm (fun e => !(e.pid == n)) log).symm
      have hrest : ∀ e ∈ log.filter (fun e => !(e.pid == n)), e.pid < n := by
        intro e he
        obtain ⟨hmem, hne⟩ := List.mem_filter.1 he
        have hlt := h e hmem
        have hne' : e.pid ≠ n := by simpa using hne
        omega
      have hown : ∀ i ∈ List.range n,
          own i (log.filter (fun e => !(e.pid == n))) = own i log := by
        intro i hi
        have hlt := List.mem_range.1 hi
        unfold own
        rw [List.filter_filter]
        apply List.filter_congr
        intro e _
        by_cases hei : e.pid = i
        · have hin : i ≠ n := by omega
          simp [hei, hin]
        · simp [hei]
      refine hsplit.trans ?_
      refine List.Perm.append ?_ ?_
      · refine (ih _ hrest).trans ?_
        rw [List.flatMap_congr hown]
      · simp [own]

theorem exists_pid_bound (log : List (Entry Ω A R L)) : ∃ n, ∀ e ∈ log, e.pid < n := by
  induction log with
  | nil => exact ⟨0, by simp⟩
  | cons e log ih =>
      obtain ⟨n, hn⟩ := ih
      refine ⟨max n (e.pid + 1), fun x hx => ?_⟩
      rcases List.mem_cons.1 hx with rfl | hx
      · omega
      · have hlt := hn x hx
        omega

/-- **Two readings of a log that agree call by call agree as a whole.** -/
theorem filterMap_perm_of_own {β : Type} {f g : Entry Ω A R L → Option β}
    {log : List (Entry Ω A R L)}
    (h : ∀ i, ((own i log).filterMap f).Perm ((own i log).filterMap g)) :
    (log.filterMap f).Perm (log.filterMap g) := by
  obtain ⟨n, hn⟩ := exists_pid_bound log
  have hperm := perm_flatMap_own n log hn
  have hf := hperm.filterMap f
  have hg := hperm.filterMap g
  rw [List.filterMap_flatMap] at hf hg
  exact hf.trans ((List.Perm.flatMap_left _ fun i _ => h i).trans hg.symm)

theorem flatMap_subperm {β γ : Type} {f g : β → List γ} :
    ∀ xs : List β, (∀ x ∈ xs, (f x).Subperm (g x)) → (xs.flatMap f).Subperm (xs.flatMap g) := by
  intro xs
  induction xs with
  | nil =>
      intro _
      exact List.Subperm.refl _
  | cons x xs ih =>
      intro h
      rw [List.flatMap_cons, List.flatMap_cons]
      exact (h x List.mem_cons_self).append (ih fun y hy => h y (List.mem_cons_of_mem _ hy))

/-- The same for a reading that finds, in each call, no more than another. -/
theorem filterMap_subperm_of_own {β : Type} {f g : Entry Ω A R L → Option β}
    {log : List (Entry Ω A R L)}
    (h : ∀ i, ((own i log).filterMap f).Subperm ((own i log).filterMap g)) :
    (log.filterMap f).Subperm (log.filterMap g) := by
  obtain ⟨n, hn⟩ := exists_pid_bound log
  have hperm := perm_flatMap_own n log hn
  have hf := hperm.filterMap f
  have hg := hperm.filterMap g
  rw [List.filterMap_flatMap] at hf hg
  exact hf.subperm.trans ((flatMap_subperm _ fun i _ => h i).trans hg.symm.subperm)

end Interleave
