import SettlementOps.Interleave.Pool

/-!
# Reasoning about a pool, one call at a time

The store and the log are described by an invariant; what a call knows is what it wrote
to the log itself, since others only add to the log.  So a call is verified alone: at
each of its actions it meets some store and some longer log that satisfy the invariant,
and has to restore the invariant.

* `Rules` — which calls may start, which actions may run and where a failure may strike.
* `action_of_step`, `call_of_thread`, `inv_of_actions` — what a move executes, which calls are
  made, and an invariant that every action restores.
* `Keeps` — a program restores the invariant at each action and ends in a postcondition,
  with the rules `keeps_perform`, `keeps_then`, `Keeps.mono`, `keeps_forEach`,
  `keeps_loop_ordered`, `keeps_loop` and `keeps_of_sends`.
* `Outline` — an invariant every call keeps, with `Outline.inv_of_reachable`,
  `Outline.returned`, `Outline.lost` and `Outline.post_of_return`.
-/

namespace Interleave

variable {σ Ω A L α β γ : Type} {R : A → Type}

/-- What a run is assumed to obey.  Each rule may look at the store and at the log. -/
structure Rules (σ Ω : Type) (A : Type) (R : A → Type) (L : Type) where
  call : σ → List (Entry Ω A R L) → L → Prop := fun _ _ _ => True
  run : σ → List (Entry Ω A R L) → Nat → L → A → Prop := fun _ _ _ _ _ => True
  fail : σ → List (Entry Ω A R L) → Nat → Prop := fun _ _ _ => True

/-- The moves the rules allow. -/
def Rules.Allows (G : Rules σ Ω A R L) (c : Config σ Ω A R L α) : Move L Ω → Prop
  | .call ℓ => G.call c.state c.log ℓ
  | .run i _ => ∀ p ∈ c.pending i, G.run c.state c.log i p.1 p.2
  | .fail i => G.fail c.state c.log i

instance (G : Rules σ Ω A R L) [∀ s log ℓ, Decidable (G.call s log ℓ)]
    [∀ s log i ℓ a, Decidable (G.run s log i ℓ a)] [∀ s log i, Decidable (G.fail s log i)]
    (c : Config σ Ω A R L α) : ∀ m, Decidable (G.Allows c m)
  | .call ℓ => inferInstanceAs (Decidable (G.call c.state c.log ℓ))
  | .run i _ =>
      inferInstanceAs (Decidable (∀ p ∈ c.pending i, G.run c.state c.log i p.1 p.2))
  | .fail i => inferInstanceAs (Decidable (G.fail c.state c.log i))

/-- A move executes one action that the rules allow and its call's program sends, or leaves
the store and the log alone. -/
theorem action_of_step {S : System σ Ω A R L α} {G : Rules σ Ω A R L} {s₀ : σ}
    {c c' : Config σ Ω A R L α} {m : Move L Ω}
    (h : S.Reachable G.Allows (Config.init s₀) c) (hallow : G.Allows c m)
    (hstep : S.step c m = some c') :
    (c'.state = c.state ∧ c'.log = c.log) ∨
      ∃ i ω ℓ a, G.run c.state c.log i ℓ a ∧ (S.prog ℓ).Sends a ∧
        c'.state = (S.exec ω a c.state).2 ∧
        c'.log = c.log ++ [⟨i, ℓ, a, (S.exec ω a c.state).1, ω⟩] := by
  rcases System.step_cases hstep with ⟨ℓ, rfl, rfl⟩ | ⟨i, ω, ℓ, a, k, rfl, hi, rfl⟩ |
    ⟨i, ℓ, p, rfl, hi, rfl⟩
  · exact .inl ⟨rfl, rfl⟩
  · have hrun : G.run c.state c.log i ℓ a := hallow (ℓ, a) (by simp [Config.pending, hi])
    exact .inr ⟨i, ω, ℓ, a, hrun, h.thread_sends hi (.inl rfl), rfl, rfl⟩
  · exact .inl ⟨rfl, rfl⟩

/-- A call of the pool was one that the rules allow. -/
theorem call_of_thread {S : System σ Ω A R L α} {G : Rules σ Ω A R L} {s₀ : σ}
    {c : Config σ Ω A R L α} (h : S.Reachable G.Allows (Config.init s₀) c) {i : Nat}
    {t : Thread A R L α} (hi : c.threads[i]? = some t) : ∃ s log, G.call s log t.label := by
  induction h generalizing i t with
  | refl => simp [Config.init] at hi
  | step _ hallow hstep ih =>
      rcases System.step_cases hstep with ⟨ℓ, rfl, rfl⟩ | ⟨j, ω, ℓ, a, k, rfl, hj, rfl⟩ |
        ⟨j, ℓ, p, rfl, hj, rfl⟩
      · rcases System.getElem?_concat_cases hi with ⟨-, rfl⟩ | ⟨-, hi⟩
        · exact ⟨_, _, hallow⟩
        · exact ih hi
      · rcases System.getElem?_set_cases hi with ⟨-, rfl⟩ | ⟨-, hi⟩
        · have hcall := ih hj
          exact hcall
        · exact ih hi
      · rcases System.getElem?_set_cases hi with ⟨-, rfl⟩ | ⟨-, hi⟩
        · have hcall := ih hj
          exact hcall
        · exact ih hi

/-- **An invariant that every action restores holds of every reachable configuration.** -/
theorem inv_of_actions {S : System σ Ω A R L α} {G : Rules σ Ω A R L}
    {I : σ → List (Entry Ω A R L) → Prop} {s₀ : σ} (hinit : I s₀ [])
    (hact : ∀ s log i ℓ a ω, I s log → G.run s log i ℓ a → (S.prog ℓ).Sends a →
      I (S.exec ω a s).2 (log ++ [⟨i, ℓ, a, (S.exec ω a s).1, ω⟩]))
    {c : Config σ Ω A R L α} (h : S.Reachable G.Allows (Config.init s₀) c) :
    I c.state c.log := by
  induction h with
  | refl => exact hinit
  | step hreach hallow hstep ih =>
      rcases action_of_step hreach hallow hstep with
        ⟨hstate, hlog⟩ | ⟨i, ω, ℓ, a, hrun, hsends, hstate, hlog⟩
      · rw [hstate, hlog]
        exact ih
      · rw [hstate, hlog]
        exact hact _ _ i ℓ a ω ih hrun hsends

section Keeps

variable (exec : Ω → (a : A) → σ → R a × σ) (G : Rules σ Ω A R L)
  (Inv : σ → List (Entry Ω A R L) → Prop)

/-- From here on the program, run by call `i`, keeps the invariant whatever others do in
between, and `Post` holds when it returns. -/
def Keeps (i : Nat) (ℓ : L) (Post : β → σ → List (Entry Ω A R L) → Prop) :
    Prog A R β → σ → List (Entry Ω A R L) → Prop
  | .ret x, s, log => Post x s log
  | .act a k, _, log =>
      ∀ s log' ω, Others i log log' → Inv s log' → G.run s log' i ℓ a →
        Inv (exec ω a s).2 (log' ++ [⟨i, ℓ, a, (exec ω a s).1, ω⟩]) ∧
          Keeps i ℓ Post (k (exec ω a s).1) (exec ω a s).2
            (log' ++ [⟨i, ℓ, a, (exec ω a s).1, ω⟩])

variable {exec G Inv} {i : Nat} {ℓ : L}

theorem Keeps.mono {Post Post' : β → σ → List (Entry Ω A R L) → Prop}
    (hpost : ∀ x s log, Post x s log → Post' x s log) (p : Prog A R β) :
    ∀ {s log}, Keeps exec G Inv i ℓ Post p s log → Keeps exec G Inv i ℓ Post' p s log := by
  induction p with
  | ret x =>
      intro s log h
      exact hpost x s log h
  | act a k ih =>
      intro _ log h s log' ω hothers hinv hrun
      obtain ⟨hinv', hkeep⟩ := h s log' ω hothers hinv hrun
      exact ⟨hinv', ih _ hkeep⟩

/-- A single action. -/
theorem keeps_perform {a : A} {Post : R a → σ → List (Entry Ω A R L) → Prop} {s : σ}
    {log : List (Entry Ω A R L)}
    (h : ∀ s log' ω, Others i log log' → Inv s log' → G.run s log' i ℓ a →
      Inv (exec ω a s).2 (log' ++ [⟨i, ℓ, a, (exec ω a s).1, ω⟩]) ∧
        Post (exec ω a s).1 (exec ω a s).2 (log' ++ [⟨i, ℓ, a, (exec ω a s).1, ω⟩])) :
    Keeps exec G Inv i ℓ Post (Prog.perform a) s log := h

/-- One program after another: the second starts where the first returns. -/
theorem keeps_bind {Post : γ → σ → List (Entry Ω A R L) → Prop} {f : β → Prog A R γ}
    (p : Prog A R β) :
    ∀ {s log},
      Keeps exec G Inv i ℓ (fun x s log => Keeps exec G Inv i ℓ Post (f x) s log) p s log →
      Keeps exec G Inv i ℓ Post (p >>= f) s log := by
  induction p with
  | ret x =>
      intro s log h
      exact h
  | act a k ih =>
      intro _ log h s log' ω hothers hinv hrun
      obtain ⟨hinv', hkeep⟩ := h s log' ω hothers hinv hrun
      exact ⟨hinv', ih _ hkeep⟩

/-- One program after another, with what holds in between. -/
theorem keeps_then {Post : γ → σ → List (Entry Ω A R L) → Prop}
    {M : β → σ → List (Entry Ω A R L) → Prop} {f : β → Prog A R γ} {p : Prog A R β} {s : σ}
    {log : List (Entry Ω A R L)} (hp : Keeps exec G Inv i ℓ M p s log)
    (hf : ∀ x s log, M x s log → Keeps exec G Inv i ℓ Post (f x) s log) :
    Keeps exec G Inv i ℓ Post (p >>= f) s log :=
  keeps_bind p (Keeps.mono hf p hp)

/-- A loop over a list, with what its body keeps. -/
theorem keeps_forEach {J : σ → List (Entry Ω A R L) → Prop} {f : β → Prog A R Unit}
    (bs : List β)
    (hbody : ∀ b ∈ bs, ∀ s log, J s log → Keeps exec G Inv i ℓ (fun _ => J) (f b) s log) :
    ∀ {s log}, J s log → Keeps exec G Inv i ℓ (fun _ => J) (Prog.forEach bs f) s log := by
  induction bs with
  | nil =>
      intro s log h
      exact h
  | cons b bs ih =>
      intro s log h
      have hrest : ∀ {s log}, J s log →
          Keeps exec G Inv i ℓ (fun _ => J) (Prog.forEach bs f) s log :=
        ih fun b' hb' => hbody b' (List.mem_cons_of_mem _ hb')
      rw [Prog.forEach_cons]
      exact keeps_then (hbody b List.mem_cons_self s log h) fun _ _ _ hJ => hrest hJ

/-- A loop that carries a value, with what its body keeps of the elements done; those come
before its own. -/
theorem keeps_loop_ordered {J : List β → γ → σ → List (Entry Ω A R L) → Prop}
    {f : γ → β → Prog A R (Option γ)} (bs : List β) :
    ∀ done : List β, (∀ before b after, done ++ bs = before ++ b :: after → ∀ x s log,
      J before x s log → Keeps exec G Inv i ℓ
        (fun out s log => ∀ x' ∈ out, J (before ++ [b]) x' s log) (f x b) s log) →
    ∀ {x s log}, J done x s log →
      Keeps exec G Inv i ℓ (fun out s log => ∀ x' ∈ out, J (done ++ bs) x' s log)
        (Prog.loop f bs x) s log := by
  induction bs with
  | nil =>
      intro done _ x s log h x' hx'
      cases hx'
      rw [List.append_nil]
      exact h
  | cons b bs ih =>
      intro done hbody x s log h
      refine keeps_then (hbody done b bs rfl x s log h) ?_
      intro out s' log' hout
      cases out with
      | none =>
          intro x' hx'
          cases hx'
      | some x' =>
          have hsame : done ++ [b] ++ bs = done ++ b :: bs := List.append_cons done b bs ▸ rfl
          have hrest := ih (done ++ [b]) (by rw [hsame]; exact hbody) (hout x' rfl)
          rw [hsame] at hrest
          exact hrest

/-- A loop that carries a value, with what its body keeps of the elements done. -/
theorem keeps_loop {J : List β → γ → σ → List (Entry Ω A R L) → Prop}
    {f : γ → β → Prog A R (Option γ)} (bs : List β)
    (hbody : ∀ b ∈ bs, ∀ done x s log, J done x s log →
      Keeps exec G Inv i ℓ (fun out s log => ∀ x' ∈ out, J (done ++ [b]) x' s log) (f x b) s log)
    {done : List β} {x : γ} {s : σ} {log : List (Entry Ω A R L)} (h : J done x s log) :
    Keeps exec G Inv i ℓ (fun out s log => ∀ x' ∈ out, J (done ++ bs) x' s log)
      (Prog.loop f bs x) s log := by
  refine keeps_loop_ordered (J := fun d => J (done ++ d)) bs [] ?_ (by simpa using h)
  intro before b after hsplit x s log hJ
  have hmem : b ∈ bs := by
    rw [List.nil_append] at hsplit
    rw [hsplit]
    exact List.mem_append_right _ List.mem_cons_self
  simpa using hbody b hmem (done ++ before) x s log hJ

/-- A program whose actions all restore the invariant keeps it. -/
theorem keeps_of_sends (p : Prog A R β)
    (hact : ∀ a, p.Sends a → ∀ s log ω, Inv s log → G.run s log i ℓ a →
      Inv (exec ω a s).2 (log ++ [⟨i, ℓ, a, (exec ω a s).1, ω⟩])) :
    ∀ {s log}, Keeps exec G Inv i ℓ (fun _ _ _ => True) p s log := by
  induction p with
  | ret x => exact trivial
  | act a k ih =>
      intro _ _ s log' ω _ hinv hrun
      refine ⟨hact a (.inl rfl) s log' ω hinv hrun, ih _ fun b hb => ?_⟩
      exact hact b (.inr ⟨_, hb⟩)

end Keeps

/-- An invariant that holds at first and is kept by every call. -/
structure Outline (S : System σ Ω A R L α) (G : Rules σ Ω A R L) (s₀ : σ) where
  inv : σ → List (Entry Ω A R L) → Prop
  post : Nat → L → α → σ → List (Entry Ω A R L) → Prop
  init : inv s₀ []
  start : ∀ s log i ℓ, inv s log → G.call s log ℓ → own i log = [] →
    Keeps S.exec G inv i ℓ (post i ℓ) (S.prog ℓ) s log

namespace Outline

variable {S : System σ Ω A R L α} {G : Rules σ Ω A R L} {s₀ : σ} (O : Outline S G s₀)

/-- What is known of one thread: a running one keeps the invariant from its last action
on, and a lost one was lost where a failure may strike. -/
def ThreadOk (i : Nat) (t : Thread A R L α) (log : List (Entry Ω A R L)) : Prop :=
  match t.code with
  | some p => ∃ s log₀, Keeps S.exec G O.inv i t.label (O.post i t.label) p s log₀ ∧
      Others i log₀ log
  | none => ∃ s log₀, O.inv s log₀ ∧ G.fail s log₀ i ∧ Others i log₀ log

theorem ThreadOk.others {i : Nat} {t : Thread A R L α} {log log' : List (Entry Ω A R L)}
    (h : O.ThreadOk i t log) (hothers : Others i log log') : O.ThreadOk i t log' := by
  obtain ⟨ℓ, code⟩ := t
  cases code with
  | none =>
      obtain ⟨s, log₀, hinv, hfail, ho⟩ := h
      exact ⟨s, log₀, hinv, hfail, ho.trans hothers⟩
  | some p =>
      obtain ⟨s, log₀, hkeep, ho⟩ := h
      exact ⟨s, log₀, hkeep, ho.trans hothers⟩

/-- The invariant of a whole configuration. -/
structure Good (c : Config σ Ω A R L α) : Prop where
  inv : O.inv c.state c.log
  pids : ∀ e ∈ c.log, e.pid < c.threads.length
  threads : ∀ i t, c.threads[i]? = some t → O.ThreadOk i t c.log

theorem good_init : O.Good (Config.init s₀) where
  inv := O.init
  pids := by simp [Config.init]
  threads := by simp [Config.init]

/-- A move that changes one thread, whose new knowledge is given. -/
theorem Good.move {O : Outline S G s₀} {c c' : Config σ Ω A R L α} (h : O.Good c) {i : Nat}
    {t : Thread A R L α}
    (hthreads : ∀ j t', c'.threads[j]? = some t' →
      (j = i ∧ t' = t) ∨ (j ≠ i ∧ c.threads[j]? = some t'))
    (hothers : ∀ j, j ≠ i → Others j c.log c'.log) (hinv : O.inv c'.state c'.log)
    (hpids : ∀ e ∈ c'.log, e.pid < c'.threads.length)
    (hkeep : ∀ p, t.code = some p →
      Keeps S.exec G O.inv i t.label (O.post i t.label) p c'.state c'.log)
    (hfail : t.code = none → G.fail c'.state c'.log i) :
    O.Good c' ∧ ∀ j ℓ x, c'.returned j = some (ℓ, x) → c.returned j ≠ some (ℓ, x) →
      O.post j ℓ x c'.state c'.log := by
  constructor
  · refine ⟨hinv, hpids, fun j t' hj => ?_⟩
    rcases hthreads j t' hj with ⟨rfl, rfl⟩ | ⟨hne, hj⟩
    · obtain ⟨ℓ, code⟩ := t'
      cases code with
      | none => exact ⟨_, _, hinv, hfail rfl, Others.refl _ _⟩
      | some p => exact ⟨_, _, hkeep p rfl, Others.refl _ _⟩
    · exact ThreadOk.others O (h.threads j t' hj) (hothers j hne)
  · intro j ℓ x hret hold
    rcases hthreads j _ (Config.returned_eq_some.1 hret) with ⟨rfl, rfl⟩ | ⟨-, hj⟩
    · exact hkeep _ rfl
    · exact absurd (Config.returned_eq_some.2 hj) hold

/-- The invariant and the postconditions of the threads survive a move. -/
theorem good_step {c c' : Config σ Ω A R L α} {m : Move L Ω} (h : O.Good c)
    (hallow : G.Allows c m) (hstep : S.step c m = some c') :
    O.Good c' ∧ ∀ i ℓ x, c'.returned i = some (ℓ, x) → c.returned i ≠ some (ℓ, x) →
      O.post i ℓ x c'.state c'.log := by
  rcases System.step_cases hstep with ⟨ℓ, rfl, rfl⟩ | ⟨i, ω, ℓ, a, k, rfl, hi, rfl⟩ |
    ⟨i, ℓ, p, rfl, hi, rfl⟩
  · -- a new call: nothing in the log is its own
    have hown : own c.threads.length c.log = [] :=
      own_eq_nil fun e he => Nat.ne_of_lt (h.pids e he)
    have hkeep := O.start c.state c.log c.threads.length ℓ h.inv hallow hown
    refine h.move (fun j t' hj => System.getElem?_concat_cases hj)
      (fun j _ => Others.refl j c.log) h.inv ?_ ?_ ?_
    · intro e he
      have hlt := h.pids e he
      simp only [List.length_append, List.length_singleton]
      omega
    · intro p hp
      cases hp
      exact hkeep
    · intro hlost
      cases hlost
  · -- an action: the thread's knowledge meets the current store and log
    obtain ⟨s, log₀, hkeep, hothers⟩ := h.threads i _ hi
    have hrun : G.run c.state c.log i ℓ a := by
      apply hallow (ℓ, a)
      simp [Config.pending, hi]
    obtain ⟨hinv, hkeep'⟩ := hkeep c.state c.log ω hothers h.inv hrun
    refine h.move (fun j t' hj => System.getElem?_set_cases hj)
      (fun j hj => ⟨_, rfl, by simpa using hj.symm⟩) hinv ?_ ?_ ?_
    · intro e he
      simp only [List.length_set]
      rcases List.mem_append.1 he with he | he
      · exact h.pids e he
      · rw [List.mem_singleton] at he
        subst he
        exact (List.getElem?_eq_some_iff.1 hi).1
    · intro p hp
      cases hp
      exact hkeep'
    · intro hlost
      cases hlost
  · -- a failure: the thread is lost where it stands
    refine h.move (fun j t' hj => System.getElem?_set_cases hj)
      (fun j _ => Others.refl j c.log) h.inv ?_ ?_ ?_
    · intro e he
      simpa using h.pids e he
    · intro p hp
      cases hp
    · intro _
      exact hallow

variable {c : Config σ Ω A R L α} (h : S.Reachable G.Allows (Config.init s₀) c)

include h

theorem good_of_reachable : O.Good c := by
  induction h with
  | refl => exact O.good_init
  | step _ hallow hstep ih => exact (O.good_step ih hallow hstep).1

/-- **The invariant holds of every reachable configuration.** -/
theorem inv_of_reachable : O.inv c.state c.log := (O.good_of_reachable h).inv

/-- **A postcondition holds at the moment a call returns.** -/
theorem post_of_return {c' : Config σ Ω A R L α} {m : Move L Ω} (hallow : G.Allows c m)
    (hstep : S.step c m = some c') {i : Nat} {ℓ : L} {x : α}
    (hret : c'.returned i = some (ℓ, x)) (hnew : c.returned i ≠ some (ℓ, x)) :
    O.post i ℓ x c'.state c'.log :=
  (O.good_step (O.good_of_reachable h) hallow hstep).2 i ℓ x hret hnew

/-- A call that has returned did so in its postcondition, and has written nothing since. -/
theorem returned {i : Nat} {ℓ : L} {x : α} (hret : c.returned i = some (ℓ, x)) :
    ∃ s log₀, O.post i ℓ x s log₀ ∧ Others i log₀ c.log :=
  (O.good_of_reachable h).threads i _ (Config.returned_eq_some.1 hret)

/-- A call that is under way keeps the invariant from its last action on. -/
theorem running {i : Nat} {ℓ : L} {p : Prog A R α} (hi : c.threads[i]? = some ⟨ℓ, some p⟩) :
    ∃ s log₀, Keeps S.exec G O.inv i ℓ (O.post i ℓ) p s log₀ ∧ Others i log₀ c.log :=
  (O.good_of_reachable h).threads i _ hi

/-- A lost call was lost where a failure may strike, and has written nothing since. -/
theorem lost {i : Nat} {ℓ : L} (hi : c.threads[i]? = some ⟨ℓ, none⟩) :
    ∃ s log₀, O.inv s log₀ ∧ G.fail s log₀ i ∧ Others i log₀ c.log :=
  (O.good_of_reachable h).threads i _ hi

end Outline

end Interleave
