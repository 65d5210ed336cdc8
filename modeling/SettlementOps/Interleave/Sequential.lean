import SettlementOps.Interleave.Outline

/-!
# One program, run alone

What holds of every run of a program whose actions answer as they please, and a run against a
given environment.

* `Effect` — what an action may answer and make of a store.
* `Wp` — every run of a program ends in a postcondition, with `Wp.mono`, `Wp.and`, `wp_bind`,
  `wp_then` and `wp_loop`.
* `exists_return` — a call of a pool that nothing disturbs runs to its end.
* `alone` — what a program returns and leaves when it runs alone.
* `Event`, `recorded`, `play` — the history of a run against an environment that answers by
  the history so far, and `Wp.play`.
-/

namespace Interleave

variable {σ A α β γ : Type} {R : A → Type}

/-- The answers an action may give on a store, with the store it leaves. -/
abbrev Effect (σ A : Type) (R : A → Type) := (a : A) → σ → R a → σ → Prop

/-- Whatever its actions answer, the program ends in the postcondition. -/
def Wp (T : Effect σ A R) (Post : α → σ → Prop) : Prog A R α → σ → Prop
  | .ret x, s => Post x s
  | .act a k, s => ∀ r s', T a s r s' → Wp T Post (k r) s'

section Rules

variable {T : Effect σ A R}

theorem Wp.mono {Post Post' : α → σ → Prop} (hpost : ∀ x s, Post x s → Post' x s)
    (p : Prog A R α) : ∀ {s}, Wp T Post p s → Wp T Post' p s := by
  induction p with
  | ret x =>
      intro s h
      exact hpost x s h
  | act a k ih =>
      intro s h r s' hT
      exact ih r (h r s' hT)

theorem Wp.and {Post Post' : α → σ → Prop} (p : Prog A R α) :
    ∀ {s}, Wp T Post p s → Wp T Post' p s → Wp T (fun x s => Post x s ∧ Post' x s) p s := by
  induction p with
  | ret x =>
      intro s h h'
      exact ⟨h, h'⟩
  | act a k ih =>
      intro s h h' r s' hT
      exact ih r (h r s' hT) (h' r s' hT)

/-- One program after another: the second starts where the first returns. -/
theorem wp_bind {Post : β → σ → Prop} {f : α → Prog A R β} (p : Prog A R α) :
    ∀ {s}, Wp T (fun x s => Wp T Post (f x) s) p s → Wp T Post (p >>= f) s := by
  induction p with
  | ret x =>
      intro s h
      exact h
  | act a k ih =>
      intro s h r s' hT
      exact ih r (h r s' hT)

/-- One program after another, with what holds in between. -/
theorem wp_then {Post : β → σ → Prop} {M : α → σ → Prop} {f : α → Prog A R β}
    {p : Prog A R α} {s : σ} (hp : Wp T M p s)
    (hf : ∀ x s, M x s → Wp T Post (f x) s) : Wp T Post (p >>= f) s :=
  wp_bind p (Wp.mono hf p hp)

/-- A loop that carries a value and is never left early, with what its body keeps of the
elements done. -/
theorem wp_loop {J : List γ → α → σ → Prop} {f : α → γ → Prog A R (Option α)} (items : List γ)
    (hbody : ∀ c ∈ items, ∀ done x s, J done x s →
      Wp T (fun out s => ∃ x', out = some x' ∧ J (done ++ [c]) x' s) (f x c) s) :
    ∀ done {x s}, J done x s →
      Wp T (fun out s => ∃ x', out = some x' ∧ J (done ++ items) x' s)
        (Prog.loop f items x) s := by
  induction items with
  | nil =>
      intro done x s h
      rw [List.append_nil]
      exact ⟨x, rfl, h⟩
  | cons c items ih =>
      intro done x s h
      refine wp_then (hbody c List.mem_cons_self done x s h) ?_
      rintro _ s' ⟨x', rfl, h'⟩
      have hrest := ih (fun c' hc' => hbody c' (List.mem_cons_of_mem _ hc')) _ h'
      rw [List.append_assoc] at hrest
      exact hrest

end Rules

/-! ## An undisturbed call -/

section Alone

variable {Ω L ε : Type}

/-- The effect of actions whose surroundings are chosen by the store. -/
def chosen (exec : Ω → (a : A) → σ → R a × σ) (ω : σ → Ω) : Effect σ A R :=
  fun a s r s' => exec (ω s) a s = (r, s')

/-- A single action with its chosen surroundings. -/
theorem wp_chosen {exec : Ω → (a : A) → σ → R a × σ} {ω : σ → Ω} {a : A}
    {Post : R a → σ → Prop} {s : σ} (h : Post (exec (ω s) a s).1 (exec (ω s) a s).2) :
    Wp (chosen exec ω) Post (Prog.perform a) s := by
  intro r s' hT
  rw [chosen] at hT
  rw [hT] at h
  exact h

/-- **A call that nothing disturbs runs to its end**, in what every run of it ends in. -/
theorem exists_return {S : System σ Ω A R L ε} {G : Rules σ Ω A R L} {ω : σ → Ω} {i : Nat} {ℓ : L}
    {Post : ε → σ → Prop} (p : Prog A R ε)
    (hrun : p.Only fun a => ∀ s log, G.run s log i ℓ a) :
    ∀ {c : Config σ Ω A R L ε}, c.threads[i]? = some ⟨ℓ, some p⟩ →
      Wp (chosen S.exec ω) Post p c.state →
      ∃ c' x, S.Reachable G.Allows c c' ∧ c'.returned i = some (ℓ, x) ∧ Post x c'.state := by
  induction p with
  | ret x =>
      intro c hi hwp
      exact ⟨c, x, .refl, Config.returned_eq_some.2 hi, hwp⟩
  | act a k ih =>
      intro c hi hwp
      have hlt := (List.getElem?_eq_some_iff.1 hi).1
      have hallow : G.Allows c (.run i (ω c.state)) := by
        intro q hq
        have hpending : c.pending i = some (ℓ, a) := by simp [Config.pending, hi]
        rw [hpending] at hq
        cases hq
        exact hrun a (.inl rfl) _ _
      have hstep : ∃ c₁, S.step c (.run i (ω c.state)) = some c₁ ∧
          c₁.state = (S.exec (ω c.state) a c.state).2 ∧
          c₁.threads[i]? = some ⟨ℓ, some (k (S.exec (ω c.state) a c.state).1)⟩ := by
        simp only [System.step, hi]
        exact ⟨_, rfl, rfl, List.getElem?_set_self hlt⟩
      obtain ⟨c₁, hstep, hstate, hthread⟩ := hstep
      obtain ⟨c', x, hreach, hret, hpost⟩ := ih _
        (fun b hb => hrun b (.inr ⟨_, hb⟩)) hthread (by rw [hstate]; exact hwp _ _ rfl)
      exact ⟨c', x, (System.Reachable.step .refl hallow hstep).trans hreach, hret, hpost⟩

end Alone

/-- What a program returns and leaves when it runs alone in the same surroundings throughout. -/
def alone {Ω : Type} (exec : Ω → (a : A) → σ → R a × σ) (ω : Ω) : Prog A R α → σ → α × σ
  | .ret x, s => (x, s)
  | .act a k, s => alone exec ω (k (exec ω a s).1) (exec ω a s).2

theorem alone_bind {Ω : Type} {exec : Ω → (a : A) → σ → R a × σ} {ω : Ω} {f : α → Prog A R β}
    (p : Prog A R α) : ∀ s, alone exec ω (p >>= f) s =
      alone exec ω (f (alone exec ω p s).1) (alone exec ω p s).2 := by
  induction p with
  | ret x => exact fun s => rfl
  | act a k ih => exact fun s => ih (exec ω a s).1 (exec ω a s).2

/-! ## Histories -/

/-- An action with its answer. -/
abbrev Event (A : Type) (R : A → Type) := (a : A) × R a

/-- Any answer may come, and is remembered. -/
def recorded : Effect (List (Event A R)) A R := fun a h r h' => h' = h ++ [⟨a, r⟩]

/-- The run of a program in an environment that answers by the history so far. -/
def play (env : List (Event A R) → (a : A) → R a) :
    Prog A R α → List (Event A R) → α × List (Event A R)
  | .ret x, h => (x, h)
  | .act a k, h => play env (k (env h a)) (h ++ [⟨a, env h a⟩])

/-- What every run establishes, a run in an environment does. -/
theorem Wp.play {Post : α → List (Event A R) → Prop}
    (env : List (Event A R) → (a : A) → R a) (p : Prog A R α) :
    ∀ {h}, Wp recorded Post p h →
      Post (Interleave.play env p h).1 (Interleave.play env p h).2 := by
  induction p with
  | ret x =>
      intro h hwp
      exact hwp
  | act a k ih =>
      intro h hwp
      exact ih (env h a) (hwp (env h a) _ rfl)

end Interleave
