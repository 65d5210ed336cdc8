import Mathlib.Data.List.Basic

/-!
# Programs of atomic actions

A program either returns a value or performs an atomic action and goes on with its
answer.  `A` is the type of actions and `R a` the type of the answers to `a`.

* `Prog` — programs, with `bind` and the `Monad` instance.
* `Prog.perform` — the program of a single action.
* `Prog.forEach`, `Prog.loop` — one program after another for the elements of a list, the
  second carrying a value and left early when its body gives none.
* `Prog.Sends`, `Prog.Only` — the actions a program may perform.
-/

namespace Interleave

/-- A program over the actions `A`. -/
inductive Prog (A : Type) (R : A → Type) (α : Type) : Type
  | ret (x : α)
  | act (a : A) (k : R a → Prog A R α)

namespace Prog

variable {A : Type} {R : A → Type} {α β γ : Type}

/-- Run one program, then another on its value. -/
def bind : Prog A R α → (α → Prog A R β) → Prog A R β
  | ret x, f => f x
  | act a k, f => act a (fun r => bind (k r) f)

instance : Monad (Prog A R) where
  pure := ret
  bind := bind

/-- The program that performs one action and returns its answer. -/
def perform (a : A) : Prog A R (R a) := act a ret

/-- Run a program for each element of a list, in order. -/
def forEach : List β → (β → Prog A R Unit) → Prog A R Unit
  | [], _ => ret ()
  | b :: bs, f => bind (f b) fun _ => forEach bs f

/-- Carry a value through the elements of a list; a body that gives none ends the loop. -/
def loop (f : α → β → Prog A R (Option α)) : List β → α → Prog A R (Option α)
  | [], x => ret (some x)
  | b :: bs, x => bind (f x b) fun
      | none => ret none
      | some x => loop f bs x

@[simp] theorem pure_eq_ret (x : α) : (pure x : Prog A R α) = ret x := rfl

@[simp] theorem bind_ret (x : α) (f : α → Prog A R β) : bind (ret x) f = f x := rfl

@[simp] theorem ret_bind (x : α) (f : α → Prog A R β) : (ret x >>= f) = f x := rfl

@[simp] theorem act_bind (a : A) (k : R a → Prog A R α) (f : α → Prog A R β) :
    (act a k >>= f) = act a (fun r => k r >>= f) := rfl

@[simp] theorem perform_bind (a : A) (f : R a → Prog A R β) :
    (perform a >>= f) = act a f := rfl

@[simp] theorem forEach_nil (f : β → Prog A R Unit) : forEach [] f = ret () := rfl

@[simp] theorem forEach_cons (b : β) (bs : List β) (f : β → Prog A R Unit) :
    forEach (b :: bs) f = (f b >>= fun _ => forEach bs f) := rfl

/-- The program performs the action, whatever the answers before it have to be. -/
def Sends (a : A) : Prog A R α → Prop
  | ret _ => False
  | act b k => a = b ∨ ∃ r, Sends a (k r)

@[simp] theorem sends_ret (a : A) (x : α) : Sends a (ret x : Prog A R α) ↔ False := Iff.rfl

@[simp] theorem sends_act (a b : A) (k : R b → Prog A R α) :
    Sends a (act b k) ↔ a = b ∨ ∃ r, Sends a (k r) := Iff.rfl

/-- The program performs no other actions. -/
def Only (P : A → Prop) (p : Prog A R α) : Prop := ∀ a, p.Sends a → P a

theorem only_ret (P : A → Prop) (x : α) : Only P (ret x : Prog A R α) := by
  intro a h
  cases h

theorem only_perform {P : A → Prop} {a : A} (ha : P a) : Only P (perform a : Prog A R (R a)) := by
  rintro b (rfl | ⟨r, h⟩)
  · exact ha
  · cases h

theorem only_bind {P : A → Prop} {f : α → Prog A R β} (p : Prog A R α) (hp : Only P p)
    (hf : ∀ x, Only P (f x)) : Only P (p >>= f) := by
  induction p with
  | ret x => exact hf x
  | act b k ih =>
      rintro a (rfl | ⟨r, h⟩)
      · exact hp a (.inl rfl)
      · exact ih r (fun c hc => hp c (.inr ⟨r, hc⟩)) a h

theorem only_forEach {P : A → Prop} {f : β → Prog A R Unit} (bs : List β)
    (hf : ∀ b, Only P (f b)) : Only P (forEach bs f) := by
  induction bs with
  | nil => exact only_ret P ()
  | cons b bs ih => exact only_bind _ (hf b) fun _ => ih

theorem only_loop {P : A → Prop} {f : α → β → Prog A R (Option α)} (bs : List β)
    (hf : ∀ x b, Only P (f x b)) : ∀ x, Only P (loop f bs x) := by
  induction bs with
  | nil => exact fun x => only_ret P (some x)
  | cons b bs ih =>
      intro x
      refine only_bind _ (hf x b) ?_
      intro out
      cases out with
      | none => exact only_ret P none
      | some x' => exact ih x'

end Prog

end Interleave
