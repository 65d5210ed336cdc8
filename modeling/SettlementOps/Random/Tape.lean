import Mathlib.Data.List.Forall2

/-!
# Programs that read a tape of random words

A random program reads words off an endless tape.  What it does for every source of randomness
is what it does on every tape.

* `Tape`, `Draws` — the tape and the programs that read it.
* `word` — read the next word.
* `Always` — what holds of the result on every tape, with a rule for each way to put programs
  together.
-/

namespace Random

/-- An endless tape of words. -/
abbrev Tape (W : Type) := Nat → W

/-- A program that reads words off a tape. -/
abbrev Draws (W : Type) := StateM (Tape W)

/-- Read the next word. -/
def word {W : Type} : Draws W W := fun tape => (tape 0, fun n => tape (n + 1))

/-- The result of a program on a tape. -/
def result {W α : Type} (x : Draws W α) (tape : Tape W) : α := (x.run tape).1

/-- The tape a program leaves. -/
def rest {W α : Type} (x : Draws W α) (tape : Tape W) : Tape W := (x.run tape).2

/-- The result has a property on every tape. -/
def Always {W α : Type} (x : Draws W α) (P : α → Prop) : Prop := ∀ tape, P (result x tape)

section Rules

variable {W α β : Type} {x : Draws W α} {P Q : α → Prop}

@[simp] theorem result_pure (a : α) (tape : Tape W) : result (pure a : Draws W α) tape = a := rfl

@[simp] theorem rest_pure (a : α) (tape : Tape W) : rest (pure a : Draws W α) tape = tape := rfl

@[simp] theorem result_bind (x : Draws W α) (f : α → Draws W β) (tape : Tape W) :
    result (x >>= f) tape = result (f (result x tape)) (rest x tape) := rfl

@[simp] theorem rest_bind (x : Draws W α) (f : α → Draws W β) (tape : Tape W) :
    rest (x >>= f) tape = rest (f (result x tape)) (rest x tape) := rfl

theorem Always.pure {a : α} (h : P a) : Always (Pure.pure a : Draws W α) P := fun _ => h

theorem Always.bind {f : α → Draws W β} {R : β → Prop} (hx : Always x P)
    (hf : ∀ a, P a → Always (f a) R) : Always (x >>= f) R :=
  fun tape => hf _ (hx tape) _

theorem Always.imp (h : Always x P) (hPQ : ∀ a, P a → Q a) : Always x Q :=
  fun tape => hPQ _ (h tape)

theorem Always.true : Always x fun _ => True := fun _ => trivial

/-- An invariant of a loop over a list, which may mention the part that is done. -/
theorem Always.foldlM {γ : Type} {f : β → γ → Draws W β} (I : List γ → β → Prop) {l : List γ}
    (hstep : ∀ done c b, I done b → Always (f b c) (I (done ++ [c]))) :
    ∀ {done : List γ} {b : β}, I done b → Always (l.foldlM f b) (I (done ++ l)) := by
  induction l with
  | nil =>
      intro done b hb
      rw [List.append_nil]
      exact Always.pure hb
  | cons c l ih =>
      intro done b hb
      rw [List.foldlM_cons]
      refine (hstep done c b hb).bind fun b' hb' => ?_
      have htail := ih hb'
      rwa [List.append_assoc] at htail

/-- The results of a program run for each element of a list. -/
theorem Always.mapM {γ : Type} {f : γ → Draws W β} {R : γ → β → Prop}
    (hf : ∀ c, Always (f c) (R c)) (l : List γ) :
    Always (l.mapM f) fun out => List.Forall₂ R l out := by
  induction l with
  | nil =>
      rw [List.mapM_nil]
      exact Always.pure .nil
  | cons c l ih =>
      rw [List.mapM_cons]
      exact (hf c).bind fun b hb => ih.bind fun out hout => Always.pure (.cons hb hout)

end Rules

end Random
