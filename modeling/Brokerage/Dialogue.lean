/-! # Dialogues

A dialogue is a computation that asks questions and goes on with the answers. It says what is
asked in which order and leaves open who answers: the same dialogue can be run against a pool, a
service or a script, stopped between two questions and taken up again.
-/

namespace Brokerage

inductive Dialogue (Q : Type) (A : Q → Type) (α : Type) where
  | done (value : α)
  | ask (question : Q) (next : A question → Dialogue Q A α)

namespace Dialogue

variable {Q : Type} {A : Q → Type} {α β γ : Type}

/-- Go on with the result. -/
def bind (d : Dialogue Q A α) (f : α → Dialogue Q A β) : Dialogue Q A β :=
  match d with
  | done value => f value
  | ask question next => ask question fun answer => (next answer).bind f

instance : Monad (Dialogue Q A) where
  pure := done
  bind := bind

def request (question : Q) : Dialogue Q A (A question) := ask question done

@[simp]
theorem done_bind (value : α) (f : α → Dialogue Q A β) : (done value).bind f = f value := rfl

@[simp]
theorem bind_done (d : Dialogue Q A α) : d.bind done = d := by
  induction d with
  | done value => rfl
  | ask question next ih => simp only [bind, ih]

theorem bind_assoc (d : Dialogue Q A α) (f : α → Dialogue Q A β) (g : β → Dialogue Q A γ) :
    (d.bind f).bind g = d.bind fun value => (f value).bind g := by
  induction d with
  | done value => rfl
  | ask question next ih => simp only [bind, ih]

instance : LawfulMonad (Dialogue Q A) :=
  LawfulMonad.mk' (Dialogue Q A) bind_done (fun value f => done_bind value f) bind_assoc

/-- Answer every question from a state. -/
def run {σ : Type} (answer : (q : Q) → σ → A q × σ) : Dialogue Q A α → σ → α × σ
  | done value, s => (value, s)
  | ask question next, s =>
    let (reply, s) := answer question s
    (next reply).run answer s

/-- Let every question be answered by whatever else goes on. -/
def runM {m : Type → Type} [Monad m] (answer : (q : Q) → m (A q)) : Dialogue Q A α → m α
  | done value => pure value
  | ask question next => do (next (← answer question)).runM answer

theorem run_bind {σ : Type} (answer : (q : Q) → σ → A q × σ) (d : Dialogue Q A α)
    (f : α → Dialogue Q A β) (s : σ) :
    (d.bind f).run answer s = (f (d.run answer s).1).run answer (d.run answer s).2 := by
  induction d generalizing s with
  | done value => rfl
  | ask question next ih => exact ih _ _

end Dialogue
end Brokerage
