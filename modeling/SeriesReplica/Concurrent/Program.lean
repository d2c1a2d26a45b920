/-!
Programs as data: a program is finished, or performs an operation and goes on with its answer.
Who runs a program decides what the operations do, in which order those of several programs are
interleaved and how long each takes. Programs form a lawful monad.
-/
namespace SeriesReplica.Concurrent

/-- A program over operations with typed answers. -/
inductive Program (Op : Type) (Answer : Op → Type) (α : Type) where
  | done (value : α)
  | perform (op : Op) (next : Answer op → Program Op Answer α)

namespace Program
variable {Op : Type} {Answer : Op → Type} {α β γ σ : Type}

def bind (p : Program Op Answer α) (f : α → Program Op Answer β) : Program Op Answer β :=
  match p with
  | .done a => f a
  | .perform op next => .perform op fun answer => (next answer).bind f

instance : Monad (Program Op Answer) where
  pure := .done
  bind := bind

/-- The program of a single operation. -/
def ofOp (op : Op) : Program Op Answer (Answer op) := .perform op .done

@[simp] theorem done_bind (a : α) (f : α → Program Op Answer β) : (done a).bind f = f a := rfl

@[simp] theorem bind_done (p : Program Op Answer α) : p.bind .done = p := by
  induction p with
  | done a => rfl
  | perform op next ih => simp [bind, ih]

theorem bind_assoc (p : Program Op Answer α) (f : α → Program Op Answer β)
    (g : β → Program Op Answer γ) : (p.bind f).bind g = p.bind fun a => (f a).bind g := by
  induction p with
  | done a => rfl
  | perform op next ih => simp [bind, ih]

instance : LawfulMonad (Program Op Answer) :=
  LawfulMonad.mk' (Program Op Answer) (fun p => bind_done p) (fun _ _ => rfl)
    (fun p f g => bind_assoc p f g)

/-- Runs a program on its own: every operation is answered at once from a state. -/
def eval (answer : (op : Op) → σ → Answer op × σ) : Program Op Answer α → σ → α × σ
  | .done a, s => (a, s)
  | .perform op next, s =>
    let (reply, s) := answer op s
    (next reply).eval answer s

theorem eval_bind (answer : (op : Op) → σ → Answer op × σ) (p : Program Op Answer α)
    (f : α → Program Op Answer β) (s : σ) :
    (p.bind f).eval answer s = (f (p.eval answer s).1).eval answer (p.eval answer s).2 := by
  induction p generalizing s with
  | done a => rfl
  | perform op next ih => simp [bind, eval, ih]

end Program
end SeriesReplica.Concurrent
