import Geofencing.Proofs.Views
import Mathlib.Logic.Function.Basic

/-!
# Programs that run side by side

Every action is carried out at once, so programs that share a store interleave action by action. A
`Thread` is a program together with all that is its own, a `System` is some threads over one store,
and a schedule says whose turn it is: `System.run`.

An interleaving is compared with runs of whole programs through the future of a thread,
`System.future`: what becomes of it if it runs alone from now on. Its own actions bring the future
closer and do not change it (`System.future_step`). Neither do the actions of others, up to a view
that decides the thread's actions and misses theirs (`System.future_step_of_ne`).
-/

namespace Geofencing

variable {α ι σ : Type}

/-! ## Threads -/

/-- A program in the middle of its run. The store in its world is the one that it saw last. -/
structure Thread (α : Type) where
  /-- What surrounds the program. -/
  env : Surroundings
  /-- What is left to do. -/
  prog : Prog α
  /-- The thread's own part of the world, with the store that it saw last. -/
  world : World

namespace Thread

/-- The world of a thread with the store as it is now. -/
def worldOver (t : Thread α) (s : Store) : World := { t.world with store := s }

/-- Take one action, unless the program has ended. -/
def step (t : Thread α) (s : Store) : Thread α × Store :=
  match t.prog with
  | .step a next =>
    let (reply, w) := (t.worldOver s).perform t.env a
    ({ t with prog := next reply, world := w }, w.store)
  | .done _ | .abort => (t, s)

/-- What becomes of a thread that runs alone. -/
def future (t : Thread α) (s : Store) : Option α × World := t.prog.run t.env (t.worldOver s)

/-- How many actions a thread has left if it runs alone. -/
def left (t : Thread α) (s : Store) : Nat := t.prog.actions t.env (t.worldOver s)

/-- What a thread that has ended returned. -/
def returned (t : Thread α) : Option α :=
  match t.prog with
  | .done a => some a
  | .step _ _ | .abort => none

variable {t : Thread α} {s s' : Store}

/-- A thread with an action to take takes it in the world as it is now. -/
theorem step_of_prog {a : Action} {next : a.Reply → Prog α} (h : t.prog = .step a next) :
    t.step s = ({ t with
      prog := next ((t.worldOver s).perform t.env a).1
      world := ((t.worldOver s).perform t.env a).2 }, ((t.worldOver s).perform t.env a).2.store) := by
  rw [step, h]

/-- The first action of a thread leads to the same future. -/
theorem future_step (t : Thread α) (s : Store) :
    (t.step s).1.future (t.step s).2 = t.future s := by
  -- To run a program is to take its first action and run the rest.
  obtain ⟨env, prog, world⟩ := t
  cases prog <;> rfl

/-- An action is one less to take. -/
theorem left_step (t : Thread α) (s : Store) : (t.step s).1.left (t.step s).2 = t.left s - 1 := by
  obtain ⟨env, prog, world⟩ := t
  cases prog <;> rfl

/-- A thread without anything left to do has come to its future. -/
theorem returned_of_left (h : t.left s = 0) : t.future s = (t.returned, t.worldOver s) := by
  obtain ⟨env, prog, world⟩ := t
  cases prog with
  | done a => rfl
  | abort => rfl
  | step a next => exact absurd h (Nat.succ_ne_zero _)

/-- The future of a thread that has returned is what it returned. -/
theorem future_of_returned {a : α} (h : t.returned = some a) :
    t.future s = (some a, t.worldOver s) := by
  obtain ⟨env, prog, world⟩ := t
  cases prog with
  | done b =>
    cases h
    rfl
  | abort => cases h
  | step b next => cases h

/-- An action that leaves every store as it is can as well be taken over another store that looks
the same. -/
theorem future_step_over {a : Action} {next : a.Reply → Prog α} {v : View}
    (hprog : t.prog = .step a next) (hseen : a.SeenBy v)
    (hkeep : ∀ w : World, (w.perform t.env a).2.store = w.store) (hs : s.Alike v s') :
    (t.step s).1.future s' = t.future s' := by
  have hbeside : (t.worldOver s).Beside v (t.worldOver s') := World.beside_of_alike hs
  obtain ⟨hreply, hown, -⟩ := hbeside.perform t.env hseen
  -- Both worlds go on with the same program, and the second one has kept its store.
  have hstore : ((t.worldOver s').perform t.env a).2.store = s' := hkeep (t.worldOver s')
  rw [hstore] at hown
  rw [step_of_prog hprog, future, future, hprog, Prog.run, hreply]
  exact congrArg (Prog.run t.env (next _)) hown.symm

/-! ### Threads in a phase -/

/-- A thread follows its moves from a phase on, and the identifiers that it draws are its own. -/
structure Sound (moves : σ → Action → σ → Prop) (mine : Uuid → Prop) (t : Thread α) (p : σ) :
    Prop where
  /-- What is left of the program follows the phases. -/
  follows : t.prog.Follows moves mine p fun _ _ => True
  /-- All identifiers that the thread draws are its own. -/
  ids : ∀ n, mine (t.env.ids n)

variable {moves : σ → Action → σ → Prop} {mine : Uuid → Prop} {phases : σ → Prop} {p : σ}
  {v : View}

/-- A step does nothing, or it is an action that leads to another phase. -/
theorem Sound.step_cases (h : t.Sound moves mine p) (s : Store) :
    t.step s = (t, s) ∨
      ∃ a next p', t.prog = .step a next ∧ moves p a p' ∧ (t.step s).1.Sound moves mine p' := by
  obtain ⟨env, prog, world⟩ := t
  obtain ⟨hfollows, hids⟩ := h
  cases prog with
  | done a => exact .inl rfl
  | abort => exact .inl rfl
  | step a next =>
    obtain ⟨p', hmove, hnext⟩ := hfollows
    refine .inr ⟨a, next, p', rfl, hmove, ?_, hids⟩
    exact hnext _ (World.fits_perform _ a fun _ => hids _)

/-- A step that a view misses. -/
theorem Sound.alike_step (h : t.Sound moves mine p) (hp : phases p) (hv : v.Misses moves phases)
    (s : Store) : s.Alike v (t.step s).2 := by
  obtain hsame | ⟨a, next, p', hprog, hmove, -⟩ := h.step_cases s
  · rw [hsame]
    exact .refl v s
  · have hhidden := (hv p a p' hp hmove).1
    rw [step_of_prog hprog]
    exact World.alike_perform (w := t.worldOver s) hhidden

/-- A thread whose actions are decided by a view has the same future in stores that look the
same. -/
theorem Sound.future_alike (h : t.Sound moves mine p) (hp : phases p)
    (hv : v.Decides moves phases) (hs : s.Alike v s') :
    EndAlike v (t.future s) (t.future s') ∧ t.left s = t.left s' :=
  h.follows.run_beside hv h.ids hp (World.beside_of_alike hs)

end Thread

/-! ## Systems -/

/-- Threads over one store. -/
structure System (ι α : Type) where
  threads : ι → Thread α
  store : Store

namespace System

variable [DecidableEq ι]

/-- Let one thread take one action. -/
def step (sys : System ι α) (i : ι) : System ι α :=
  let (t, s) := (sys.threads i).step sys.store
  { threads := Function.update sys.threads i t, store := s }

/-- Let threads take an action whenever it is their turn. -/
def run (sys : System ι α) (schedule : List ι) : System ι α := schedule.foldl step sys

/-- What becomes of a thread if it runs alone from now on. -/
def future (sys : System ι α) (i : ι) : Option α × World := (sys.threads i).future sys.store

/-- How many actions a thread has left if it runs alone from now on. -/
def left (sys : System ι α) (i : ι) : Nat := (sys.threads i).left sys.store

/-- What a thread that has ended returned. -/
def returned (sys : System ι α) (i : ι) : Option α := (sys.threads i).returned

variable {sys : System ι α} {i j : ι}

/-- The thread whose turn it is takes its action. -/
theorem threads_step_self : (sys.step i).threads i = ((sys.threads i).step sys.store).1 :=
  Function.update_self ..

theorem threads_step_of_ne (h : j ≠ i) : (sys.step i).threads j = sys.threads j :=
  Function.update_of_ne h ..

theorem store_step : (sys.step i).store = ((sys.threads i).step sys.store).2 := rfl

theorem run_concat (sys : System ι α) (schedule : List ι) (i : ι) :
    sys.run (schedule ++ [i]) = (sys.run schedule).step i :=
  List.foldl_concat ..

/-- A thread's own turn leads to the same future. -/
theorem future_step (sys : System ι α) (i : ι) : (sys.step i).future i = sys.future i := by
  rw [future, threads_step_self, store_step, Thread.future_step]
  rfl

/-- A thread's own turn is one less to take. -/
theorem left_step (sys : System ι α) (i : ι) : (sys.step i).left i = sys.left i - 1 := by
  rw [left, threads_step_self, store_step, Thread.left_step]
  rfl

variable {moves : σ → Action → σ → Prop} {mine : Uuid → Prop} {phases : σ → Prop} {p : σ}
  {v : View}

/-- What others do leaves the future of a thread as it was, if they leave the view that decides
it. -/
theorem future_step_of_ne (hne : j ≠ i) (hsound : (sys.threads j).Sound moves mine p)
    (hp : phases p) (hv : v.Decides moves phases)
    (halike : sys.store.Alike v (sys.step i).store) :
    EndAlike v (sys.future j) ((sys.step i).future j) ∧ sys.left j = (sys.step i).left j := by
  rw [future, future, left, left, threads_step_of_ne hne]
  exact hsound.future_alike hp hv halike

end System

end Geofencing
