import Geofencing.Proofs.InStep

/-!
# Programs that do not depend on the hook

A program is oblivious (`Prog.Oblivious`) if it goes on in the same way whatever the hook answers,
and marks nothing but the entry that it has just stored. Two runs of such a program that differ in
the hook and in the refusals of marks alone stay in step: `Prog.Oblivious.runsInStep`.

A mark takes one more look at the clock. So two runs see the same clock if they read the same off it
in the same order, the readings for marks left out (`Prog.stamps`).
-/

namespace Geofencing

/-! ## Programs that go on whatever the hook answers -/

/-- What an action reads off the clock, unless it is for a mark. -/
def World.stamp (env : Surroundings) (w : World) (forMark : Bool) : Action → List Instant
  | .readClock => if forMark then [] else [env.clock w.readings]
  | _ => []

namespace Prog

variable {α β ε : Type}

/-- Whether a program marks an event next. -/
def marksNext : Prog α → Bool
  | .step (.store (.markProcessed _ _ _)) _ => true
  | _ => false

/-- What a run reads off the clock, in order, but for the times of marks. -/
def stamps (env : Surroundings) : Prog α → World → List Instant
  | .done _, _ => []
  | .abort, _ => []
  | .step a next, w =>
    let (reply, w') := w.perform env a
    w.stamp env (next reply).marksNext a ++ (next reply).stamps env w'

/-- The first action is read off the clock first. -/
theorem stamps_step {env : Surroundings} {w : World} {a : Action} {next : a.Reply → Prog α} :
    (step a next).stamps env w = w.stamp env (next (w.perform env a).1).marksNext a ++
      (next (w.perform env a).1).stamps env (w.perform env a).2 :=
  rfl

/-- A program that stores events with identifiers drawn for them, and that goes on in the same way
if the hook does not accept an entry as after the mark if it does. -/
inductive Oblivious (Q : α → Stage → Prop) : Stage → Prog α → Prop
  | done {st : Stage} {a : α} (h : Q a st) : Oblivious Q st (.done a)
  | abort {st : Stage} : Oblivious Q st .abort
  /-- An identifier is drawn for an event. -/
  | draw {st : Stage} {next : Uuid → Prog α} (h : ∀ id, Oblivious Q (.drawn id) (next id)) :
      Oblivious Q st (.step .freshId next)
  /-- The event is stored under that identifier. -/
  | event {e : Event} {next : Except DomainError Unit → Prog α}
      (h : ∀ reply, Oblivious Q (.after e) (next reply)) :
      Oblivious Q (.drawn e.id) (.step (.store (.insertEvent e)) next)
  /-- The hook is asked about an entry, and marks it if it accepts. -/
  | attend {tenant id : Uuid} {entry : SchoolEntry} {next : Bool → Prog α}
      (marks : next true = .step .readClock fun t =>
        .step (.store (.markProcessed tenant id t)) fun _ => next false)
      (h : Oblivious Q (.entered id) (next false)) :
      Oblivious Q (.entered id) (.step (.attend entry) next)
  /-- The clock is read, but not for a mark. -/
  | clock {st : Stage} {next : Instant → Prog α} (h : ∀ t, Oblivious Q st (next t)) :
      Oblivious Q st (.step .readClock next)
  /-- An action is taken in which the hook plays no part. -/
  | aside {st : Stage} {a : Action} {next : a.Reply → Prog α} (plain : a.plain = true)
      (h : ∀ reply, Oblivious Q st (next reply)) : Oblivious Q st (.step a next)

namespace Oblivious

variable {st : Stage}

/-- An oblivious program does not mark an event out of turn. -/
theorem marksNext {Q : α → Stage → Prop} {x : Prog α} (h : x.Oblivious Q st) :
    x.marksNext = false := by
  cases h with
  | @aside _ a next plain h =>
    cases a with
    | store call =>
      cases call with
      | markProcessed => cases plain
      | _ => rfl
    | _ => rfl
  | _ => rfl

/-- A program is oblivious if it is so up to some point and from there on. -/
theorem bind {x : Prog α} {f : α → Prog β} {Q : β → Stage → Prop}
    (h : x.Oblivious (fun a st => (f a).Oblivious Q st) st) : (x >>= f).Oblivious Q st := by
  induction h with
  | done h => exact h
  | abort => exact .abort
  | draw _ ih => exact .draw ih
  | event _ ih => exact .event ih
  | @attend tenant id entry next marks _ ih =>
    have hmarks : (next true).bind f = .step .readClock fun t =>
        .step (.store (.markProcessed tenant id t)) fun _ => (next false).bind f := by
      rw [marks]
      rfl
    exact .attend hmarks ih
  | clock _ ih => exact .clock ih
  | aside plain _ ih => exact .aside plain ih

theorem imp {x : Prog α} {Q Q' : α → Stage → Prop} (h : x.Oblivious Q st)
    (himp : ∀ a st, Q a st → Q' a st) : x.Oblivious Q' st := by
  induction h with
  | done h => exact .done (himp _ _ h)
  | abort => exact .abort
  | draw _ ih => exact .draw ih
  | event _ ih => exact .event ih
  | attend marks _ ih => exact .attend marks ih
  | clock _ ih => exact .clock ih
  | aside plain _ ih => exact .aside plain ih

/-- An oblivious program is composed of two parts that are. -/
theorem run_bind {x : ExceptT ε Prog α} {f : α → ExceptT ε Prog β} {Q : Except ε β → Stage → Prop}
    (h : x.run.Oblivious (fun r st => match r with
      | .ok a => (f a).run.Oblivious Q st
      | .error e => Q (.error e) st) st) : (x >>= f).run.Oblivious Q st := by
  rw [ExceptT.run_bind]
  refine bind (h.imp fun r st hr => ?_)
  cases r with
  | ok a => exact hr
  | error e => exact .done hr

/-- A first part that cannot fail always leads to the second. -/
theorem lift_bind {x : Prog α} {f : α → ExceptT ε Prog β} {Q : Except ε β → Stage → Prop}
    (h : x.Oblivious (fun a st => (f a).run.Oblivious Q st) st) :
    ((liftM x : ExceptT ε Prog α) >>= f).run.Oblivious Q st := by
  refine run_bind ?_
  change ((ExceptT.lift x).run).Oblivious _ st
  rw [ExceptT.run_lift, map_eq_pure_bind]
  exact bind (h.imp fun a st ha => .done ha)

/-- A plain store call may fail, and then the program ends where it is. -/
theorem store_bind {call : StoreCall} {f : call.Value → Service β}
    {Q : Except DomainError β → Stage → Prop} (plain : (Action.store call).plain = true)
    (herror : ∀ e, Q (.error e) st) (hok : ∀ value, (f value).run.Oblivious Q st) :
    (Service.store call >>= f).run.Oblivious Q st := by
  refine run_bind (.aside plain fun reply => .done ?_)
  cases reply with
  | error e => exact herror e
  | ok value => exact hok value

/-- After an event was stored under the identifier drawn for it, it may be marked. -/
theorem insertEvent_bind {e : Event} {f : Unit → Service β}
    {Q : Except DomainError β → Stage → Prop} (herror : ∀ e', Q (.error e') (.after e))
    (hok : (f ()).run.Oblivious Q (.after e)) :
    (Service.store (.insertEvent e) >>= f).run.Oblivious Q (.drawn e.id) := by
  refine run_bind (.event fun reply => .done ?_)
  cases reply with
  | error e => exact herror e
  | ok _ => exact hok

end Oblivious

end Prog

/-! ## Two runs -/

namespace World

variable {env : Surroundings} {w : World}

/-- After the hook was asked, a run goes on with the same program, whatever it answered. -/
theorem exists_run_attend {α : Type} {tenant id : Uuid} {entry : SchoolEntry} {next : Bool → Prog α}
    (hmarks : next true = .step .readClock fun t =>
      .step (.store (.markProcessed tenant id t)) fun _ => next false)
    (hentries : ∀ e ∈ w.store.events, e.id = id → e.kind = .enter) :
    ∃ w', w'.InStep { w with entries := w.entries ++ [entry] } ∧
      (Prog.step (.attend entry) next).run env w = (next false).run env w' ∧
      (Prog.step (.attend entry) next).stamps env w = (next false).stamps env w' := by
  let told : World := { w with entries := w.entries ++ [entry] }
  -- The mark is what the hook's answer changes, and worlds in step may differ in it.
  cases haccepts : env.accepts w.entries entry with
  | false =>
    refine ⟨told, .refl told, ?_, ?_⟩
    · rw [Prog.run, perform, haccepts]
    · rw [Prog.stamps, perform, haccepts]
      rfl
  | true =>
    let marking : World := { told with readings := w.readings + 1 }
    refine ⟨(marking.callStore env (.markProcessed tenant id (env.clock w.readings))).2, ?_, ?_, ?_⟩
    · exact { inStep_markProcessed (w := marking) hentries with }
    · rw [Prog.run, perform, haccepts]
      dsimp only
      rw [hmarks]
      rfl
    · rw [Prog.stamps, perform, haccepts]
      dsimp only
      rw [hmarks]
      rfl

end World

namespace Prog

variable {α : Type} {env env' : Surroundings} {w w' later : World} {ticks : List Instant}

/-- Two runs of a program return the same and read the same off the clock, and their worlds stay in
step; identifiers drawn after the first one are new. -/
structure RunsInStep (env env' : Surroundings) (later : World) (x : Prog α) (w w' : World) :
    Prop where
  /-- Both return the same. -/
  value : (x.run env w).1 = (x.run env' w').1
  /-- Both end in worlds that are in step. -/
  world : (x.run env w).2.InStep (x.run env' w').2
  /-- Both read the same off the clock, the readings for marks left out. -/
  stamps : x.stamps env w = x.stamps env' w'
  /-- Whatever is drawn later is new. -/
  fresh : Stage.idle.Holds env later (x.run env w).2

/-- An action that is answered alike takes two runs to the next action. -/
theorem RunsInStep.step {a : Action} {next : a.Reply → Prog α}
    (hreply : (w.perform env a).1 = (w'.perform env' a).1)
    (hstamp : ∀ b, w.stamp env b a = w'.stamp env' b a)
    (h : (next (w.perform env a).1).RunsInStep env env' later (w.perform env a).2
      (w'.perform env' a).2) : (Prog.step a next).RunsInStep env env' later w w' := by
  have hrun : (Prog.step a next).run env' w' =
      (next (w.perform env a).1).run env' (w'.perform env' a).2 := by
    rw [hreply]
    rfl
  refine ⟨?_, ?_, ?_, h.fresh⟩
  · rw [hrun]
    exact h.value
  · rw [hrun]
    exact h.world
  · rw [stamps_step, stamps_step, ← hreply, h.stamps, hstamp]

/-- The same for an action that is no look at the clock: both runs still see the same times. -/
theorem RunsInStep.step_of_ne {a : Action} {next : a.Reply → Prog α} (ha : a ≠ .readClock)
    (hreply : (w.perform env a).1 = (w'.perform env' a).1)
    (hticks : (Prog.step a next).stamps env w <+: ticks)
    (hticks' : (Prog.step a next).stamps env' w' <+: ticks)
    (h : (next (w.perform env a).1).stamps env (w.perform env a).2 <+: ticks →
      (next (w.perform env a).1).stamps env' (w'.perform env' a).2 <+: ticks →
      (next (w.perform env a).1).RunsInStep env env' later (w.perform env a).2
        (w'.perform env' a).2) :
    (Prog.step a next).RunsInStep env env' later w w' := by
  -- No other action reads anything off the clock.
  have hnone : ∀ env (w : World) b, w.stamp env b a = [] := by
    intro env w b
    cases a with
    | readClock => exact absurd rfl ha
    | _ => rfl
  have hstamps : ∀ env w, (Prog.step a next).stamps env w =
      (next (w.perform env a).1).stamps env (w.perform env a).2 := by
    intro env w
    rw [stamps_step, hnone, List.nil_append]
  rw [hstamps] at hticks hticks'
  rw [← hreply] at hticks'
  refine .step hreply (fun b => ?_) (h hticks hticks')
  rw [hnone, hnone]

/-- Whatever the hook answers and whichever marks are refused, an oblivious program runs in step, as
long as both runs see the same clock. -/
theorem Oblivious.runsInStep {Q : α → Stage → Prop} {st : Stage} {x : Prog α}
    (hx : x.Oblivious Q st) (hsame : env.SameButHook env') (hstep : w.InStep w')
    (hst : st.Holds env later w) (hlater : (x.run env w).2.drawn ≤ later.drawn)
    (hticks : x.stamps env w <+: ticks) (hticks' : x.stamps env' w' <+: ticks) :
    x.RunsInStep env env' later w w' := by
  -- By induction on the program; `ticks` starts with the times that both runs are still to see.
  induction hx generalizing w w' ticks with
  | done => exact ⟨rfl, hstep, rfl, hst.idle⟩
  | abort => exact ⟨rfl, hstep, rfl, hst.idle⟩
  | @draw st next _ ih =>
    obtain ⟨hreply, hnext⟩ := hstep.perform hsame (show Action.freshId.plain = true from rfl)
    have hle : w.drawn + 1 ≤ later.drawn :=
      Nat.le_trans (drawn_run env (next (env.ids w.drawn)) { w with drawn := w.drawn + 1 }) hlater
    exact .step_of_ne nofun hreply hticks hticks' (ih _ hnext (hst.draw hle) hlater)
  | @event e next _ ih =>
    obtain ⟨hreply, hnext⟩ :=
      hstep.callStore hsame (show (StoreCall.insertEvent e).overlooksMarks = true from rfl)
    have hst' : (Stage.after e).Holds env later (w.callStore env (.insertEvent e)).2 := by
      rw [World.callStore_eq]
      split
      · exact hst.refuse
      · exact hst.insert
    exact .step_of_ne nofun hreply hticks hticks' (ih _ hnext hst' hlater)
  | @attend tenant id entry next marks _ ih =>
    -- Each run goes on as if the hook had not accepted, in a world in step with what it was.
    have hentered : ∀ e ∈ w'.store.events, e.id = id → e.kind = .enter := by
      intro e he hid
      obtain ⟨e₀, he₀, hsame, hkind⟩ := hstep.exists_of_mem he
      exact hkind ▸ hst.event e₀ he₀ (hsame.trans hid)
    obtain ⟨v, hv, hrun, hstamps⟩ := @World.exists_run_attend env w _ _ _ entry _ marks hst.event
    obtain ⟨v', hv', hrun', hstamps'⟩ :=
      @World.exists_run_attend env' w' _ _ _ entry _ marks hentered
    have htold : World.InStep { w with entries := w.entries ++ [entry] }
        { w' with entries := w'.entries ++ [entry] } :=
      { hstep with entries := congrArg (· ++ [entry]) hstep.entries }
    have hst' := hst.mono (Nat.le_of_eq hv.drawn.symm) fun e he => hv.symm.exists_of_mem he
    rw [hrun] at hlater
    rw [hstamps] at hticks
    rw [hstamps'] at hticks'
    obtain ⟨hvalue, hworld, hrest, hfresh⟩ :=
      ih ((hv.trans htold).trans hv'.symm) hst' hlater hticks hticks'
    rw [← hrun] at hvalue hworld hfresh
    rw [← hrun'] at hvalue hworld
    exact ⟨hvalue, hworld, hstamps.trans (hrest.trans hstamps'.symm), hfresh⟩
  | @clock st next hnext ih =>
    have hstamps : ∀ env w, (Prog.step .readClock next).stamps env w =
        env.clock w.readings :: (next (env.clock w.readings)).stamps env
          { w with readings := w.readings + 1 } := by
      intro env w
      rw [stamps_step, (hnext _).marksNext]
      rfl
    -- The first time that the runs see from here on is the same.
    rw [hstamps] at hticks hticks'
    obtain ⟨rest, rfl, hseen⟩ := List.cons_prefix_iff.1 hticks
    obtain ⟨hclock, hseen'⟩ := List.cons_prefix_cons.1 hticks'
    rw [hclock] at hseen'
    have hread : World.InStep { w with readings := w.readings + 1 }
        { w' with readings := w'.readings + 1 } := { hstep with }
    have hst' : st.Holds env later { w with readings := w.readings + 1 } :=
      hst.mono (Nat.le_refl _) fun e he => ⟨e, he, rfl, rfl⟩
    refine .step hclock.symm (fun b => ?_) (ih _ hread hst' hlater hseen hseen')
    rw [World.stamp.eq_def, World.stamp.eq_def, hclock]
  | @aside st a next plain _ ih =>
    obtain ⟨hreply, hnext⟩ := hstep.perform hsame plain
    have hst' := hst.mono (w.drawn_perform env a)
      fun e he => ⟨e, World.mem_events_perform plain he, rfl, rfl⟩
    refine .step_of_ne ?_ hreply hticks hticks' (ih _ hnext hst' hlater)
    rintro rfl
    cases plain

end Prog

end Geofencing
