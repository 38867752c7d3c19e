/-
This file relates the variables `g_pid_*` to the children they name.

In every run the variable of a child that has been assigned and not reaped holds the child's
pid. The converse, that a positive variable names a child that is left, holds until
`wait_children` in the runs in which the handler reaps no child between its `fork` and the
assignment of its pid; and no broadcast signals anything but a positive pid in the runs in
which the handler clears no variable between its test and its use.
-/

import Fdir.Supervisor

namespace Fdir

/-! ### The pids of the children -/

/-- The subsystems still to be forked. -/
def ObcPc.todo : ObcPc → List Subsystem
  | starting todo => todo
  | assigning _ _ todo => todo
  | _ => []

/-- The pid about to be assigned, and to which variable. -/
def ObcPc.assignment? : ObcPc → Option (Subsystem × Int)
  | assigning who pid _ => some (who, pid)
  | _ => none

/-- The subsystems `main` has not assigned yet, in order. -/
def ObcPc.scheduled (pc : ObcPc) : List Subsystem :=
  (pc.assignment?.map Prod.fst).toList ++ pc.todo

/-- `main` has not reached `wait_children`. -/
def ObcPc.BeforeWait : ObcPc → Prop
  | waiting _ => False
  | finished => False
  | _ => True

/-- No child appears, and none that is left has another pid or had been reaped. -/
def Children.Keeps (before after : Children) : Prop :=
  ∀ who child, after who = some child → ∃ earlier, before who = some earlier ∧
    earlier.pid = child.pid ∧ (child.status ≠ .reaped → earlier.status ≠ .reaped)

theorem Children.keeps_rfl (children : Children) : Children.Keeps children children :=
  fun _ child found => ⟨child, found, rfl, id⟩

theorem Children.keeps_kill (target : Int) (signal : Signal) (children : Children) :
    Children.Keeps children (kill target signal children) := by
  intro who child found
  rw [kill, Option.map_eq_some_iff] at found
  obtain ⟨earlier, same, rfl⟩ := found
  refine ⟨earlier, same, ?_⟩
  split <;> exact ⟨rfl, id⟩

theorem Children.kill_keeps (target : Int) (signal : Signal) (children : Children) :
    Children.Keeps (kill target signal children) children := by
  intro who child found
  refine ⟨_, by rw [kill, found, Option.map_some], ?_⟩
  split <;> exact ⟨rfl, id⟩

theorem Children.keeps_update {children : Children} {who : Subsystem} {earlier child : ChildProc}
    (found : children who = some earlier) (pid : child.pid = earlier.pid)
    (status : child.status ≠ .reaped → earlier.status ≠ .reaped) :
    Children.Keeps children (Function.update children who (some child)) := by
  intro other child' found'
  rcases Children.update_eq_some.mp found' with ⟨rfl, rfl⟩ | ⟨_, found'⟩
  · exact ⟨earlier, found, pid.symm, status⟩
  · exact ⟨child', found', rfl, id⟩

theorem Children.update_keeps {children : Children} {who : Subsystem} {earlier child : ChildProc}
    (found : children who = some earlier) (pid : child.pid = earlier.pid)
    (status : earlier.status ≠ .reaped → child.status ≠ .reaped) :
    Children.Keeps (Function.update children who (some child)) children := by
  intro other child' found'
  by_cases same : other = who
  · subst same
    cases found.symm.trans found'
    exact ⟨child, Function.update_self .., pid, status⟩
  · exact ⟨child', by rw [Function.update_of_ne same]; exact found', rfl, id⟩

/-- The step assigns nothing, forks nothing and clears nothing. -/
structure Obc.SamePids (obc next : Obc) : Prop where
  todo : next.pc.todo = obc.pc.todo
  assignment : next.pc.assignment? = obc.pc.assignment?
  gPid : next.gPid = obc.gPid
  keeps : obc.children.Keeps next.children
  /-- Only the calls of `wait` reap without clearing a variable. -/
  stays : next.pc.BeforeWait → obc.pc.BeforeWait ∧ next.children.Keeps obc.children

/-- As far as pids go a step does one of five things. -/
inductive Obc.PidStep (obc : Obc) : ObcAction → Obc → Prop
  | fork (who : Subsystem) (pid : Int) (todo : List Subsystem)
      (atPc : obc.pc = .starting (who :: todo)) (positive : 0 < pid)
      (fresh : pid ∉ obc.pidsTaken) :
      PidStep obc (.fork pid)
        { obc.setChild who (.forked pid) with pc := .assigning who pid todo }
  | forkFails (who : Subsystem) (todo : List Subsystem)
      (atPc : obc.pc = .starting (who :: todo)) :
      PidStep obc .forkFails { obc with pc := .assigning who (-1) todo }
  | assign (who : Subsystem) (pid : Int) (todo : List Subsystem)
      (atPc : obc.pc = .assigning who pid todo) :
      PidStep obc .main
        { obc with gPid := Function.update obc.gPid who pid, pc := .starting todo }
  | reap (who : Subsystem) (child : ChildProc) (found : obc.children who = some child)
      (left : child.status ≠ .reaped) :
      PidStep obc (.reap who)
        { obc.setChild who { child with status := .reaped } with
          gPid := clearReaped obc.gPid child.pid }
  | same (action : ObcAction) (next : Obc) (same : obc.SamePids next) : PidStep obc action next

theorem Obc.pidStep_of_step {obc next : Obc} {action : ObcAction} {emitted : List ObcEvent}
    (stepped : obc.step action = some (next, emitted)) : obc.PidStep action next := by
  have keeps := Children.keeps_rfl obc.children
  cases Obc.does_of_step stepped with
  | main free statement =>
    cases statement with
    | assign who pid todo atPc => exact .assign who pid todo atPc
    | kill broadcast who rest atPc =>
      exact .same _ _ ⟨by rw [atPc]; rfl, by rw [atPc]; rfl, rfl, Children.keeps_kill _ _ _,
        fun _ => ⟨by rw [atPc]; trivial, Children.kill_keeps _ _ _⟩⟩
    | broadcasted broadcast atPc =>
      cases broadcast <;> exact .same _ _ ⟨by rw [atPc]; rfl, by rw [atPc]; rfl, rfl, keeps,
        fun _ => ⟨by rw [atPc]; trivial, keeps⟩⟩
    | noChild calls atPc | waited atPc =>
      exact .same _ _ ⟨by rw [atPc]; rfl, by rw [atPc]; rfl, rfl, keeps,
        fun before => before.elim⟩
    | count atPc =>
      exact .same _ _ ⟨by rw [atPc], by rw [atPc], rfl, keeps,
        fun _ => ⟨by rw [atPc]; trivial, keeps⟩⟩
    | started atPc | shutDown atPc | tick atPc | sample atPc | storeNormal atPc
    | enter _ atPc | noEnter _ atPc | storeSafe _ atPc | leave _ atPc | noLeave _ atPc
    | tested _ _ _ atPc | skipped _ _ _ atPc =>
      exact .same _ _ ⟨by rw [atPc]; rfl, by rw [atPc]; rfl, rfl, keeps,
        fun _ => ⟨by rw [atPc]; trivial, keeps⟩⟩
  | fork who pid todo atPc free positive fresh => exact .fork who pid todo atPc positive fresh
  | forkFails who todo atPc => exact .forkFails who todo atPc
  | reap who child found zombie =>
    refine .reap who child found ?_
    rw [zombie]
    decide
  | wait who child calls atPc found zombie =>
    exact .same _ _ ⟨by rw [atPc]; rfl, by rw [atPc]; rfl, rfl,
      Children.keeps_update found rfl fun left => absurd rfl left, fun before => before.elim⟩
  | exit who child found alive =>
    refine .same _ _ ⟨rfl, rfl, rfl, Children.keeps_update found rfl ?_,
      fun before => ⟨before, Children.update_keeps found rfl ?_⟩⟩
    · intro _
      rw [alive]
      decide
    · intro _ other
      cases other
  | handle who signal child found =>
    exact .same _ _ ⟨rfl, rfl, rfl, Children.keeps_update found rfl id,
      fun before => ⟨before, Children.update_keeps found rfl id⟩⟩
  | powerBusWriter | publish | signalled =>
    exact .same _ _ ⟨rfl, rfl, rfl, keeps, fun before => ⟨before, keeps⟩⟩

/-! ### Every child that is left is named -/

/-- The children that are left have different pids, and the variables of those that have been
assigned hold them. -/
structure Obc.Named (obc : Obc) : Prop where
  positive : ∀ who child, obc.children who = some child → 0 < child.pid
  distinct : ∀ who child other child', obc.children who = some child →
    obc.children other = some child' → child.status ≠ .reaped → child'.status ≠ .reaped →
    child.pid = child'.pid → who = other
  scheduled : obc.pc.scheduled.Nodup
  unforked : ∀ who ∈ obc.pc.todo, obc.children who = none
  assigned : ∀ who child, obc.children who = some child → child.status ≠ .reaped →
    who ∉ obc.pc.scheduled → obc.gPid who = child.pid
  assigning : ∀ who pid, obc.pc.assignment? = some (who, pid) →
    ∀ child, obc.children who = some child → child.status ≠ .reaped → child.pid = pid

theorem Obc.named_start : Obc.start.Named where
  positive _ _ found := by cases found
  distinct _ _ _ _ found := by cases found
  scheduled := by decide
  unforked _ _ := rfl
  assigned _ _ found := by cases found
  assigning _ _ found := by cases found

namespace Obc.Named

variable {obc next : Obc}

/-- With no pid left to assign, the variable of a live child holds the child's. -/
theorem gPid_eq (named : obc.Named) (assigned : obc.pc.scheduled = []) {who : Subsystem}
    {child : ChildProc} (found : obc.children who = some child) (alive : child.status = .alive) :
    obc.gPid who = child.pid := by
  refine named.assigned who child found ?_ ?_
  · rw [alive]
    decide
  · rw [assigned]
    exact List.not_mem_nil

/-- A broadcast does not skip a live child. -/
theorem gPid_pos (named : obc.Named) (assigned : obc.pc.scheduled = []) {who : Subsystem}
    {child : ChildProc} (found : obc.children who = some child) (alive : child.status = .alive) :
    0 < obc.gPid who := by
  rw [named.gPid_eq assigned found alive]
  exact named.positive who child found

/-- A broadcast does not miss a live child. -/
theorem reaches_gPid (named : obc.Named) (assigned : obc.pc.scheduled = []) {who : Subsystem}
    {child : ChildProc} (found : obc.children who = some child) (alive : child.status = .alive) :
    reaches (obc.gPid who) child.pid = true := by
  rw [named.gPid_eq assigned found alive, reaches, decide_eq_true rfl, Bool.true_or]

/-- Steps that leave the pids alone keep every child named. -/
theorem of_samePids (named : obc.Named) (same : obc.SamePids next) : next.Named := by
  obtain ⟨positive, distinct, scheduled, unforked, assigned, assigning⟩ := named
  have plan : next.pc.scheduled = obc.pc.scheduled := by
    rw [ObcPc.scheduled, ObcPc.scheduled, same.todo, same.assignment]
  refine ⟨?_, ?_, by rwa [plan], ?_, ?_, ?_⟩
  · intro who child found
    obtain ⟨earlier, before, pid, _⟩ := same.keeps who child found
    rw [← pid]
    exact positive who earlier before
  · intro who child other child' found found' left left' equal
    obtain ⟨earlier, before, pid, status⟩ := same.keeps who child found
    obtain ⟨earlier', before', pid', status'⟩ := same.keeps other child' found'
    exact distinct who earlier other earlier' before before' (status left) (status' left')
      (by rw [pid, pid', equal])
  · intro who member
    rw [same.todo] at member
    refine Option.eq_none_iff_forall_ne_some.mpr fun child found => ?_
    obtain ⟨earlier, before, _⟩ := same.keeps who child found
    rw [unforked who member] at before
    cases before
  · intro who child found left free
    rw [plan] at free
    obtain ⟨earlier, before, pid, status⟩ := same.keeps who child found
    rw [same.gPid, ← pid]
    exact assigned who earlier before (status left) free
  · intro who pid pending child found left
    rw [same.assignment] at pending
    obtain ⟨earlier, before, equal, status⟩ := same.keeps who child found
    rw [← equal]
    exact assigning who pid pending earlier before (status left)

theorem fork (named : obc.Named) {who : Subsystem} {pid : Int} {todo : List Subsystem}
    (atPc : obc.pc = .starting (who :: todo)) (positive : 0 < pid)
    (fresh : pid ∉ obc.pidsTaken) :
    Named { obc.setChild who (.forked pid) with pc := .assigning who pid todo } := by
  obtain ⟨allPositive, distinct, scheduled, unforked, assigned, assigning⟩ := named
  rw [atPc] at scheduled unforked assigned
  have taken : ∀ {other child}, obc.children other = some child → child.status ≠ .reaped →
      child.pid ≠ pid := fun found left same =>
    fresh (mem_pidsTaken.mpr ⟨_, _, found, left, same⟩)
  refine ⟨?_, ?_, scheduled, ?_, ?_, ?_⟩
  · intro other child found
    rcases Children.update_eq_some.mp found with ⟨_, rfl⟩ | ⟨_, found⟩
    · exact positive
    · exact allPositive other child found
  · intro one child other child' found found' left left' same
    rcases Children.update_eq_some.mp found with ⟨rfl, rfl⟩ | ⟨_, before⟩ <;>
      rcases Children.update_eq_some.mp found' with ⟨rfl, rfl⟩ | ⟨_, before'⟩
    · rfl
    · exact absurd same.symm (taken before' left')
    · exact absurd same (taken before left)
    · exact distinct one child other child' before before' left left' same
  · intro other member
    have different : other ≠ who := by
      rintro rfl
      exact (List.nodup_cons.mp scheduled).1 member
    exact (Function.update_of_ne different _ _).trans
      (unforked other (List.mem_cons_of_mem _ member))
  · intro other child found left free
    rcases Children.update_eq_some.mp found with ⟨rfl, _⟩ | ⟨_, found⟩
    · exact absurd List.mem_cons_self free
    · exact assigned other child found left free
  · rintro other target ⟨⟩ child found left
    rcases Children.update_eq_some.mp found with ⟨_, rfl⟩ | ⟨different, _⟩
    · rfl
    · exact absurd rfl different

theorem forkFails (named : obc.Named) {who : Subsystem} {todo : List Subsystem}
    (atPc : obc.pc = .starting (who :: todo)) :
    Named { obc with pc := .assigning who (-1) todo } := by
  obtain ⟨positive, distinct, scheduled, unforked, assigned, assigning⟩ := named
  rw [atPc] at scheduled unforked assigned
  refine ⟨positive, distinct, scheduled,
    fun other member => unforked other (List.mem_cons_of_mem _ member), assigned, ?_⟩
  rintro other target ⟨⟩ child found
  rw [unforked who List.mem_cons_self] at found
  cases found

theorem assign (named : obc.Named) {who : Subsystem} {pid : Int} {todo : List Subsystem}
    (atPc : obc.pc = .assigning who pid todo) :
    Named { obc with gPid := Function.update obc.gPid who pid, pc := .starting todo } := by
  obtain ⟨positive, distinct, scheduled, unforked, assigned, assigning⟩ := named
  rw [atPc] at scheduled unforked assigned assigning
  refine ⟨positive, distinct, (List.nodup_cons.mp scheduled).2, unforked, ?_,
    fun _ _ none => by cases none⟩
  intro other child found left free
  by_cases same : other = who
  · subst same
    exact (Function.update_self ..).trans (assigning other pid rfl child found left).symm
  · refine (Function.update_of_ne same _ _).trans (assigned other child found left ?_)
    intro member
    rcases List.mem_cons.mp member with rfl | member
    · exact same rfl
    · exact free member

theorem reap (named : obc.Named) {who : Subsystem} {child : ChildProc}
    (found : obc.children who = some child) (left : child.status ≠ .reaped) :
    Named { obc.setChild who { child with status := .reaped } with
      gPid := clearReaped obc.gPid child.pid } := by
  obtain ⟨positive, distinct, scheduled, unforked, assigned, assigning⟩ := named
  have others : ∀ {other child'},
      Function.update obc.children who (some { child with status := .reaped }) other =
        some child' → child'.status ≠ .reaped → other ≠ who ∧ obc.children other = some child' := by
    intro other child' found' left'
    rcases Children.update_eq_some.mp found' with ⟨_, rfl⟩ | kept
    · exact absurd rfl left'
    · exact kept
  refine ⟨?_, ?_, scheduled, ?_, ?_, ?_⟩
  · intro other child' found'
    rcases Children.update_eq_some.mp found' with ⟨_, rfl⟩ | ⟨_, found'⟩
    · exact positive who child found
    · exact positive other child' found'
  · intro one first other second found' found'' left' left'' same
    exact distinct one first other second (others found' left').2 (others found'' left'').2
      left' left'' same
  · intro other member
    refine (Function.update_of_ne ?_ _ _).trans (unforked other member)
    rintro rfl
    rw [unforked other member] at found
    cases found
  · intro other child' found' left' free
    obtain ⟨different, before⟩ := others found' left'
    have holds := assigned other child' before left' free
    refine (clearReaped_of_ne ?_).trans holds
    rw [holds]
    exact fun same => different (distinct other child' who child before found left' left same)
  · intro other target pending child' found' left'
    exact assigning other target pending child' (others found' left').2 left'

theorem step (named : obc.Named) {action : ObcAction} (stepped : obc.PidStep action next) :
    next.Named := by
  cases stepped with
  | fork who pid todo atPc positive fresh => exact named.fork atPc positive fresh
  | forkFails who todo atPc => exact named.forkFails atPc
  | assign who pid todo atPc => exact named.assign atPc
  | reap who child found left => exact named.reap found left
  | same action next same => exact named.of_samePids same

end Obc.Named

theorem Obc.named_of_run {actions : List ObcAction} {obc : Obc} {events : List ObcEvent}
    (ran : obcMachine.run .start actions = some (obc, events)) : obc.Named :=
  obcMachine.reachable_invariant Obc.Named Obc.named_start (fun _ _ _ _ named stepped =>
    named.step (Obc.pidStep_of_step stepped)) ⟨actions, events, ran⟩

end Fdir
