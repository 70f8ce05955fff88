import Brokerage.Http.Server
import Brokerage.Proofs.Directory
import Brokerage.Proofs.Runs

/-! # Requests that are given up

A request that is answered with a timeout goes on by itself if it creates or deletes a router. A
dialogue that was left at a delay comes to the end that it would have come to with somebody waiting,
at the same time and in the same state (`Http.Api.abandoned_as_finished`): standing still takes time
but changes nothing, and whoever waits adds nothing to what is asked.
-/

namespace Brokerage

/-! ## Faults are used up -/

namespace Faults

/-- How often faults are still to hit, entry by entry. -/
def due : List (String × Fault × Nat) → Nat
  | [] => 0
  | e :: rest => e.2.2 + due rest

theorem remaining_eq (faults : Faults) : faults.remaining = due faults.entries := by
  have counted : ∀ (entries : List (String × Fault × Nat)) (n : Nat),
      entries.foldl (fun count e => count + e.2.2) n = n + due entries := by
    intro entries
    induction entries with
    | nil => simp [due]
    | cons e rest ih =>
        intro n
        rw [List.foldl_cons, ih]
        simp [due]
        omega
  rw [remaining, counted, Nat.zero_add]

theorem due_insertEntry {key : String} {fault : Fault} {times : Nat}
    {entries : List (String × Fault × Nat)}
    (waiting : entries.lookup key = some (fault, times + 1))
    (ascending : entries.Pairwise fun a b => a.1 < b.1) :
    due (Dict.insertEntry key (fault, times) entries) + 1 = due entries := by
  induction entries with
  | nil => cases waiting
  | cons e rest ih =>
      obtain ⟨k, f, n⟩ := e
      obtain ⟨first, ascending⟩ := List.pairwise_cons.1 ascending
      rcases Dict.first_or_later first (by rw [waiting]; rfl) with rfl | later
      · simp only [List.lookup_cons_self, Option.some.injEq, Prod.mk.injEq] at waiting
        obtain ⟨rfl, rfl⟩ := waiting
        simp [Dict.insertEntry, due]
        omega
      · have apart : ¬ key = k := fun same => String.lt_irrefl k (same ▸ later)
        have above : ¬ key < k := fun below => String.lt_irrefl k (String.lt_trans later below)
        rw [List.lookup_cons, beq_false_of_ne apart] at waiting
        have less := ih waiting ascending
        simp only [Dict.insertEntry, if_neg above, if_neg apart, due] at less ⊢
        omega

theorem remaining_strike {faults : Faults} {point : String} {fault : Fault}
    (hit : (faults.strike point).1 = some fault) :
    (faults.strike point).2.remaining + 1 = faults.remaining := by
  unfold strike at hit ⊢
  split at hit
  · rename_i waiting
    rw [remaining_eq, remaining_eq]
    exact due_insertEntry waiting faults.ascending
  · cases hit

theorem remaining_strike_le (faults : Faults) (point : String) :
    (faults.strike point).2.remaining ≤ faults.remaining := by
  cases hit : (faults.strike point).1 with
  | some fault =>
      have := remaining_strike hit
      omega
  | none =>
      unfold strike at hit ⊢
      split at hit
      · cases hit
      · exact Nat.le_refl _

end Faults

namespace State

variable {s : State} {e : Effect}

theorem settle_faults (s : State) (e : Effect) (hit : Option Fault) :
    (s.settle e hit).2.faults = s.faults := by
  have kept : (s.answer e).2.faults = s.faults :=
    congrArg (·.2.faults) (s.answer_recorded e s.faults s.journal)
  cases hit with
  | none => exact kept
  | some fault =>
      cases fault with
      | fail cause | panic message => rfl
      | delay milliseconds => exact kept

theorem meet_remaining_le (s : State) (e : Effect) :
    (s.meet e).2.faults.remaining ≤ s.faults.remaining := by
  unfold meet
  cases e.point? with
  | none => exact Nat.le_refl _
  | some point => exact Faults.remaining_strike_le _ point

theorem meet_remaining {fault : Fault} (hit : (s.meet e).1 = some fault) :
    (s.meet e).2.faults.remaining + 1 = s.faults.remaining := by
  unfold meet at hit ⊢
  cases passed : e.point? with
  | none =>
      rw [passed] at hit
      cases hit
  | some point =>
      rw [passed] at hit
      exact Faults.remaining_strike hit

end State

namespace Timeline

variable {α : Type} {d : Dialogue Effect Effect.Outcome α} {t : Timeline} {time fuel : Nat}

/-! ## Standing still -/

/-- When a dialogue ends that begins at a time in a state, if nobody else does anything. -/
def doneBy : Dialogue Effect Effect.Outcome α → Nat → State → Nat
  | .done _, clock, _ => clock
  | .ask e next, clock, s =>
    let (fault, met) := s.meet e
    let (outcome, settled) := met.settle e fault
    let clock :=
      match fault with
      | some (.delay milliseconds) => clock + milliseconds
      | _ => clock
    doneBy (next outcome) clock settled

theorem le_doneBy (d : Dialogue Effect Effect.Outcome α) (clock : Nat) (s : State) :
    clock ≤ doneBy d clock s := by
  induction d generalizing clock s with
  | done value => exact Nat.le_refl _
  | ask e next ih =>
      rw [doneBy]
      refine Nat.le_trans ?_ (ih _ _ _)
      split
      · exact Nat.le_add_right _ _
      · exact Nat.le_refl _

/-- Whether a dialogue stands still before an effect, or what comes of the effect at once. -/
theorem proceed_ask (e : Effect) (next : e.Outcome → Dialogue Effect Effect.Outcome α)
    (t : Timeline) :
    (∃ milliseconds s,
      proceed (.ask e next) t = (.inr ⟨t.clock + milliseconds, e, next⟩, { t with state := s }) ∧
      (s.settle e none).2.faults.remaining + 1 = t.state.faults.remaining ∧
      t.state.perform e = s.settle e none ∧
      doneBy (.ask e next) t.clock t.state =
        doneBy (next (s.settle e none).1) (t.clock + milliseconds) (s.settle e none).2) ∨
    (proceed (.ask e next) t =
        proceed (next (t.state.perform e).1) { t with state := (t.state.perform e).2 } ∧
      (t.state.perform e).2.faults.remaining ≤ t.state.faults.remaining ∧
      doneBy (.ask e next) t.clock t.state =
        doneBy (next (t.state.perform e).1) t.clock (t.state.perform e).2) := by
  have less := t.state.meet_remaining_le e
  have spent : ∀ fault, (t.state.meet e).1 = some fault →
      (t.state.meet e).2.faults.remaining + 1 = t.state.faults.remaining :=
    fun _ => State.meet_remaining
  simp only [proceed, doneBy, State.perform, State.settle_faults]
  rcases met : t.state.meet e with ⟨fault, s⟩
  rw [met] at spent less
  cases fault with
  | none => exact .inr ⟨rfl, less, rfl⟩
  | some fault =>
      cases fault with
      | fail cause | panic message => exact .inr ⟨rfl, less, rfl⟩
      | delay milliseconds => exact .inl ⟨milliseconds, s, rfl, spent _ rfl, rfl, rfl⟩

/-- No task is due by a time. -/
def Spare (t : Timeline) (time : Nat) : Prop := ∀ task ∈ t.tasks, time < task.due

theorem mem_of_earliest? {tasks : List Task} {task : Task} (h : earliest? tasks = some task) :
    task ∈ tasks := by
  induction tasks with
  | nil => cases h
  | cons first rest ih =>
      rw [earliest?] at h
      split at h
      · rename_i other found
        split at h
        · cases h
          exact List.mem_cons_of_mem _ (ih found)
        · cases h
          exact List.mem_cons_self
      · cases h
        exact List.mem_cons_self

/-- Tasks go on after one of them stood still again or ended. -/
def goOn (fuel time : Nat) : (Unit ⊕ Task) × Timeline → Timeline
  | (.inl (), t) => settleTasks fuel time t
  | (.inr again, t) => settleTasks fuel time { t with tasks := t.tasks ++ [again] }

theorem settleTasks_due {task : Task} (found : earliest? t.tasks = some task)
    (due : ¬ time < task.due) :
    settleTasks (fuel + 1) time t = goOn fuel time (resume task
      { t with clock := max t.clock task.due, tasks := dropDue task.due t.tasks }) := by
  rw [settleTasks, found]
  simp only [if_neg due]
  unfold goOn
  split <;> rename_i ended <;> rw [ended]

theorem settleTasks_spare (spare : t.Spare time) : settleTasks fuel time t = t := by
  cases fuel with
  | zero => rfl
  | succ fuel =>
      rw [settleTasks]
      split
      · rfl
      · rename_i task found
        rw [if_pos (spare task (mem_of_earliest? found))]

theorem advance_spare (spare : t.Spare time) :
    t.advance time = { t with clock := max t.clock time } := by
  rw [advance, settleTasks_spare spare]

/-- When a procedure ends that begins now. -/
def procedureDoneBy (t : Timeline) (p : Procedure α) : Nat := doneBy (ExceptT.run p) t.clock t.state

/-! ## With somebody waiting -/

/-- A timeline in another state at another time. -/
def move (t : Timeline) (s : State) (clock : Nat) : Timeline := { t with state := s, clock }

/-- What waiting comes down to at a delay: time passes, and the dialogue goes on. -/
theorem resume_advance {rest : Suspended α} (spare : t.Spare rest.due)
    (behind : t.clock ≤ rest.due) :
    resume rest (t.advance rest.due) =
      proceed (rest.next (t.state.settle rest.effect none).1)
        (t.move (t.state.settle rest.effect none).2 rest.due) := by
  rw [advance_spare spare, Nat.max_eq_right behind]
  rfl

/-- A dialogue that stands still comes to an end in a state at a time, once it goes on. -/
structure Comes (rest : Suspended α) (s final : State) (finish : Nat) : Prop where
  state : ((rest.next (s.settle rest.effect none).1).run State.perform
    (s.settle rest.effect none).2).2 = final
  time : doneBy (rest.next (s.settle rest.effect none).1) rest.due
    (s.settle rest.effect none).2 = finish

theorem Comes.due_le {rest : Suspended α} {s final : State} {finish : Nat}
    (h : Comes rest s final finish) : rest.due ≤ finish :=
  h.time ▸ le_doneBy _ _ _

/-- Whoever waits until a dialogue goes on waits for what comes then. -/
theorem await_resumed {deadline : Option Nat} {rest : Suspended α}
    (patient : ∀ limit ∈ deadline, rest.due ≤ limit) :
    await deadline (fuel + 1) (.inr rest) t =
      await deadline fuel (resume rest (t.advance rest.due)).1
        (resume rest (t.advance rest.due)).2 := by
  cases deadline with
  | none => rfl
  | some limit => exact if_neg (Nat.not_lt.2 (patient limit rfl))

/-- Waiting comes to the end that a plain run comes to, delays aside; or it is given up at a
deadline, and what is left comes to that end. -/
theorem await_proceed (deadline : Option Nat) (d : Dialogue Effect Effect.Outcome α) (t : Timeline)
    (fuel : Nat) (enough : t.state.faults.remaining ≤ fuel)
    (spare : t.Spare (doneBy d t.clock t.state)) :
    await deadline fuel (proceed d t).1 (proceed d t).2 =
        (.finished (d.run State.perform t.state).1,
          t.move (d.run State.perform t.state).2 (doneBy d t.clock t.state)) ∨
      deadline.isSome ∧ ∃ rest s clock, await deadline fuel (proceed d t).1 (proceed d t).2 =
          (.left rest, t.move s clock) ∧ clock ≤ rest.due ∧
        Comes rest s (d.run State.perform t.state).2 (doneBy d t.clock t.state) := by
  induction d generalizing t fuel with
  | done value =>
      left
      cases fuel <;> rfl
  | ask e next ih =>
      rw [Dialogue.run]
      rcases proceed_ask e next t with ⟨ms, s, stands, spent, performed, done⟩ |
        ⟨goes, less, done⟩
      · -- Standing still has spent a fault, so the bound allows one more wait.
        obtain ⟨fuel, rfl⟩ : ∃ n, fuel = n + 1 := ⟨fuel - 1, by omega⟩
        rw [done] at spare ⊢
        have due := le_doneBy (next (s.settle e none).1) (t.clock + ms) (s.settle e none).2
        have later : Spare { t with state := s } (t.clock + ms) :=
          fun task member => Nat.lt_of_le_of_lt due (spare task member)
        rw [stands, performed]
        by_cases patient : ∀ limit ∈ deadline, t.clock + ms ≤ limit
        · have left : (s.settle e none).2.faults.remaining ≤ fuel := by omega
          rw [await_resumed patient, resume_advance later (Nat.le_add_right _ _)]
          exact ih _ (t.move _ _) fuel left spare
        · obtain ⟨limit, rfl, early⟩ : ∃ limit, deadline = some limit ∧ limit < t.clock + ms := by
            simpa using patient
          have idle : Spare { t with state := s } limit :=
            fun task member => Nat.lt_trans early (later task member)
          refine .inr ⟨rfl, ⟨t.clock + ms, e, next⟩, s, max t.clock limit, ?_, ?_, rfl, rfl⟩
          · rw [await, if_pos early, advance_spare idle]
            rfl
          · exact Nat.max_le.2 ⟨Nat.le_add_right _ _, Nat.le_of_lt early⟩
      · rw [done] at spare ⊢
        rw [goes]
        exact ih _ (t.move _ _) fuel (Nat.le_trans less enough) spare

theorem proceed_clock (d : Dialogue Effect Effect.Outcome α) (t : Timeline) :
    (proceed d t).2.clock = t.clock := by
  induction d generalizing t with
  | done value => rfl
  | ask e next ih =>
      rcases proceed_ask e next t with ⟨ms, s, stands, _⟩ | ⟨goes, _⟩
      · rw [stands]
      · rw [goes]
        exact ih _ _

theorem resume_clock (rest : Suspended α) (t : Timeline) : (resume rest t).2.clock = t.clock :=
  proceed_clock _ _

theorem clock_le_settleTasks (fuel time : Nat) (t : Timeline) :
    t.clock ≤ (settleTasks fuel time t).clock := by
  induction fuel generalizing t with
  | zero => exact Nat.le_refl _
  | succ fuel ih =>
      cases found : earliest? t.tasks with
      | none => simp [settleTasks, found]
      | some task =>
          by_cases early : time < task.due
          · simp [settleTasks, found, early]
          · rw [settleTasks_due found early]
            have same := resume_clock task
              { t with clock := max t.clock task.due, tasks := dropDue task.due t.tasks }
            have later := Nat.le_trans (Nat.le_max_left t.clock task.due) (Nat.le_of_eq same.symm)
            unfold goOn
            split
            · rename_i u ended
              rw [ended] at later
              exact Nat.le_trans later (ih u)
            · rename_i again u ended
              rw [ended] at later
              exact Nat.le_trans later (ih { u with tasks := u.tasks ++ [again] })

theorem clock_le_advance (time : Nat) (t : Timeline) : t.clock ≤ (t.advance time).clock :=
  Nat.le_trans (clock_le_settleTasks _ _ t) (Nat.le_max_left _ _)

theorem clock_le_await (fuel : Nat) (step : α ⊕ Suspended α) (t : Timeline) :
    t.clock ≤ (await none fuel step t).2.clock := by
  induction fuel generalizing step t with
  | zero => cases step <;> exact Nat.le_refl _
  | succ fuel ih =>
      cases step with
      | inl value => exact Nat.le_refl _
      | inr rest =>
          have same := resume_clock rest (t.advance rest.due)
          have more := ih (resume rest (t.advance rest.due)).1 (resume rest (t.advance rest.due)).2
          exact Nat.le_trans (Nat.le_trans (clock_le_advance _ t) (Nat.le_of_eq same.symm)) more

/-- A dialogue is done by the time at which whoever waits for it sees its end. -/
theorem doneBy_le (d : Dialogue Effect Effect.Outcome α) (t : Timeline) (fuel : Nat)
    (enough : t.state.faults.remaining ≤ fuel) (spare : t.Spare time)
    (ended : (await none fuel (proceed d t).1 (proceed d t).2).2.clock ≤ time) :
    doneBy d t.clock t.state ≤ time := by
  induction d generalizing t fuel with
  | done value => cases fuel <;> exact ended
  | ask e next ih =>
      rcases proceed_ask e next t with ⟨ms, s, stands, spent, performed, done⟩ |
        ⟨goes, less, done⟩
      · obtain ⟨fuel, rfl⟩ : ∃ n, fuel = n + 1 := ⟨fuel - 1, by omega⟩
        rw [stands, await] at ended
        -- The clock never goes back, so the wait that is over by the time began before it.
        have due : t.clock + ms ≤ time := by
          let u := ({ t with state := s } : Timeline).advance (t.clock + ms)
          have least : t.clock + ms ≤ u.clock := Nat.le_max_right _ _
          have same := resume_clock ⟨t.clock + ms, e, next⟩ u
          have more : (resume ⟨t.clock + ms, e, next⟩ u).2.clock ≤ time :=
            Nat.le_trans (clock_le_await fuel (resume ⟨t.clock + ms, e, next⟩ u).1 _) ended
          omega
        have later : Spare { t with state := s } (t.clock + ms) :=
          fun task member => Nat.lt_of_le_of_lt due (spare task member)
        have left : (s.settle e none).2.faults.remaining ≤ fuel := by omega
        rw [resume_advance later (Nat.le_add_right _ _)] at ended
        rw [done]
        exact ih _ (t.move _ _) fuel left spare ended
      · rw [done]
        rw [goes] at ended
        exact ih _ (t.move _ _) fuel (Nat.le_trans less enough) spare ended

/-! ## With nobody waiting -/

theorem earliest?_append {tasks : List Task} {task : Task}
    (spare : ∀ other ∈ tasks, task.due < other.due) :
    earliest? (tasks ++ [task]) = some task := by
  induction tasks with
  | nil => rfl
  | cons first rest ih =>
      have later := ih fun other member => spare other (List.mem_cons_of_mem _ member)
      rw [List.cons_append, earliest?, later]
      exact if_pos (spare first List.mem_cons_self)

theorem dropDue_append {tasks : List Task} {task : Task}
    (spare : ∀ other ∈ tasks, task.due < other.due) :
    dropDue task.due (tasks ++ [task]) = tasks := by
  induction tasks with
  | nil => exact if_pos rfl
  | cons first rest ih =>
      have later := ih fun other member => spare other (List.mem_cons_of_mem _ member)
      have apart : first.due ≠ task.due := by
        have := spare first List.mem_cons_self
        omega
      rw [List.cons_append, dropDue, if_neg apart, later]

theorem settleTasks_append {task : Task} (spare : t.Spare time) (due : task.due ≤ time)
    (behind : t.clock ≤ task.due) :
    settleTasks (fuel + 1) time { t with tasks := t.tasks ++ [task] } =
      goOn fuel time (proceed (task.next (t.state.settle task.effect none).1)
        (t.move (t.state.settle task.effect none).2 task.due)) := by
  have others : ∀ other ∈ t.tasks, task.due < other.due :=
    fun other member => Nat.lt_of_le_of_lt due (spare other member)
  have resumed : resume task { t with clock := task.due } =
      proceed (task.next (t.state.settle task.effect none).1)
        (t.move (t.state.settle task.effect none).2 task.due) := rfl
  rw [settleTasks_due (earliest?_append others) (Nat.not_lt.2 due), dropDue_append others]
  simp only [Nat.max_eq_right behind, resumed]

/-- A dialogue that nobody waits for comes to its end by the time that it takes. -/
theorem goOn_proceed (d : Dialogue Effect Effect.Outcome Unit) (t : Timeline) (fuel : Nat)
    (enough : t.state.faults.remaining ≤ fuel) (spare : t.Spare time)
    (done : doneBy d t.clock t.state ≤ time) :
    goOn fuel time (proceed d t) =
      t.move (d.run State.perform t.state).2 (doneBy d t.clock t.state) := by
  induction d generalizing t fuel with
  | done value => exact settleTasks_spare spare
  | ask e next ih =>
      rw [Dialogue.run]
      rcases proceed_ask e next t with ⟨ms, s, stands, spent, performed, same⟩ |
        ⟨goes, less, same⟩
      · obtain ⟨fuel, rfl⟩ : ∃ n, fuel = n + 1 := ⟨fuel - 1, by omega⟩
        rw [same] at done ⊢
        have due := Nat.le_trans (le_doneBy _ _ _) done
        have idle : Spare { t with state := s } time := spare
        have left : (s.settle e none).2.faults.remaining ≤ fuel := by omega
        rw [stands, performed]
        refine (settleTasks_append idle due (Nat.le_add_right _ _)).trans ?_
        exact ih _ (t.move _ _) fuel left spare done
      · rw [same] at done ⊢
        rw [goes]
        exact ih _ (t.move _ _) fuel (Nat.le_trans less enough) spare done

theorem doneBy_forget (d : Dialogue Effect Effect.Outcome α) (clock : Nat) (s : State) :
    doneBy (d.bind fun _ => .done ()) clock s = doneBy d clock s := by
  induction d generalizing clock s with
  | done value => rfl
  | ask e next ih => exact ih _ _ _

/-- What was left comes to its end although nobody waits. -/
theorem advance_detach {rest : Suspended α} {final : State} {finish : Nat} (spare : t.Spare time)
    (behind : t.clock ≤ rest.due) (comes : Comes rest t.state final finish) (done : finish ≤ time) :
    (t.detach rest).advance time = t.move final (max finish time) := by
  let task : Task := ⟨rest.due, rest.effect, fun outcome =>
    (rest.next outcome).bind fun _ => .done ()⟩
  have parts : t.detach rest = { t with tasks := t.tasks ++ [task] } := rfl
  have state : ((task.next (t.state.settle rest.effect none).1).run State.perform
      (t.state.settle rest.effect none).2).2 = final := by
    rw [← comes.state]
    exact congrArg Prod.snd (Dialogue.run_bind State.perform _ _ _)
  have finished : doneBy (task.next (t.state.settle rest.effect none).1) rest.due
      (t.state.settle rest.effect none).2 = finish := (doneBy_forget _ _ _).trans comes.time
  have enough : (t.state.settle rest.effect none).2.faults.remaining ≤
      (t.tasks ++ [task]).length + t.state.faults.remaining := by
    rw [State.settle_faults]
    omega
  have went := goOn_proceed (task.next (t.state.settle rest.effect none).1)
    (t.move (t.state.settle rest.effect none).2 rest.due) _ enough spare
    (Nat.le_trans (Nat.le_of_eq finished) done)
  have settled : settleTasks ((t.tasks ++ [task]).length + t.state.faults.remaining + 1) time
      { t with tasks := t.tasks ++ [task] } = t.move final finish :=
    (settleTasks_append spare (Nat.le_trans comes.due_le done) behind).trans
      (went.trans (congrArg₂ t.move state finished))
  rw [parts, advance, settled]
  rfl

end Timeline

namespace Http.Api

variable {registry : Registry} {newId : String} {r : Request} {target : Target} {h : Handler}
  {t : Timeline} {time : Nat}

def timedOut : Response := .bare 408

/-- A request that creates a router or deletes one. -/
def Mutates (r : Request) (target : Target) : Prop :=
  r.method = "POST" ∧ Route.ofSegments? target.segments = some .routers ∨
    r.method = "DELETE" ∧ ∃ id, Route.ofSegments? target.segments = some (.router id)

theorem readBody_status {α : Type} {item : Decoder α} {refusal : Response}
    (h : Command.readBody r item = .error refusal) : refusal.status ≠ 408 := by
  unfold Command.readBody at h
  split at h
  · split at h <;> cases h <;> decide
  · cases h
    decide

theorem ofRequest_known {route : Route} (found : Route.ofSegments? target.segments = some route)
    (whole : r.method ≠ "HEAD") (known : r.method ∈ Command.methods route) :
    Command.ofRequest r target = Command.ofRoute r target route r.method := by
  have allowed : (Command.methods route).contains r.method = true := by simpa using known
  simp only [Command.ofRequest, found, if_neg whole, bind, Except.bind, allowed]
  rfl

theorem ofRoute_create : Command.ofRoute r target .routers "POST" =
    (Command.readBody r Router.Request.decoder).map .create := by
  simp only [Command.ofRoute, Route.parameter?]
  cases Command.readBody r Router.Request.decoder <;> rfl

theorem ofRoute_delete (id : List Char) : Command.ofRoute r target (.router id) "DELETE" =
    match Percent.decode? id with
    | some text => .ok (.delete text)
    | none => .error (.text 400 "Invalid UTF-8 in a path parameter") := by
  simp only [Command.ofRoute, Route.parameter?, Option.map_some]
  cases Percent.decode? id <;> rfl

theorem ofRequest_mutates (h : Mutates r target) :
    (∃ command, Command.ofRequest r target = .ok command ∧
      ((∃ request, command = .create request) ∨ ∃ id, command = .delete id)) ∨
    ∃ refusal, Command.ofRequest r target = .error refusal ∧ refusal.status ≠ 408 := by
  rcases h with ⟨post, route⟩ | ⟨delete, id, route⟩
  · rw [ofRequest_known route (by simp [post]) (by simp [post, Command.methods]), post,
      ofRoute_create]
    cases read : Command.readBody r Router.Request.decoder with
    | ok request => exact .inl ⟨_, rfl, .inl ⟨request, rfl⟩⟩
    | error refusal => exact .inr ⟨refusal, rfl, readBody_status read⟩
  · rw [ofRequest_known route (by simp [delete]) (by simp [delete, Command.methods]), delete,
      ofRoute_delete]
    cases Percent.decode? id with
    | some text => exact .inl ⟨_, rfl, .inr ⟨text, rfl⟩⟩
    | none => exact .inr ⟨_, rfl, by decide⟩

theorem status_ne_timeout (e : Error) : e.status ≠ 408 := by
  unfold Error.status
  split
  case h_4 => split <;> decide
  all_goals decide

theorem answerTo_status {α : Type} {p : Procedure α} {answer : α → Response}
    (plain : ∀ value, (answer value).status ≠ 408) (s : State) :
    (s.run (answerTo p answer)).1 ≠ .ok timedOut := by
  have run : s.run (answerTo p answer) = _ :=
    State.runUnder_bind_ok (State.runUnder_outcome (·.faults) p s)
  rw [run]
  intro same
  cases ended : (s.runUnder (·.faults) p).1 with
  | ok value =>
      rw [ended] at same
      exact plain value (congrArg Response.status (Except.ok.inj same))
  | error failure =>
      rw [ended] at same
      cases failure with
      | error e => exact status_ne_timeout e (congrArg Response.status (Except.ok.inj same))
      | panic message => cases same

/-- No answer of such a request but the timeout has its status. -/
theorem handle_mutates (registry : Registry) (newId : String) (asked : Mutates r target) :
    ((handle registry newId r target).detached = true ∨
      ∃ response, (handle registry newId r target).procedure = pure response) ∧
    ∀ s : State, (s.run (handle registry newId r target).procedure).1 ≠ .ok timedOut := by
  have whole : r.method ≠ "HEAD" := by
    rcases asked with ⟨post, _⟩ | ⟨delete, _⟩
    · simp [post]
    · simp [delete]
  unfold handle
  rcases ofRequest_mutates asked with ⟨command, known, kind⟩ | ⟨refusal, refused, status⟩
  · rw [known]
    simp only [if_neg whole, id_map']
    rcases kind with ⟨request, rfl⟩ | ⟨id, rfl⟩
    · exact ⟨.inl rfl, answerTo_status fun router => by simp [Response.json]⟩
    · exact ⟨.inl rfl, answerTo_status fun _ => by simp [Response.bare]⟩
  · rw [refused]
    simp only [if_neg whole]
    refine ⟨.inr ⟨refusal, rfl⟩, ?_⟩
    intro s same
    exact status (congrArg Response.status (Except.ok.inj same))

variable {limit : Option Duration} {u : Timeline}

theorem serve_finished (h : Handler) (limit : Option Duration) {result : Except Failure Response}
    (ran : t.run (limit.map fun d => t.clock + d.milliseconds) h.procedure =
      (.finished result, u)) :
    h.serve limit t = (result, u) := by
  simp only [Handler.serve, ran]

theorem serve_left (h : Handler) (limit : Option Duration)
    {rest : Suspended (Except Failure Response)}
    (ran : t.run (limit.map fun d => t.clock + d.milliseconds) h.procedure = (.left rest, u)) :
    h.serve limit t = (.ok timedOut, if h.detached then u.detach rest else u) := by
  simp only [Handler.serve, ran]
  rfl

theorem serve_clock (h : Handler) (limit : Option Duration) (t : Timeline) :
    (h.serve limit t).2.clock =
      (t.run (limit.map fun d => t.clock + d.milliseconds) h.procedure).2.clock := by
  rcases ran : t.run (limit.map fun d => t.clock + d.milliseconds) h.procedure with ⟨ending, u⟩
  cases ending with
  | finished result => rw [serve_finished h limit ran, ran]
  | left rest =>
      rw [serve_left h limit ran, ran]
      split <;> rfl

/-- With somebody waiting a request comes to the end of a plain run. -/
theorem serve_none (h : Handler) (spare : t.Spare (t.procedureDoneBy h.procedure)) :
    h.serve none t = ((t.state.run h.procedure).1,
      t.move (t.state.run h.procedure).2 (t.procedureDoneBy h.procedure)) := by
  rcases Timeline.await_proceed none (ExceptT.run h.procedure) t t.state.faults.remaining
      (Nat.le_refl _) spare with ran | ⟨given, _⟩
  · exact serve_finished h none ran
  · cases given

/-- A request that is given up is carried out all the same: once it is over, the state is the one
that it leaves with somebody waiting. -/
theorem abandoned_as_finished (asked : Mutates r target) {limit : Duration}
    (late : ((handle registry newId r target).serve (some limit) t).1 = .ok timedOut)
    (alone : ∀ task ∈ t.tasks, time < task.due)
    (ended : ((handle registry newId r target).serve none t).2.clock ≤ time) :
    let left := ((handle registry newId r target).serve (some limit) t).2.advance time
    let kept := ((handle registry newId r target).serve none t).2
    left.state = kept.state ∧
      kept.state = (t.state.run (handle registry newId r target).procedure).2 ∧
      left.tasks = t.tasks ∧ kept.tasks = t.tasks := by
  obtain ⟨goesOn, plain⟩ := handle_mutates registry newId asked
  generalize handle registry newId r target = h at late ended goesOn plain ⊢
  intro left kept
  have done : t.procedureDoneBy h.procedure ≤ time := by
    rw [serve_clock] at ended
    exact Timeline.doneBy_le (ExceptT.run h.procedure) t t.state.faults.remaining (Nat.le_refl _)
      alone ended
  have spare : t.Spare (t.procedureDoneBy h.procedure) :=
    fun task member => Nat.lt_of_le_of_lt done (alone task member)
  have waited : kept = t.move (t.state.run h.procedure).2 (t.procedureDoneBy h.procedure) :=
    congrArg Prod.snd (serve_none h spare)
  rcases Timeline.await_proceed (some (t.clock + limit.milliseconds)) (ExceptT.run h.procedure) t
      t.state.faults.remaining (Nat.le_refl _) spare with
    ran | ⟨_, rest, s, clock, ran, behind, comes⟩
  · have answered := serve_finished h (some limit) ran
    rw [answered] at late
    exact absurd late (plain t.state)
  · have answered := serve_left h (some limit) ran
    -- What is refused at once never stands still, so what was left is on its own now.
    have unattended : h.detached = true := by
      rcases goesOn with detached | ⟨response, immediate⟩
      · exact detached
      · rw [immediate] at ran
        cases remaining : t.state.faults.remaining <;> rw [remaining] at ran <;> cases ran
    have settled : left = t.move (t.state.run h.procedure).2
        (max (t.procedureDoneBy h.procedure) time) := by
      have went := Timeline.advance_detach (t := t.move s clock) alone behind comes done
      refine Eq.trans ?_ went
      simp only [left, answered, if_pos unattended]
    rw [settled, waited]
    exact ⟨rfl, rfl, rfl, rfl⟩

def creation : Request :=
  ⟨"POST", "/v1/routers", [("content-type", "application/json")], "\x7b\"name\":\"edge\"\x7d"⟩

/-- An interface on which the first router takes long to create. -/
def slowStart : Timeline :=
  .start { State.initial (.localPool State.twoResources) .inMemory State.twoBackends ⟨0⟩ with
    faults := .ofList [("backend.east.create_router", (.delay 2500, 1))] }

/-- A request that is given up after a second is over after three. -/
theorem slow_creation_abandoned :
    let asked := handle State.twoHomes "a" creation ⟨"/v1/routers".toList, []⟩
    let left := (asked.serve (some (.ofSeconds 1)) slowStart).2.advance 3000
    let kept := (asked.serve none slowStart).2
    left.state = kept.state ∧ kept.state = (slowStart.state.run asked.procedure).2 ∧
      left.tasks = [] ∧ kept.tasks = [] := by
  have asked : Mutates creation ⟨"/v1/routers".toList, []⟩ := .inl ⟨rfl, by decide +kernel⟩
  apply abandoned_as_finished asked
  · decide +kernel
  · simp [slowStart, Timeline.start]
  · decide +kernel

end Http.Api

end Brokerage
