import ChipEight.Loop
import ChipEight.Proofs.Conversation
import ChipEight.Proofs.History
import ChipEight.Random.ChaCha

namespace ChipEight

/-!
The order of calls in the loop.

A run is *orderly* if every update of the front end is followed by one instruction and no other
happens, if frames fall between these pairs, and if nothing happens any more once the front end
stops the run or one of its calls fails.  What a run does to the machine, and which keys each
instruction sees, can then be read off its exchanges.

The loop makes its calls in bursts, cuts a burst short for a frame, and rests, all of it as its two
clocks say.  None of this can be seen in the order of the calls: each part of the loop is orderly,
and so is one part after another.
-/

open Dialogue

variable {G : Type} {keys after : Keys} {exchanges : List Exchange}

theorem talks_reportAll {events : List Event} {value : Unit}
    (talks : (reportAll events).Talks keys exchanges after value) :
    exchanges = [] ∧ after = keys := by
  induction events with
  | nil => exact ⟨talks.1, talks.2.1⟩
  | cons event events inductionHypothesis =>
      rcases talks_aside talks trivial with ⟨_, talks⟩
      exact inductionHypothesis talks

namespace Machine

/-- The calls of a frame, how it turns out, and the keys that it leaves. -/
inductive FrameCalls (machine : Machine G) :
    List Exchange -> Except Fault Unit -> Keys -> Prop where
  | renderFailure (name cause : String) (now : Keys) :
      FrameCalls machine [.render machine.screen (.error cause) now]
        (.error (.render name cause)) now
  /-- The screen is shown, and that is all if the sound timer does not run. -/
  | silent (now : Keys) (silent : machine.shouldBuzz = false) :
      FrameCalls machine [.render machine.screen (.ok ()) now] (.ok ()) now
  | buzzFailure (cause : String) (shown now : Keys) (due : machine.shouldBuzz = true) :
      FrameCalls machine [.render machine.screen (.ok ()) shown, .buzz (.error cause) now]
        (.error (.sound cause)) now
  | buzzing (shown now : Keys) (due : machine.shouldBuzz = true) :
      FrameCalls machine [.render machine.screen (.ok ()) shown, .buzz (.ok ()) now] (.ok ()) now

theorem talks_show {screen : Screen} {value : Except Fault Unit}
    (talks : (show? screen).Talks keys exchanges after value) :
    exchanges = [.render screen (.ok ()) after] ∧ value = .ok () ∨
      Exists fun name => Exists fun cause =>
        exchanges = [.render screen (.error cause) after] ∧
          value = .error (.render name cause) := by
  rw [show?, talks_askDevice] at talks
  rcases talks with ⟨answer, now, rest, -, rfl, talks⟩
  cases answer with
  | ok shown =>
      rcases talks with ⟨rfl, rfl, rfl⟩
      exact Or.inl ⟨rfl, rfl⟩
  | error cause =>
      rcases talks_aside talks trivial with ⟨name, rfl, rfl, rfl⟩
      exact Or.inr ⟨name, cause, rfl, rfl⟩

theorem talks_buzz {value : Except Fault Unit}
    (talks : (buzz? true).Talks keys exchanges after value) :
    exchanges = [.buzz (.ok ()) after] ∧ value = .ok () ∨
      Exists fun cause =>
        exchanges = [.buzz (.error cause) after] ∧ value = .error (.sound cause) := by
  rcases talks with ⟨answer, now, rest, -, rfl, talks⟩
  cases answer with
  | ok buzzed =>
      rcases talks with ⟨rfl, rfl, rfl⟩
      exact Or.inl ⟨rfl, rfl⟩
  | error cause =>
      rcases talks with ⟨rfl, rfl, rfl⟩
      exact Or.inr ⟨cause, rfl, rfl⟩

/-- A frame makes its calls, and counts the timers down whatever comes of them. -/
theorem talks_frame {machine last : Machine G} {result : Except Fault Unit}
    (talks : machine.frame.Talks keys exchanges after (result, last)) :
    last = machine.countDown ∧ machine.FrameCalls exchanges result after := by
  rw [frame, talks_bind] at talks
  rcases talks with ⟨between, first, rest, shown, rendered, talks, rfl⟩
  rcases talks_show rendered with ⟨rfl, rfl⟩ | ⟨name, cause, rfl, rfl⟩
  · rw [talks_bind] at talks
    rcases talks with ⟨later, calls, none, buzzed, sounded, ⟨rfl, rfl, pair⟩, rfl⟩
    cases pair
    refine ⟨rfl, ?_⟩
    cases due : machine.shouldBuzz with
    | false =>
        rw [due] at sounded
        rcases sounded with ⟨rfl, rfl, rfl⟩
        exact .silent _ due
    | true =>
        rw [due] at sounded
        rcases talks_buzz sounded with ⟨rfl, rfl⟩ | ⟨cause, rfl, rfl⟩
        · exact .buzzing _ _ due
        · exact .buzzFailure cause _ _ due
  · rcases talks with ⟨rfl, rfl, pair⟩
    cases pair
    exact ⟨rfl, .renderFailure name cause _⟩

end Machine

namespace Progress

/-- How the run has ended, if it has. -/
def result? : Progress G -> Option (Except Fault Unit)
  | .running _ => none
  | .ended result _ => some result

def machine : Progress G -> Machine G
  | .running loop => loop.machine
  | .ended _ machine => machine

end Progress

namespace Loop

/-- A refresh is one frame of the machine.  If it succeeds, the display clock moves on; if not, the
run is over. -/
theorem talks_refresh {loop : Loop G} {progress : Progress G}
    (talks : loop.refresh.Talks keys exchanges after progress) :
    Exists fun result => loop.machine.FrameCalls exchanges result after ∧
      progress = match result with
        | .ok () =>
            .running { loop with
              machine := loop.machine.countDown
              displayClock := loop.displayClock.advance }
        | .error fault => .ended (.error fault) loop.machine.countDown := by
  rw [refresh, talks_bind] at talks
  rcases talks with ⟨between, calls, rest, ⟨result, machine⟩, framed, talks, rfl⟩
  rcases Machine.talks_frame framed with ⟨rfl, made⟩
  refine ⟨result, ?_⟩
  cases result with
  | ok shown =>
      rcases talks with ⟨rfl, rfl, rfl⟩
      rw [List.append_nil]
      exact ⟨made, rfl⟩
  | error fault =>
      rcases talks with ⟨rfl, rfl, rfl⟩
      rw [List.append_nil]
      exact ⟨made, rfl⟩

end Loop

/-- The keys that an update leaves. -/
def Exchange.updated? : Exchange -> Option Keys
  | .update _ now => some now
  | .render .. | .buzz .. | .look => none

/-- Exchanges that begin with another kind and end with an update do so behind their first. -/
theorem Exchange.ends_behind {first : Exchange} {rest before : List Exchange}
    {answer : Except String Flow} {now : Keys} (other : first.updated? = none)
    (ends : first :: rest = before ++ [.update answer now]) :
    Exists fun middle => before = first :: middle ∧ rest = middle ++ [.update answer now] := by
  rcases List.cons_eq_append_iff.mp ends with ⟨_, last⟩ | ⟨middle, rfl, rfl⟩
  · cases last
    cases other
  · exact ⟨middle, rfl, rfl⟩

theorem Machine.FrameCalls.ends_behind {machine : Machine G} {calls rest before : List Exchange}
    {result : Except Fault Unit} {answer : Except String Flow} {shown now : Keys}
    (made : machine.FrameCalls calls result shown)
    (ends : calls ++ rest = before ++ [.update answer now]) :
    Exists fun middle => before = calls ++ middle ∧ rest = middle ++ [.update answer now] := by
  cases made with
  | renderFailure | silent => exact Exchange.ends_behind rfl ends
  | buzzFailure | buzzing =>
      rcases Exchange.ends_behind rfl ends with ⟨sounded, rfl, behindFirst⟩
      rcases Exchange.ends_behind rfl behindFirst with ⟨middle, rfl, behind⟩
      exact ⟨middle, rfl, behind⟩

/-- A frame shows the screen, and does not update. -/
theorem Machine.FrameCalls.shows {machine : Machine G} {calls : List Exchange}
    {result : Except Fault Unit} {now : Keys} (made : machine.FrameCalls calls result now) :
    calls.filterMap Exchange.updated? = [] ∧
      Exists fun answer => Exists fun shown => .render machine.screen answer shown ∈ calls := by
  cases made with
  | renderFailure | silent | buzzFailure | buzzing => exact ⟨rfl, _, _, List.mem_cons_self⟩

/-- Devices that never fail. -/
def Device.untroubled : Device.Replies
  | .name => "untroubled"
  | .keys => .released
  | .update => .ok .ok
  | .render _ | .buzz => .ok ()
  | .now => 0
  | .sleep _ | .report _ => ()

variable [Generator G]

/-- What may happen in a run from a machine and the keys that are down: the exchanges with the front
end, the result unless the run still goes on, and the machine and the keys that it leaves. -/
inductive Orderly : Machine G -> Keys -> List Exchange -> Option (Except Fault Unit) ->
    Machine G -> Keys -> Prop where
  /-- The run goes on, and nothing more has happened yet. -/
  | pause {machine : Machine G} {keys : Keys} : Orderly machine keys [] none machine keys
  | interrupt {machine : Machine G} {keys now : Keys} :
      Orderly machine keys [.update (.ok .interrupt) now] (some (.ok ())) machine now
  | inputFailure {machine : Machine G} {keys now : Keys} (cause : String) :
      Orderly machine keys [.update (.error cause) now] (some (.error (.input cause))) machine now
  /-- An update lets one instruction through, which sees the keys that the update left. -/
  | instruction {machine last : Machine G} {keys now after : Keys} {flow : Flow}
      {exchanges : List Exchange} {result : Option (Except Fault Unit)} (goesOn : flow ≠ .interrupt)
      (rest : Orderly (machine.tick now).machine now exchanges result last after) :
      Orderly machine keys (.update (.ok flow) now :: .look :: exchanges) result last after
  | frame {machine last : Machine G} {keys now after : Keys} {calls exchanges : List Exchange}
      {result : Option (Except Fault Unit)} (shown : machine.FrameCalls calls (.ok ()) now)
      (rest : Orderly machine.countDown now exchanges result last after) :
      Orderly machine keys (calls ++ exchanges) result last after
  | frameFailure {machine : Machine G} {keys now : Keys} {calls : List Exchange} {fault : Fault}
      (failed : machine.FrameCalls calls (.error fault) now) :
      Orderly machine keys calls (some (.error fault)) machine.countDown now

/-- A run that has paused may go on. -/
theorem Orderly.append {machine middle last : Machine G} {keys between after : Keys}
    {first rest : List Exchange} {result : Option (Except Fault Unit)}
    (begun : Orderly machine keys first none middle between)
    (next : Orderly middle between rest result last after) :
    Orderly machine keys (first ++ rest) result last after := by
  generalize paused : none = begunResult at begun
  induction begun with
  | pause => exact next
  | interrupt | inputFailure | frameFailure => cases paused
  | instruction goesOn _ inductionHypothesis =>
      exact .instruction goesOn (inductionHypothesis next paused)
  | frame shown _ inductionHypothesis =>
      rw [List.append_assoc]
      exact .frame shown (inductionHypothesis next paused)

/-- A run that ends with an update has executed one instruction for every update before.  If it has
shown no frame, all it did is to execute these, each with the keys that its update left. -/
theorem Orderly.of_last_update {machine last : Machine G} {keys now after : Keys}
    {exchanges before : List Exchange} {answer : Except String Flow}
    {result : Option (Except Fault Unit)}
    (orderly : Orderly machine keys exchanges result last after)
    (ends : exchanges = before ++ [.update answer now]) :
    after = now ∧ Exists fun history : List (Action Keys) =>
      last = machine.afterAll history ∧
      (machine.steps history).length = (before.filterMap Exchange.updated?).length ∧
      ((forall screen answer keys, .render screen answer keys ∉ before) ->
        history = (before.filterMap Exchange.updated?).map .tick) := by
  induction orderly generalizing before with
  | pause => simp at ends
  | interrupt | inputFailure cause =>
      rcases List.cons_eq_append_iff.mp ends with ⟨rfl, last⟩ | ⟨middle, _, none⟩
      · cases last
        exact ⟨rfl, [], rfl, rfl, fun _ => rfl⟩
      · simp at none
  | @instruction machine _ keys seen _ flow _ _ goesOn _ inductionHypothesis =>
      rcases List.cons_eq_append_iff.mp ends with ⟨_, last⟩ | ⟨looked, rfl, behindUpdate⟩
      · cases last
      · rcases Exchange.ends_behind rfl behindUpdate with ⟨middle, rfl, behind⟩
        rcases inductionHypothesis behind with ⟨same, history, reached, count, unshown⟩
        refine ⟨same, .tick seen :: history, reached, congrArg Nat.succ count, fun none => ?_⟩
        have rest := unshown fun screen answer keys member =>
          none screen answer keys (List.mem_cons_of_mem _ (List.mem_cons_of_mem _ member))
        exact congrArg (List.cons _) rest
  | @frame machine _ keys shown _ calls _ _ made _ inductionHypothesis =>
      rcases made.ends_behind ends with ⟨middle, rfl, behind⟩
      rcases inductionHypothesis behind with ⟨same, history, reached, count, -⟩
      rcases made.shows with ⟨updates, answer, between, member⟩
      rw [List.filterMap_append, updates, List.nil_append]
      have first : machine.after (.frame Device.untroubled : Action Keys) = machine.countDown :=
        machine.after_frame Device.untroubled
      refine ⟨same, .frame Device.untroubled :: history, ?_, ?_, fun none => ?_⟩
      · rw [Machine.afterAll_cons, first]
        exact reached
      · change ((machine.after (.frame Device.untroubled)).steps history).length = _
        rw [first]
        exact count
      · exact absurd (List.mem_append_left middle member) (none _ _ _)
  | frameFailure failed =>
      rcases failed.ends_behind ((List.append_nil _).trans ends) with ⟨middle, rfl, none⟩
      simp at none

namespace Loop

/-- A conversation keeps order from a machine on if whatever may pass in it is orderly. -/
def KeepsOrder (machine : Machine G) (dialogue : DeviceDialogue (Progress G)) : Prop :=
  forall ⦃keys exchanges after progress⦄, dialogue.Talks keys exchanges after progress ->
    Orderly machine keys exchanges progress.result? progress.machine after

theorem KeepsOrder.pause (loop : Loop G) : KeepsOrder loop.machine (.done (.running loop)) := by
  rintro keys exchanges after progress ⟨rfl, rfl, rfl⟩
  exact .pause

theorem KeepsOrder.aside {machine : Machine G} {question : Device.Question}
    {continuation : Device.Answer question -> DeviceDialogue (Progress G)}
    (aside : Device.Aside question)
    (next : forall answer, KeepsOrder machine (continuation answer)) :
    KeepsOrder machine (askDevice question >>= continuation) := by
  intro keys exchanges after progress talks
  rcases talks_aside talks aside with ⟨answer, talks⟩
  exact next answer talks

/-- What follows an orderly part has to be orderly from where that has paused; once the run is over,
nothing may follow. -/
theorem KeepsOrder.andThen {machine : Machine G} {dialogue : DeviceDialogue (Progress G)}
    {continuation : Progress G -> DeviceDialogue (Progress G)} (begun : KeepsOrder machine dialogue)
    (closed : forall result machine,
      continuation (.ended result machine) = .done (.ended result machine))
    (next : forall loop, KeepsOrder loop.machine (continuation (.running loop))) :
    KeepsOrder machine (dialogue >>= continuation) := by
  intro keys exchanges after progress talks
  rw [talks_bind] at talks
  rcases talks with ⟨between, first, rest, middle, one, other, rfl⟩
  have ordered := begun one
  cases middle with
  | running loop => exact ordered.append (next loop other)
  | ended result machine =>
      rw [closed] at other
      rcases other with ⟨rfl, rfl, rfl⟩
      rw [List.append_nil]
      exact ordered

theorem talks_instruction {loop value : Loop G}
    (talks : loop.instruction.Talks keys exchanges after value) :
    exchanges = [.look] ∧ after = keys ∧
      value = { loop with machine := (loop.machine.tick keys).machine } := by
  rw [instruction, talks_askDevice] at talks
  rcases talks with ⟨shown, between, rest, ⟨rfl, rfl⟩, rfl, talks⟩
  rw [talks_bind] at talks
  rcases talks with ⟨between, first, last, result, reported, done, rfl⟩
  rcases talks_reportAll reported with ⟨rfl, rfl⟩
  rcases done with ⟨rfl, rfl, rfl⟩
  exact ⟨rfl, rfl, rfl⟩

/-- A burst that owes an instruction asks for an update first.  It ends there, or executes one
instruction with the keys that the update left; then it is cut short, or goes on. -/
theorem talks_burst_succ {owed : Nat} {loop : Loop G} {progress : Progress G}
    (talks : (burst (owed + 1) loop).Talks keys exchanges after progress) :
    (Exists fun cause => exchanges = [.update (.error cause) after] ∧
      progress = .ended (.error (.input cause)) loop.machine) ∨
    (exchanges = [.update (.ok .interrupt) after] ∧ progress = .ended (.ok ()) loop.machine) ∨
    Exists fun flow => Exists fun now => Exists fun rest =>
      let next :=
        { loop with
          machine := (loop.machine.tick now).machine
          cpuClock := loop.cpuClock.advance }
      flow ≠ .interrupt ∧ exchanges = .update (.ok flow) now :: .look :: rest ∧
        (rest = [] ∧ after = now ∧ progress = .running next ∨
          (burst owed next).Talks now rest after progress) := by
  rw [burst, talks_askDevice] at talks
  rcases talks with ⟨answer, now, rest, -, rfl, talks⟩
  split at talks
  case h_1 cause =>
    rcases talks with ⟨rfl, rfl, rfl⟩
    exact Or.inl ⟨cause, rfl, rfl⟩
  case h_2 =>
    rcases talks_aside talks trivial with ⟨name, talks⟩
    rcases talks_aside talks trivial with ⟨_, rfl, rfl, rfl⟩
    exact Or.inr (Or.inl ⟨rfl, rfl⟩)
  case h_3 flow goesOn =>
    rw [talks_bind] at talks
    rcases talks with ⟨between, first, rest, value, one, talks, rfl⟩
    rcases talks_instruction one with ⟨rfl, rfl, rfl⟩
    refine Or.inr (Or.inr ⟨flow, _, rest, goesOn, rfl, ?_⟩)
    rcases talks_aside talks trivial with ⟨time, talks⟩
    split at talks
    case isTrue => exact Or.inl talks
    case isFalse => exact Or.inr talks

theorem burst_keepsOrder (owed : Nat) (loop : Loop G) :
    KeepsOrder loop.machine (burst owed loop) := by
  induction owed generalizing loop with
  | zero => exact .pause loop
  | succ owed inductionHypothesis =>
      intro keys exchanges after progress talks
      rcases talks_burst_succ talks with
        ⟨cause, rfl, rfl⟩ | ⟨rfl, rfl⟩ | ⟨flow, now, rest, goesOn, rfl, next⟩
      · exact .inputFailure cause
      · exact .interrupt
      · refine .instruction goesOn ?_
        rcases next with ⟨rfl, rfl, rfl⟩ | talks
        · exact .pause
        · exact inductionHypothesis _ talks

theorem refresh_keepsOrder (loop : Loop G) : KeepsOrder loop.machine loop.refresh := by
  intro keys exchanges after progress talks
  rcases talks_refresh talks with ⟨result, made, rfl⟩
  cases result with
  | ok shown =>
      rw [← List.append_nil exchanges]
      exact .frame made .pause
  | error fault => exact .frameFailure made

theorem rest_keepsOrder (loop : Loop G) : KeepsOrder loop.machine loop.rest :=
  .aside trivial fun _ => .aside trivial fun _ => .pause loop

theorem afterBurst_keepsOrder (now : Int) (idle : Bool) (loop : Loop G) :
    KeepsOrder loop.machine (loop.afterBurst now idle) := by
  rw [afterBurst]
  split
  case isTrue => exact loop.refresh_keepsOrder
  case isFalse =>
    split
    case isTrue => exact loop.rest_keepsOrder
    case isFalse => exact .pause loop

theorem pass_keepsOrder (loop : Loop G) : KeepsOrder loop.machine loop.pass := by
  refine .aside trivial fun now => ?_
  exact .andThen (burst_keepsOrder _ _) (fun _ _ => rfl)
    (fun loop => loop.afterBurst_keepsOrder now _)

theorem passes_keepsOrder (count : Nat) (loop : Loop G) :
    KeepsOrder loop.machine (passes count loop) := by
  induction count generalizing loop with
  | zero => exact .pause loop
  | succ count inductionHypothesis =>
      exact .andThen loop.pass_keepsOrder (fun _ _ => rfl) inductionHypothesis

end Loop

namespace Machine

theorem drive_keepsOrder (machine : Machine G) {cpuRate displayRate : Nat} (cpu : cpuRate ≠ 0)
    (display : displayRate ≠ 0) (passes : Nat) :
    Loop.KeepsOrder machine (machine.drive cpuRate displayRate passes) := by
  rw [drive, if_neg cpu, if_neg display]
  intro keys exchanges after progress talks
  rw [talks_bind] at talks
  rcases talks with ⟨between, first, rest, loop, started, talks, rfl⟩
  rcases talks_aside started trivial with ⟨start, started⟩
  rcases talks_aside started trivial with ⟨name, started⟩
  rcases talks_aside started trivial with ⟨_, rfl, rfl, rfl⟩
  exact Loop.passes_keepsOrder passes _ talks

/-- The loop refuses a rate of zero before it asks for anything.  Otherwise all its conversations
are orderly, with every front end and for any readings of the clock: each update that lets the run
go on is followed by one instruction, frames come between such pairs, and the first interrupt or
failure is the end.  A run that ends with its `n`th update has executed `n - 1` instructions, and
done nothing else if no frame was shown. -/
theorem loop_keeps_order (machine : Machine G) (cpuRate displayRate passes : Nat) :
    (cpuRate = 0 ->
      machine.drive cpuRate displayRate passes =
        .done (.ended (.error (.invalidRate .cpu)) machine)) ∧
    (cpuRate ≠ 0 -> displayRate = 0 ->
      machine.drive cpuRate displayRate passes =
        .done (.ended (.error (.invalidRate .display)) machine)) ∧
    (cpuRate ≠ 0 -> displayRate ≠ 0 -> forall keys exchanges after progress,
      (machine.drive cpuRate displayRate passes).Talks keys exchanges after progress ->
        Orderly machine keys exchanges progress.result? progress.machine after ∧
        forall before answer now, exchanges = before ++ [.update answer now] ->
          after = now ∧ Exists fun history : List (Action Keys) =>
            progress.machine = machine.afterAll history ∧
            (machine.steps history).length = (before.filterMap Exchange.updated?).length ∧
            ((forall screen answer keys, .render screen answer keys ∉ before) ->
              history = (before.filterMap Exchange.updated?).map .tick)) := by
  refine ⟨fun zero => ?_, fun cpu zero => ?_, fun cpu display => ?_⟩
  · rw [drive, if_pos zero]
    rfl
  · rw [drive, if_neg cpu, if_pos zero]
    rfl
  · intro keys exchanges after progress talks
    have ordered := machine.drive_keepsOrder cpu display passes talks
    exact ⟨ordered, fun before answer now ends => ordered.of_last_update ends⟩

/-- A front end that interrupts at its fourth update.  All keys are down after every other update,
and the clock moves by a millisecond whenever it is read. -/
def interrupting : Devices (Nat × Int) where
  reply
    | .name => return "interrupting"
    | .keys => return .replicate 16 ((← get).1 % 2 == 1)
    | .update => modifyGet fun (updates, time) =>
        (.ok (if updates = 3 then .interrupt else .ok), (updates + 1, time))
    | .render _ | .buzz => return .ok ()
    | .now => modifyGet fun (updates, time) => (time, (updates, time + 1000000))
    | .sleep _ | .report _ => return ()
  keys state := .replicate 16 (state.1 % 2 == 1)
  admits question state := by
    cases question with
    | keys => exact ⟨rfl, rfl⟩
    | update | render | buzz => exact trivial
    | name | now | sleep | report => rfl

/-- The instruction after an update sees the keys that the update left: the program counts how often
it finds a key down. -/
theorem interrupted_at_fourth_update :
    let program : List UInt8 := [0xE0, 0x9E, 0x12, 0x00, 0x70, 0x01, 0x12, 0x00]
    let machine := (boot .standard ChaCha.unkeyed program).machine
    let dialogue := machine.drive 10000 1 1
    let up : Keys := .released
    let down : Keys := .replicate 16 true
    let before : List Exchange :=
      [.update (.ok .ok) down, .look, .update (.ok .ok) up, .look, .update (.ok .ok) down, .look]
    let last := (interrupting.held dialogue (0, 0)).1.machine
    interrupting.exchanges dialogue (0, 0) = before ++ [.update (.ok .interrupt) up] ∧
      last = machine.afterAll [.tick down, .tick up, .tick down] ∧
      last.cpu.registers[0] = 1 := by
  intro program machine dialogue up down before last
  have exchanges : interrupting.exchanges dialogue (0, 0) =
      before ++ [.update (.ok .interrupt) up] := by
    decide +kernel
  have conversation := interrupting.talks dialogue (0, 0)
  have protocol := loop_keeps_order machine 10000 1 1
  rcases protocol.2.2 (by decide) (by decide) _ _ _ _ conversation with ⟨-, ends⟩
  rcases ends before _ up exchanges with ⟨-, history, reached, -, unshown⟩
  have ran : last = machine.afterAll [.tick down, .tick up, .tick down] := by
    rw [unshown (fun screen answer keys => by simp [before])] at reached
    exact reached
  refine ⟨exchanges, ran, ?_⟩
  rw [ran]
  decide +kernel

end Machine
end ChipEight
