import ChipEight.Proofs.Footprint
import ChipEight.Proofs.Independence
import ChipEight.Proofs.LoopProtocol
import ChipEight.Random.ChaCha

namespace ChipEight

/-!
The timers and the buzzer.

A frame shows the screen once, and sounds the buzzer once if the screen was shown and the sound
timer ran when the frame began.  It counts both timers down by one as long as they run, and changes
nothing else, even if a device fails on the way.

Between the frames only `FX15` sets the delay timer, and only `FX18` the sound timer.  In a history
without them a timer therefore falls by one with every frame until it has run down, whatever else
is executed, and the buzzer sounds in as many frames as the sound timer had left.
-/

namespace Exchange

/-- The screen that an exchange shows, or fails to show. -/
def rendered? : Exchange -> Option Screen
  | render screen _ _ => some screen
  | update .. | buzz .. | look => none

def shows : Exchange -> Bool
  | render _ (.ok ()) _ => true
  | render _ (.error _) _ | update .. | buzz .. | look => false

def buzzes : Exchange -> Bool
  | buzz .. => true
  | render .. | update .. | look => false

end Exchange

theorem Cpu.toNat_countedDown (timer : UInt8) :
    (if timer = 0 then 0 else timer - 1).toNat = timer.toNat - 1 := by
  split
  case isTrue stopped =>
    rw [stopped]
    rfl
  case isFalse running =>
    have positive : timer.toNat ≠ 0 := fun zero => running (UInt8.toNat_inj.mp zero)
    apply UInt8.toNat_sub_of_le
    apply UInt8.le_iff_toNat_le.mpr
    exact Nat.one_le_iff_ne_zero.mpr positive

namespace Machine

variable {G : Type}

/-- How a frame goes, by what the devices notice of it and by the machine that it leaves. -/
structure Refreshed (machine : Machine G) (exchanges : List Exchange) (last : Machine G) :
    Prop where
  rendered : exchanges.filterMap Exchange.rendered? = [machine.screen]
  buzzed : exchanges.countP Exchange.buzzes =
    if exchanges.any Exchange.shows ∧ 0 < machine.cpu.soundTimer.toNat then 1 else 0
  /-- All but the two timers is kept. -/
  kept : last =
    { machine with
      cpu := { machine.cpu with
        delayTimer := last.cpu.delayTimer
        soundTimer := last.cpu.soundTimer } }
  delay : last.cpu.delayTimer.toNat = machine.cpu.delayTimer.toNat - 1
  sound : last.cpu.soundTimer.toNat = machine.cpu.soundTimer.toNat - 1

theorem FrameCalls.refreshed {machine : Machine G} {exchanges : List Exchange}
    {result : Except Fault Unit} {now : Keys} (made : machine.FrameCalls exchanges result now) :
    machine.Refreshed exchanges machine.countDown := by
  have buzz_iff : machine.shouldBuzz = true ↔ 0 < machine.cpu.soundTimer.toNat := by
    rw [shouldBuzz, decide_eq_true_eq]
    exact UInt8.lt_iff_toNat_lt
  constructor
  case rendered =>
    cases made with
    | renderFailure | silent | buzzFailure | buzzing => rfl
  case buzzed =>
    cases made with
    | renderFailure => exact (if_neg fun both => Bool.false_ne_true both.1).symm
    | silent now silent =>
        have stopped : ¬ 0 < machine.cpu.soundTimer.toNat := by
          rw [← buzz_iff, silent]
          exact Bool.false_ne_true
        exact (if_neg fun both => stopped both.2).symm
    | buzzFailure cause shown now due | buzzing shown now due =>
        exact (if_pos ⟨rfl, buzz_iff.mp due⟩).symm
  case kept => rfl
  case delay => exact Cpu.toNat_countedDown machine.cpu.delayTimer
  case sound => exact Cpu.toNat_countedDown machine.cpu.soundTimer

/-- A frame with any devices, in whatever state they are. -/
theorem refreshed_frame {S : Type} (machine : Machine G) (devices : Devices S) (state : S) :
    machine.Refreshed (devices.exchanges machine.frame state)
      (devices.held machine.frame state).1.2 := by
  have talks := devices.talks machine.frame state
  rcases talks_frame talks with ⟨reached, made⟩
  rw [reached]
  exact made.refreshed

end Machine

/-- Devices that give in every conversation the answers that they have ready. -/
def Devices.answering (replies : Device.Replies) : Devices Unit where
  reply
    | .keys => return .released
    | .name => return replies .name
    | .update => return replies .update
    | .render screen => return replies (.render screen)
    | .buzz => return replies .buzz
    | .now => return replies .now
    | .sleep nanoseconds => return replies (.sleep nanoseconds)
    | .report event => return replies (.report event)
  keys _ := .released
  admits question state := by
    cases question with
    | keys => exact ⟨rfl, rfl⟩
    | update | render | buzz => exact trivial
    | name | now | sleep | report => rfl

def Action.isFrame {K : Type} : Action K -> Bool
  | .frame _ => true
  | .tick _ | .load _ | .setPixel .. => false

namespace Machine

variable {G K : Type} [Generator G] [KeySource K]

/-- What the devices notice of the frames of a history. -/
def calls (machine : Machine G) : List (Action K) -> List Exchange
  | [] => []
  | .frame replies :: history =>
      (Devices.answering replies).exchanges machine.frame () ++
        (machine.after (.frame replies : Action K)).calls history
  | action :: history => (machine.after action).calls history

theorem calls_frame (machine : Machine G) (replies : Device.Replies) :
    machine.calls [(.frame replies : Action K)] =
      (Devices.answering replies).exchanges machine.frame () :=
  List.append_nil _

theorem calls_cons (machine : Machine G) (action : Action K) (history : List (Action K)) :
    machine.calls (action :: history) =
      machine.calls [action] ++ (machine.after action).calls history := by
  cases action with
  | frame replies =>
      rw [calls_frame]
      rfl
  | tick | load | setPixel => rfl

/-- A frame of a history is a frame with the devices that answer in it. -/
theorem refreshed_calls (machine : Machine G) (replies : Device.Replies) :
    machine.Refreshed (machine.calls [(.frame replies : Action K)])
      (machine.after (.frame replies : Action K)) := by
  have talks := (Devices.answering replies).talks machine.frame ()
  rcases talks_frame talks with ⟨-, made⟩
  rw [after_frame, calls_frame]
  exact made.refreshed

end Machine

/-- The two timers. -/
inductive Timer where
  | delay
  | sound

namespace Timer

variable {G : Type}

def value : Timer -> Machine G -> Nat
  | delay, machine => machine.cpu.delayTimer.toNat
  | sound, machine => machine.cpu.soundTimer.toNat

/-- The instruction that sets a timer. -/
def setter : Timer -> UInt8 -> Instruction
  | delay, x => .setDelay x
  | sound, x => .setSound x

def component : Timer -> Component
  | delay => .delayTimer
  | sound => .soundTimer

theorem value_of_kept {timer : Timer} {before after : Machine G}
    (kept : timer.component.Kept before after) : timer.value after = timer.value before := by
  cases timer with
  | delay | sound => exact congrArg UInt8.toNat kept

theorem value_countDown (timer : Timer) (machine : Machine G) :
    timer.value machine.countDown = timer.value machine - 1 := by
  cases timer with
  | delay => exact Cpu.toNat_countedDown machine.cpu.delayTimer
  | sound => exact Cpu.toNat_countedDown machine.cpu.soundTimer

/-- Only the instruction that sets a timer is listed to change it. -/
theorem setter_of_changers {timer : Timer} {instruction : Instruction} {form : Form}
    (listed : form ∈ timer.component.changers) (told : instruction.form? = some form) :
    Exists fun x => instruction = timer.setter x := by
  cases timer with
  | delay =>
      cases List.mem_singleton.mp listed
      cases instruction with
      | setDelay x => exact ⟨x, rfl⟩
      | _ => cases told
  | sound =>
      cases List.mem_singleton.mp listed
      cases instruction with
      | setSound x => exact ⟨x, rfl⟩
      | _ => cases told

variable {K : Type} [Generator G] [KeySource K] {machine : Machine G}

theorem value_tick (timer : Timer) (keys : K)
    (unset : forall x, Instruction.decode machine.cpu.word ≠ timer.setter x) :
    timer.value (machine.tick keys).machine = timer.value machine := by
  have kept : timer.component.Kept machine.passed
      (machine.passed.execute keys (Instruction.decode machine.cpu.word)).machine := by
    apply Machine.kept_execute
    intro form listed told
    rcases setter_of_changers listed told with ⟨x, set⟩
    exact unset x set
  have same : timer.value machine.passed = timer.value machine := by
    cases timer <;> rfl
  rw [machine.tick_eq keys rfl]
  exact (value_of_kept kept).trans same

/-- A frame takes one off a timer, and all else that does not set it leaves it alone. -/
theorem value_after (timer : Timer) {action : Action K}
    (unloaded : forall program, action ≠ .load program)
    (unset : forall x, timer.setter x ∉ machine.executed [action]) :
    timer.value (machine.after action) =
      timer.value machine - if action.isFrame then 1 else 0 := by
  cases action with
  | tick keys =>
      apply timer.value_tick keys
      intro x set
      apply unset x
      rw [← set]
      exact List.mem_singleton_self _
  | frame replies =>
      rw [Machine.after_frame]
      exact timer.value_countDown machine
  | load program => exact (unloaded program rfl).elim
  | setPixel x y on =>
      cases timer with
      | delay | sound => rfl

/-- A timer that is not set falls by one with every frame until it has run down. -/
theorem value_afterAll (timer : Timer) {history : List (Action K)}
    (unloaded : forall program, .load program ∉ history)
    (unset : forall x, timer.setter x ∉ machine.executed history) :
    timer.value (machine.afterAll history) =
      timer.value machine - history.countP Action.isFrame := by
  induction history generalizing machine with
  | nil => rfl
  | cons action history inductionHypothesis =>
      rw [Machine.executed_cons] at unset
      have unloadedNow : forall program, action ≠ .load program :=
        fun program same => unloaded program (same ▸ List.mem_cons_self)
      have now := timer.value_after unloadedNow
        fun x member => unset x (List.mem_append_left _ member)
      have later := inductionHypothesis
        (fun program member => unloaded program (List.mem_cons_of_mem _ member))
        (fun x member => unset x (List.mem_append_right _ member))
      rw [Machine.afterAll_cons, later, now, List.countP_cons]
      omega

end Timer

namespace Machine

variable {G : Type} {machine last : Machine G}

/-- The screen is shown unless that fails. -/
theorem Refreshed.shows {exchanges : List Exchange} (refreshed : machine.Refreshed exchanges last)
    (unfailed : forall screen cause keys, .render screen (.error cause) keys ∉ exchanges) :
    exchanges.any Exchange.shows = true := by
  have rendered : machine.screen ∈ exchanges.filterMap Exchange.rendered? := by
    rw [refreshed.rendered]
    exact List.mem_singleton_self _
  rcases List.mem_filterMap.mp rendered with ⟨exchange, member, same⟩
  cases exchange with
  | render screen answer keys =>
      cases answer with
      | ok shown => exact List.any_eq_true.mpr ⟨_, member, rfl⟩
      | error cause => exact (unfailed screen cause keys member).elim
  | update | buzz | look => cases same

variable {K : Type} [Generator G] [KeySource K]

theorem buzzed_calls {action : Action K}
    (unfailed : forall screen cause keys,
      .render screen (.error cause) keys ∉ machine.calls [action]) :
    (machine.calls [action]).countP Exchange.buzzes =
      min (Timer.sound.value machine) (if action.isFrame then 1 else 0) := by
  cases action with
  | frame replies =>
      have refreshed := machine.refreshed_calls (K := K) replies
      rw [refreshed.buzzed, refreshed.shows unfailed]
      simp only [true_and, Timer.value, Action.isFrame, if_true]
      split <;> omega
  | tick | load | setPixel => exact (Nat.min_zero _).symm

/-- The buzzer sounds in as many frames as the sound timer has left. -/
theorem buzzed_calls_history {history : List (Action K)}
    (unloaded : forall program, .load program ∉ history)
    (unset : forall x, .setSound x ∉ machine.executed history)
    (unfailed : forall screen cause keys,
      .render screen (.error cause) keys ∉ machine.calls history) :
    (machine.calls history).countP Exchange.buzzes =
      min (Timer.sound.value machine) (history.countP Action.isFrame) := by
  induction history generalizing machine with
  | nil => exact (Nat.min_zero _).symm
  | cons action history inductionHypothesis =>
      rw [executed_cons] at unset
      rw [calls_cons] at unfailed
      have unloadedNow : forall program, action ≠ .load program :=
        fun program same => unloaded program (same ▸ List.mem_cons_self)
      have fallen := Timer.sound.value_after unloadedNow
        fun x member => unset x (List.mem_append_left _ member)
      have now := buzzed_calls fun screen cause keys member =>
        unfailed screen cause keys (List.mem_append_left _ member)
      have later := inductionHypothesis
        (fun program member => unloaded program (List.mem_cons_of_mem _ member))
        (fun x member => unset x (List.mem_append_right _ member))
        (fun screen cause keys member =>
          unfailed screen cause keys (List.mem_append_right _ member))
      rw [calls_cons, List.countP_append, now, later, fallen, List.countP_cons]
      omega

/-- Timers and buzzer, for one frame with any devices and over every history without a reload. -/
theorem timers_run_down (machine : Machine G) :
    (forall (S : Type) (devices : Devices S) (state : S),
      machine.Refreshed (devices.exchanges machine.frame state)
        (devices.held machine.frame state).1.2) ∧
    forall history : List (Action K), (forall program, .load program ∉ history) ->
      (forall timer : Timer, (forall x, timer.setter x ∉ machine.executed history) ->
        timer.value (machine.afterAll history) =
          timer.value machine - history.countP Action.isFrame) ∧
      ((forall x, .setSound x ∉ machine.executed history) ->
        (forall screen cause keys, .render screen (.error cause) keys ∉ machine.calls history) ->
        (machine.calls history).countP Exchange.buzzes =
          min (Timer.sound.value machine) (history.countP Action.isFrame)) := by
  refine ⟨fun S => machine.refreshed_frame, fun history unloaded => ⟨?_, ?_⟩⟩
  · intro timer unset
    exact timer.value_afterAll unloaded unset
  · exact buzzed_calls_history unloaded

/-- Devices of which only the buzzer fails. -/
def muteDevices : Device.Replies
  | .buzz => .error "no speaker"
  | question => Device.untroubled question

/-- A program that waits for a key does not stop the timers, and a sound timer of two is heard in
two of three frames. -/
theorem timers_run_down_waiting :
    let loaded := (boot .standard ChaCha.unkeyed [0xF0, 0x0A]).machine
    let machine := { loaded with cpu := { loaded.cpu with delayTimer := 5, soundTimer := 2 } }
    let down : Keys := .replicate 16 true
    let history : List (Action Keys) :=
      [.tick .released, .frame muteDevices, .tick down, .frame muteDevices, .frame muteDevices,
        .tick down]
    machine.executed history = [.waitKey 0, .waitKey 0, .waitKey 0] ∧
      (machine.afterAll history).cpu.delayTimer.toNat = 2 ∧
      (machine.afterAll history).cpu.soundTimer.toNat = 0 ∧
      (machine.calls history).countP Exchange.buzzes = 2 := by
  intro loaded machine down history
  have ran : machine.executed history = [.waitKey 0, .waitKey 0, .waitKey 0] := by
    decide +kernel
  have unset (timer : Timer) : forall x, timer.setter x ∉ machine.executed history := by
    intro x
    rw [ran]
    cases timer with
    | delay | sound => simp [Timer.setter]
  have unfailed : forall screen cause keys,
      .render screen (.error cause) keys ∉ machine.calls history := by
    have heard : (machine.calls history).all
        (fun exchange => exchange.shows || exchange.buzzes) := by
      decide +kernel
    intro screen cause keys member
    cases List.all_eq_true.mp heard _ member
  have unloaded : forall program, .load program ∉ history := by
    intro program
    simp [history]
  rcases (timers_run_down machine).2 history unloaded with ⟨fallen, buzzed⟩
  exact ⟨ran, fallen .delay (unset .delay), fallen .sound (unset .sound),
    buzzed (unset .sound) unfailed⟩

end Machine
end ChipEight
