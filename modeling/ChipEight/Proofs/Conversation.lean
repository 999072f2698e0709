import ChipEight.Device

namespace ChipEight

/-!
What passes between a dialogue and a front end.

A front end shows the screen, sounds the buzzer and looks after its input, and in each of these it
may fail, and may change which keys are down.  Between two of them the keys stay as they are: a
dialogue that asks for the keys is shown those that the last of them left.  The clock, the log and
the name of a front end have no part in the keys, and what they answer is not bound to anything.

`Talks` says which conversations are possible under these conditions and what they lead to.  It asks
for nothing else, so what holds of all of them holds with every front end, and for any readings of
the clock.
-/

instance decidableEqExcept {E A : Type} [DecidableEq E] [DecidableEq A] : DecidableEq (Except E A)
  | .ok left, .ok right => decidable_of_iff (left = right) (by rw [Except.ok.injEq])
  | .error left, .error right => decidable_of_iff (left = right) (by rw [Except.error.injEq])
  | .ok _, .error _ => .isFalse (fun same => nomatch same)
  | .error _, .ok _ => .isFalse (fun same => nomatch same)

/-- What a front end notices of a conversation, each time with the keys that are down afterwards. -/
inductive Exchange where
  | update (answer : Except String Flow) (keys : Keys)
  | render (screen : Screen) (answer : Except String Unit) (keys : Keys)
  | buzz (answer : Except String Unit) (keys : Keys)
  /-- The keys are looked at, as they are. -/
  | look
deriving DecidableEq

namespace Device

/-- The exchange that a question with its answer amounts to, if a front end notices any. -/
def exchange? : (question : Question) -> Answer question -> Keys -> Option Exchange
  | .update, answer, keys => some (.update answer keys)
  | .render screen, answer, keys => some (.render screen answer keys)
  | .buzz, answer, keys => some (.buzz answer keys)
  | .keys, _, _ => some .look
  | .name, _, _ | .now, _, _ | .sleep _, _, _ | .report _, _, _ => none

/-- Whether a question may be answered in some way when the keys are as they are `before`, and leave
them as they are `after`. -/
def Admits : (question : Question) -> Answer question -> (before after : Keys) -> Prop
  | .update, _, _, _ | .render _, _, _, _ | .buzz, _, _, _ => True
  | .keys, shown, before, after => shown = before ∧ after = before
  | .name, _, before, after | .now, _, before, after | .sleep _, _, before, after
  | .report _, _, before, after => after = before

/-- A question that a front end does not notice. -/
def Aside : Question -> Prop
  | .name | .now | .sleep _ | .report _ => True
  | .keys | .update | .render _ | .buzz => False

end Device

namespace Dialogue

variable {R S : Type}

/-- A conversation may begin with some keys down, go through some exchanges, leave other keys down,
and have a result. -/
def Talks : DeviceDialogue R -> Keys -> List Exchange -> Keys -> R -> Prop
  | .done result, before, exchanges, after, value =>
      exchanges = [] ∧ after = before ∧ value = result
  | .ask question resume, before, exchanges, after, value =>
      Exists fun answer => Exists fun between => Exists fun rest =>
        Device.Admits question answer before between ∧
          exchanges = (Device.exchange? question answer between).toList ++ rest ∧
          (resume answer).Talks between rest after value

/-- A conversation and its continuation are held one after the other. -/
theorem talks_andThen {dialogue : DeviceDialogue R} {continuation : R -> DeviceDialogue S}
    {before after : Keys} {exchanges : List Exchange} {value : S} :
    (dialogue.andThen continuation).Talks before exchanges after value ↔
      Exists fun between => Exists fun first => Exists fun rest => Exists fun result =>
        dialogue.Talks before first between result ∧
          (continuation result).Talks between rest after value ∧ exchanges = first ++ rest := by
  induction dialogue generalizing before exchanges with
  | done result =>
      constructor
      · intro talks
        exact ⟨before, [], exchanges, result, ⟨rfl, rfl, rfl⟩, talks, rfl⟩
      · rintro ⟨between, first, rest, value, ⟨rfl, rfl, rfl⟩, talks, rfl⟩
        exact talks
  | ask question resume inductionHypothesis =>
      constructor
      · rintro ⟨answer, middle, rest, admits, rfl, talks⟩
        rcases (inductionHypothesis answer).mp talks with
          ⟨between, first, last, result, one, other, rfl⟩
        exact ⟨between, _, last, result, ⟨answer, middle, first, admits, rfl, one⟩, other,
          (List.append_assoc ..).symm⟩
      · rintro ⟨between, first, last, result, ⟨answer, middle, rest, admits, rfl, one⟩, other, rfl⟩
        refine ⟨answer, middle, rest ++ last, admits, List.append_assoc .., ?_⟩
        exact (inductionHypothesis answer).mpr ⟨between, rest, last, result, one, other, rfl⟩

/-- A question is put first, and what follows goes on from its answer. -/
theorem talks_askDevice {question : Device.Question}
    {continuation : Device.Answer question -> DeviceDialogue R} {before after : Keys}
    {exchanges : List Exchange} {value : R} :
    Talks (askDevice question >>= continuation) before exchanges after value ↔
      Exists fun answer => Exists fun between => Exists fun rest =>
        Device.Admits question answer before between ∧
          exchanges = (Device.exchange? question answer between).toList ++ rest ∧
          (continuation answer).Talks between rest after value :=
  Iff.rfl

/-- A question aside leaves no trace but its answer. -/
theorem talks_aside {question : Device.Question}
    {continuation : Device.Answer question -> DeviceDialogue R} {before after : Keys}
    {exchanges : List Exchange} {value : R}
    (talks : Talks (askDevice question >>= continuation) before exchanges after value)
    (aside : Device.Aside question) :
    Exists fun answer => (continuation answer).Talks before exchanges after value := by
  rcases talks with ⟨answer, between, rest, admits, rfl, talks⟩
  cases question with
  | name | now | sleep | report =>
      subst admits
      exact ⟨answer, talks⟩
  | keys | update | render | buzz => exact aside.elim

theorem talks_bind {dialogue : DeviceDialogue R} {continuation : R -> DeviceDialogue S}
    {before after : Keys} {exchanges : List Exchange} {value : S} :
    Talks (dialogue >>= continuation) before exchanges after value ↔
      Exists fun between => Exists fun first => Exists fun rest => Exists fun result =>
        dialogue.Talks before first between result ∧
          (continuation result).Talks between rest after value ∧ exchanges = first ++ rest :=
  talks_andThen

end Dialogue

/-- The devices of a front end, with an inner state to which the keys belong. -/
structure Devices (S : Type) where
  reply : (question : Device.Question) -> StateM S (Device.Answer question)
  keys : S -> Keys
  /-- The keys change only where they may, and are shown as they are. -/
  admits : forall question state,
    let (answer, next) := ((reply question).run state).run
    Device.Admits question answer (keys state) (keys next)

namespace Devices

variable {R S : Type}

/-- The result of a conversation with the devices, and the state that it leaves. -/
def held (devices : Devices S) (dialogue : DeviceDialogue R) (state : S) : R × S :=
  ((dialogue.hold devices.reply).run state).run

/-- What the devices notice of a conversation. -/
def exchanges (devices : Devices S) : DeviceDialogue R -> S -> List Exchange
  | .done _, _ => []
  | .ask question resume, state =>
      let (answer, next) := ((devices.reply question).run state).run
      (Device.exchange? question answer (devices.keys next)).toList ++
        devices.exchanges (resume answer) next

/-- Every conversation with devices is one of those that are possible. -/
theorem talks (devices : Devices S) (dialogue : DeviceDialogue R) (state : S) :
    dialogue.Talks (devices.keys state) (devices.exchanges dialogue state)
      (devices.keys (devices.held dialogue state).2) (devices.held dialogue state).1 := by
  induction dialogue generalizing state with
  | done result => exact ⟨rfl, rfl, rfl⟩
  | ask question resume inductionHypothesis =>
      exact ⟨_, _, _, devices.admits question state, rfl, inductionHypothesis _ _⟩

end Devices
end ChipEight
