namespace ChipEight

/-!
Conversations with the world outside.

A computation that needs devices is written as a dialogue: a tree that either has its result or
puts a question and goes on from the answer.  Nothing is assumed about who answers.  The same
dialogue is held with real devices, with a simulation, or with an arbitrary list of answers, and
what it asks in which order can be read off the tree.
-/

/-- A conversation that ends in a result, where each question has its own type of answer. -/
inductive Dialogue {Question : Type} (Answer : Question -> Type) (R : Type) where
  | done (result : R)
  /-- Put a question and go on from the answer. -/
  | ask (question : Question) (resume : Answer question -> Dialogue Answer R)

namespace Dialogue

variable {Question : Type} {Answer : Question -> Type} {R S T : Type}

/-- Hold a second conversation with the result of the first. -/
def andThen (dialogue : Dialogue Answer R) (continuation : R -> Dialogue Answer S) :
    Dialogue Answer S :=
  match dialogue with
  | done result => continuation result
  | ask question resume => ask question (fun answer => (resume answer).andThen continuation)

theorem andThen_done (dialogue : Dialogue Answer R) : dialogue.andThen done = dialogue := by
  induction dialogue with
  | done result => rfl
  | ask question resume ih => simp only [andThen, ih]

/-- How the parts of a conversation are grouped does not matter. -/
theorem andThen_assoc (dialogue : Dialogue Answer R) (first : R -> Dialogue Answer S)
    (second : S -> Dialogue Answer T) :
    (dialogue.andThen first).andThen second =
      dialogue.andThen (fun result => (first result).andThen second) := by
  induction dialogue with
  | done result => rfl
  | ask question resume ih => simp only [andThen, ih]

instance : Monad (Dialogue Answer) where
  pure := done
  bind := andThen

def put (question : Question) : Dialogue Answer (Answer question) :=
  ask question done

/-- Hold a conversation with someone who answers every question. -/
@[specialize]
def hold {m : Type -> Type} [Monad m] (reply : (question : Question) -> m (Answer question)) :
    Dialogue Answer R -> m R
  | done result => pure result
  | ask question resume => do hold reply (resume (← reply question))

end Dialogue
end ChipEight
