import Mathlib.Data.List.Basic

/-!
# Programs that follow pointers

A program leaves a trace of events, and it ends with a value, with an exception
or by following a null pointer.  Only `deref` follows pointers, so whether a
program is safe is computed along its binds.  A dispatcher is a program that
has to answer: it reports an error or it calls a handler.
-/

namespace Pointers

/-- Why a program ends without a value. -/
inductive Stop
  | exception (text : String)
  | nullPointer
  deriving DecidableEq

/-- The events of a program, and how it ends. -/
structure Program (Event Value : Type) where
  events : List Event
  result : Except Stop Value

namespace Program

variable {Event Value Next : Type}

instance : Monad (Program Event) where
  pure value := ⟨[], .ok value⟩
  bind program next :=
    match program.result with
    | .ok value =>
        ⟨program.events ++ (next value).events, (next value).result⟩
    | .error stop => ⟨program.events, .error stop⟩

/-- Something that can be observed, one event after the other. -/
def emits (events : List Event) : Program Event Unit :=
  ⟨events, .ok ()⟩

/-- Throw an exception. -/
def throwing (text : String) : Program Event Value :=
  ⟨[], .error (.exception text)⟩

/-- Follow a pointer. -/
def deref : Option Value → Program Event Value
  | some value => pure value
  | none => ⟨[], .error .nullPointer⟩

/-- The program follows no null pointer. -/
def Safe (program : Program Event Value) : Prop :=
  program.result ≠ .error .nullPointer

variable {program : Program Event Value} {next : Value → Program Event Next}
variable {pointer : Option Value} {events : List Event}

@[simp] theorem safe_pure (value : Value) :
    (pure value : Program Event Value).Safe := by
  intro stopped
  cases stopped

@[simp] theorem safe_emits (events : List Event) : (emits events).Safe := by
  intro stopped
  cases stopped

@[simp] theorem safe_throwing (text : String) :
    (throwing text : Program Event Value).Safe := by
  intro stopped
  cases stopped

theorem safe_bind_iff :
    (program >>= next).Safe ↔
      program.Safe ∧
        ∀ value, program.result = .ok value → (next value).Safe := by
  obtain ⟨events, result⟩ := program
  cases result with
  | ok value =>
      constructor
      · intro safe
        refine ⟨@safe_pure Event Value value, ?_⟩
        rintro other isValue
        obtain rfl := Except.ok.inj isValue
        exact safe
      · exact fun safe => safe.2 value rfl
  | error stop =>
      cases stop with
      | exception text =>
          refine iff_of_true (@safe_throwing Event Next text)
            ⟨@safe_throwing Event Value text, ?_⟩
          intro value isValue
          cases isValue
      | nullPointer =>
          exact iff_of_false (fun safe => safe rfl) fun safe => safe.1 rfl

/-- What follows a pointer is safe if the pointer leads somewhere and what is
done with the value is safe. -/
@[simp] theorem safe_deref_bind_iff :
    (deref pointer >>= next).Safe ↔
      ∃ value, pointer = some value ∧ (next value).Safe := by
  cases pointer with
  | none =>
      constructor
      · exact fun safe => absurd rfl safe
      · rintro ⟨value, isValue, _⟩
        cases isValue
  | some value =>
      constructor
      · exact fun safe => ⟨value, rfl, safe⟩
      · rintro ⟨other, isValue, safe⟩
        obtain rfl := Option.some.inj isValue
        exact safe

/-- A program that follows one pointer and is safe from then on. -/
theorem safe_deref_bind_iff_ne_none (safe : ∀ value, (next value).Safe) :
    (deref pointer >>= next).Safe ↔ pointer ≠ none := by
  rw [safe_deref_bind_iff, Option.ne_none_iff_exists']
  simp [safe]

/-- The events before a bind are events of the whole program. -/
theorem mem_events_bind {event : Event} (isEvent : event ∈ program.events) :
    event ∈ (program >>= next).events := by
  obtain ⟨events, result⟩ := program
  cases result with
  | ok value => exact List.mem_append_left _ isEvent
  | error stop => exact isEvent

end Program

/-! ## Dispatchers -/

/-- What a dispatcher and its handlers can be seen to do. -/
inductive Event (Call : Type)
  /-- An error is reported. -/
  | report (text : String)
  /-- The handler for a kind of message is called. -/
  | process (message : String)
  /-- A handler calls another component. -/
  | call (call : Call)
  deriving DecidableEq

namespace Program

variable {Call Value : Type} {action body : Program (Event Call) Unit}

/-- Report an error. -/
def report (text : String) : Program (Event Call) Unit :=
  emits [.report text]

/-- Call other components. -/
def calls (calls : List Call) : Program (Event Call) Unit :=
  emits (calls.map .call)

/-- The calls of other components, in order. -/
def called (action : Program (Event Call) Value) : List Call :=
  action.events.filterMap fun event =>
    match event with
    | .call call => some call
    | _ => none

/-- Call the handler for a kind of message. -/
def handle (message : String) (body : Program (Event Call) Unit) :
    Program (Event Call) Unit :=
  emits [.process message] >>= fun _ => body

/-- An error is reported, or a handler is called. -/
def Answers (action : Program (Event Call) Unit) : Prop :=
  (∃ text, action.result = .error (.exception text)) ∨
    ∃ event ∈ action.events,
      (∃ text, event = .report text) ∨ ∃ message, event = .process message

/-- The message is answered, and no null pointer is followed. -/
structure Dispatches (action : Program (Event Call) Unit) : Prop where
  safe : action.Safe
  answers : action.Answers

@[simp] theorem safe_report (text : String) :
    (report text : Program (Event Call) Unit).Safe :=
  safe_emits _

@[simp] theorem safe_calls (list : List Call) :
    (calls list : Program (Event Call) Unit).Safe :=
  safe_emits _

@[simp] theorem called_calls (list : List Call) :
    (calls list : Program (Event Call) Unit).called = list := by
  simp [called, calls, emits, List.filterMap_map]

/-- A pointer that leads somewhere is followed without a trace. -/
theorem deref_some_bind {Next : Type} (value : Value)
    (next : Value → Program (Event Call) Next) :
    deref (some value) >>= next = next value :=
  rfl

@[simp] theorem called_handle (message : String) :
    (handle message body).called = body.called :=
  rfl

@[simp] theorem dispatches_throwing (text : String) :
    Dispatches (throwing text : Program (Event Call) Unit) :=
  ⟨safe_throwing text, .inl ⟨text, rfl⟩⟩

@[simp] theorem dispatches_report (text : String) :
    Dispatches (report text : Program (Event Call) Unit) :=
  ⟨safe_report text, .inr ⟨_, List.mem_singleton_self _, .inl ⟨text, rfl⟩⟩⟩

/-- With the call of a handler the message is answered. -/
@[simp] theorem dispatches_handle_iff (message : String) :
    Dispatches (handle message body) ↔ body.Safe := by
  have safe : (handle message body).Safe ↔ body.Safe := .rfl
  constructor
  · exact fun dispatches => safe.mp dispatches.safe
  · intro isSafe
    refine ⟨safe.mpr isSafe, .inr ⟨.process message, ?_, .inr ⟨_, rfl⟩⟩⟩
    exact mem_events_bind (List.mem_singleton_self _)

/-- A dispatcher that needs a submessage dispatches if it is there. -/
@[simp] theorem dispatches_deref_bind_iff
    {pointer : Option Value} {next : Value → Program (Event Call) Unit} :
    Dispatches (deref pointer >>= next) ↔
      ∃ value, pointer = some value ∧ Dispatches (next value) := by
  cases pointer with
  | none =>
      constructor
      · exact fun dispatches => absurd rfl dispatches.safe
      · rintro ⟨value, isValue, _⟩
        cases isValue
  | some value =>
      constructor
      · exact fun dispatches => ⟨value, rfl, dispatches⟩
      · rintro ⟨other, isValue, dispatches⟩
        obtain rfl := Option.some.inj isValue
        exact dispatches

end Program

end Pointers
