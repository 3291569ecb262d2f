import PackageSignature.Error
import PackageSignature.SignerChoice
/-! Runs that keep a log. A run yields the events that it passed and, in the end, a value
or a failure; what follows a failure does not happen and leaves no event. -/

namespace PackageSignature

inductive Event where
  | decoded (path : Path) (version : UInt32)
  | selected (choice : SignerChoice) (blocks : Nat)
  | resolved (algorithm : SignatureAlgorithm)
  | verified (algorithm : SignatureAlgorithm)
  | failed (path : Path) (error : VerifyError)
deriving DecidableEq, Repr

namespace Event

def line : Event → String
  | decoded path version =>
      s!"DEBUG decoded v4 signature envelope path={path.text} version={version}"
  | selected choice blocks =>
      s!"DEBUG selected v4 signer selector={choice.text} blocks={blocks}"
  | resolved algorithm => s!"DEBUG resolved signature algorithm algorithm={algorithm.name}"
  | verified algorithm => s!"DEBUG v4 signature verified algorithm={algorithm.name}"
  | failed path error =>
      s!"WARN v4 signature verification failed path={path.text} kind={error.kind.name} " ++
        s!"error={error.message}"

end Event

structure Traced (α : Type) where
  events : List Event
  result : Except VerifyError α

namespace Traced

variable {α β : Type}

def lift (result : Except VerifyError α) : Traced α where
  events := []
  result := result

def emit (event : Event) : Traced Unit where
  events := [event]
  result := .ok ()

def fail (error : VerifyError) : Traced α :=
  lift (.error error)

def bind (first : Traced α) (next : α → Traced β) : Traced β :=
  match first.result with
  | .ok value =>
      { events := first.events ++ (next value).events, result := (next value).result }
  | .error error => { events := first.events, result := .error error }

instance : Monad Traced where
  pure value := lift (.ok value)
  bind := bind

def onFailure (run : Traced α) (event : VerifyError → Event) : Traced α :=
  match run.result with
  | .ok _ => run
  | .error error => { run with events := run.events ++ [event error] }

@[simp] theorem result_lift (result : Except VerifyError α) : (lift result).result = result := rfl

@[simp] theorem events_lift (result : Except VerifyError α) : (lift result).events = [] := rfl

@[simp] theorem result_pure (value : α) : (pure value : Traced α).result = .ok value := rfl

@[simp] theorem events_pure (value : α) : (pure value : Traced α).events = [] := rfl

@[simp] theorem result_emit (event : Event) : (emit event).result = .ok () := rfl

@[simp] theorem events_emit (event : Event) : (emit event).events = [event] := rfl

@[simp] theorem result_bind (first : Traced α) (next : α → Traced β) :
    (first >>= next).result = first.result.bind (fun value => (next value).result) := by
  show (bind first next).result = _
  unfold bind
  cases outcome : first.result <;> simp [Except.bind]

theorem events_bind (first : Traced α) (next : α → Traced β) :
    (first >>= next).events =
      first.events ++
        match first.result with
        | .ok value => (next value).events
        | .error _ => [] := by
  show (bind first next).events = _
  unfold bind
  cases outcome : first.result <;> simp

@[simp] theorem result_onFailure (run : Traced α) (event : VerifyError → Event) :
    (onFailure run event).result = run.result := by
  unfold onFailure
  cases outcome : run.result <;> simp [outcome]

end Traced

end PackageSignature
