import Mathlib.Data.List.Basic

/-!
# Programs that fail and crash

A program performs named operations on a state.  A fault plan decides for each
operation whether it takes effect, fails, or never runs because the machine
stops there.  An error ends the program unless it is caught; a crash always
ends it and leaves the state as it was.

`Meets` is the triple of such a program: what holds when it returns, when it
fails and when it crashes.
-/

namespace Dsql

inductive Fault where
  | none
  | failure
  | crash
deriving DecidableEq, Repr

inductive Outcome (ε α : Type) where
  | done (value : α)
  | failed (error : ε)
  | crashed
deriving DecidableEq, Repr

/-- A program over operations `O`, states `σ` and errors `ε`. -/
def Program (O σ ε α : Type) : Type :=
  (O → Fault) → σ → Outcome ε α × σ

namespace Program

variable {O σ ε α β : Type}

def ret (value : α) : Program O σ ε α :=
  fun _ state => (.done value, state)

def chain
    (program : Program O σ ε α)
    (next : α → Program O σ ε β) : Program O σ ε β :=
  fun plan state =>
    match program plan state with
    | (.done value, state) => next value plan state
    | (.failed error, state) => (.failed error, state)
    | (.crashed, state) => (.crashed, state)

instance : Monad (Program O σ ε) where
  pure := ret
  bind := chain

def throw (error : ε) : Program O σ ε α :=
  fun _ state => (.failed error, state)

/-- Reads the state without touching the disk. -/
def inspect (f : σ → α) : Program O σ ε α :=
  fun _ state => (.done (f state), state)

/-- One operation on the state. -/
def perform (op : O) (error : ε) (effect : σ → σ) : Program O σ ε Unit :=
  fun plan state =>
    match plan op with
    | .none => (.done (), effect state)
    | .failure => (.failed error, state)
    | .crash => (.crashed, state)

/-- A change of the state that no fault can prevent. -/
def modify (effect : σ → σ) : Program O σ ε Unit :=
  fun _ state => (.done (), effect state)

/-- One operation that reads the state. -/
def observe (op : O) (error : ε) (f : σ → α) : Program O σ ε α :=
  perform op error id >>= fun _ => inspect f

/-- Runs a program and hands its error to `handler`. -/
def onError
    (program : Program O σ ε α)
    (handler : ε → Program O σ ε α) : Program O σ ε α :=
  fun plan state =>
    match program plan state with
    | (.done value, state) => (.done value, state)
    | (.failed error, state) => handler error plan state
    | (.crashed, state) => (.crashed, state)

/-- What a program guarantees under a fault plan: `post` when it returns,
`onFail` when it fails and `onCrash` when it crashes. -/
def Meets
    (plan : O → Fault)
    (pre : σ → Prop)
    (program : Program O σ ε α)
    (post : α → σ → Prop)
    (onFail : ε → σ → Prop)
    (onCrash : σ → Prop) : Prop :=
  ∀ state, pre state →
    match program plan state with
    | (.done value, after) => post value after
    | (.failed error, after) => onFail error after
    | (.crashed, after) => onCrash after

section Rules

variable {plan : O → Fault}
variable {pre : σ → Prop}
variable {onFail : ε → σ → Prop}
variable {onCrash : σ → Prop}

theorem meets_pure
    {value : α}
    {post : α → σ → Prop}
    (h : ∀ state, pre state → post value state) :
    Meets plan pre (pure value : Program O σ ε α) post onFail onCrash :=
  h

theorem meets_throw
    {error : ε}
    {post : α → σ → Prop}
    (h : ∀ state, pre state → onFail error state) :
    Meets plan pre (throw error : Program O σ ε α) post onFail onCrash :=
  h

theorem meets_inspect
    {f : σ → α}
    {post : α → σ → Prop}
    (h : ∀ state, pre state → post (f state) state) :
    Meets plan pre (inspect f : Program O σ ε α) post onFail onCrash :=
  h

theorem meets_modify
    {effect : σ → σ}
    {post : Unit → σ → Prop}
    (h : ∀ state, pre state → post () (effect state)) :
    Meets plan pre (modify effect : Program O σ ε Unit) post onFail onCrash :=
  h

/-- Programs one after the other. -/
theorem meets_bind
    {program : Program O σ ε α}
    {next : α → Program O σ ε β}
    {post : β → σ → Prop}
    (mid : α → σ → Prop)
    (hprogram : Meets plan pre program mid onFail onCrash)
    (hnext : ∀ value,
      Meets plan (mid value) (next value) post onFail onCrash) :
    Meets plan pre (program >>= next) post onFail onCrash := by
  intro state hstate
  have hmid := hprogram state hstate
  show match chain program next plan state with
    | (.done value, after) => post value after
    | (.failed error, after) => onFail error after
    | (.crashed, after) => onCrash after
  unfold chain
  rcases hresult : program plan state with ⟨outcome, after⟩
  rw [hresult] at hmid
  cases outcome with
  | done value => exact hnext value after hmid
  | failed error => exact hmid
  | crashed => exact hmid

/-- An operation that may fail or crash. -/
theorem meets_perform
    {op : O}
    {error : ε}
    {effect : σ → σ}
    {post : Unit → σ → Prop}
    (hdone : ∀ state, pre state → post () (effect state))
    (hfail : plan op = .failure → ∀ state, pre state → onFail error state)
    (hcrash : plan op = .crash → ∀ state, pre state → onCrash state) :
    Meets plan pre (perform op error effect) post onFail onCrash := by
  intro state hstate
  unfold perform
  cases hop : plan op with
  | none => exact hdone state hstate
  | failure => exact hfail hop state hstate
  | crash => exact hcrash hop state hstate

/-- An observation that may fail or crash. -/
theorem meets_observe
    {op : O}
    {error : ε}
    {f : σ → α}
    {post : α → σ → Prop}
    (hdone : ∀ state, pre state → post (f state) state)
    (hfail : plan op = .failure → ∀ state, pre state → onFail error state)
    (hcrash : plan op = .crash → ∀ state, pre state → onCrash state) :
    Meets plan pre (observe op error f) post onFail onCrash :=
  meets_bind (fun _ => pre)
    (meets_perform (fun _ h => h) hfail hcrash)
    (fun _ => meets_inspect hdone)

/-- A failure is handled. -/
theorem meets_onError
    {program : Program O σ ε α}
    {handler : ε → Program O σ ε α}
    {post : α → σ → Prop}
    (caught : ε → σ → Prop)
    (hprogram : Meets plan pre program post caught onCrash)
    (hhandler : ∀ error,
      Meets plan (caught error) (handler error) post onFail onCrash) :
    Meets plan pre (onError program handler) post onFail onCrash := by
  intro state hstate
  have hmid := hprogram state hstate
  unfold onError
  rcases hresult : program plan state with ⟨outcome, after⟩
  rw [hresult] at hmid
  cases outcome with
  | done value => exact hmid
  | failed error => exact hhandler error after hmid
  | crashed => exact hmid

/-- The rule of consequence. -/
theorem meets_consequence
    {program : Program O σ ε α}
    {pre' : σ → Prop}
    {post post' : α → σ → Prop}
    {onFail' : ε → σ → Prop}
    {onCrash' : σ → Prop}
    (h : Meets plan pre program post onFail onCrash)
    (hpre : ∀ state, pre' state → pre state)
    (hpost : ∀ value state, post value state → post' value state)
    (hfail : ∀ error state, onFail error state → onFail' error state)
    (hcrash : ∀ state, onCrash state → onCrash' state) :
    Meets plan pre' program post' onFail' onCrash' := by
  intro state hstate
  have hmeets := h state (hpre state hstate)
  rcases hresult : program plan state with ⟨outcome, after⟩
  rw [hresult] at hmeets
  cases outcome with
  | done value => exact hpost value after hmeets
  | failed error => exact hfail error after hmeets
  | crashed => exact hcrash after hmeets

/-- A fact about no state may be assumed. -/
theorem meets_assuming
    {program : Program O σ ε α}
    {fact : Prop}
    {post : α → σ → Prop}
    (h : fact → Meets plan pre program post onFail onCrash) :
    Meets plan (fun state => fact ∧ pre state) program post onFail onCrash :=
  fun state hstate => h hstate.1 state hstate.2

/-- What holds however a program ends holds of the state that it leaves. -/
theorem Meets.state
    {program : Program O σ ε α}
    {always : σ → Prop}
    (h : Meets plan pre program (fun _ => always) (fun _ => always) always)
    {state : σ}
    (hstate : pre state) :
    always (program plan state).2 := by
  have hmeets := h state hstate
  rcases hresult : program plan state with ⟨outcome, after⟩
  rw [hresult] at hmeets
  cases outcome with
  | done value => exact hmeets
  | failed error => exact hmeets
  | crashed => exact hmeets

/-- A program that is done goes on with the next. -/
theorem bind_run
    {program : Program O σ ε α}
    {next : α → Program O σ ε β}
    {state after : σ}
    {value : α}
    (h : program plan state = (.done value, after)) :
    (program >>= next) plan state = next value plan after := by
  show chain program next plan state = next value plan after
  unfold chain
  rw [h]

/-- An observation without a fault changes nothing. -/
theorem observe_run
    {op : O}
    {error : ε}
    {f : σ → α}
    (h : plan op = .none)
    (state : σ) :
    observe op error f plan state = (.done (f state), state) := by
  have hperform : perform op error id plan state = (.done (), state) := by
    unfold perform
    rw [h]
    rfl
  exact bind_run hperform

end Rules

end Program

end Dsql
