/-! # Programs as trees of calls

A program is a pure value: what it still has to do, one call at a time, for every result a call may
have. A call may fail, and a failed call raises unless the program attempts it. What a call does is
left to the machine that runs the program. -/

namespace Pool

/-- A program over the calls `Call`, with failures `ε` and result `α`. -/
inductive Program (Call : Type → Type 1) (ε α : Type) : Type 1
  /-- The program is over, with this result. -/
  | done (value : α)
  /-- The program gave up. -/
  | raise (failure : ε)
  /-- One call, and what follows each of its results. -/
  | call {β : Type} (request : Call β) (next : Except ε β → Program Call ε α)

namespace Program

variable {Call : Type → Type 1} {ε α β γ : Type}

/-- One program after another. -/
def bind (program : Program Call ε α) (next : α → Program Call ε β) : Program Call ε β :=
  match program with
  | done value => next value
  | raise failure => raise failure
  | call request rest => call request fun result => (rest result).bind next

instance : Monad (Program Call ε) where
  pure := done
  bind := bind

/-- Pure programs are done. -/
@[simp] theorem pure_eq (value : α) : (pure value : Program Call ε α) = done value := rfl

/-- Binding runs one program and then the next. -/
@[simp] theorem bind_eq (program : Program Call ε α) (next : α → Program Call ε β) :
    program >>= next = program.bind next := rfl

/-- A value is handed on. -/
@[simp] theorem done_bind (value : α) (next : α → Program Call ε β) :
    (done value : Program Call ε α).bind next = next value := rfl

/-- A failure skips the rest. -/
@[simp] theorem raise_bind (failure : ε) (next : α → Program Call ε β) :
    (raise failure : Program Call ε α).bind next = raise failure := rfl

/-- A call comes first, and the rest after its result. -/
@[simp] theorem call_bind {δ : Type} (request : Call δ) (rest : Except ε δ → Program Call ε α)
    (next : α → Program Call ε β) :
    (call request rest).bind next = call request fun result => (rest result).bind next := rfl

/-- The program of a known result. -/
def ofExcept : Except ε α → Program Call ε α
  | .ok value => done value
  | .error failure => raise failure

/-- One call, raising when it fails. -/
def perform (request : Call α) : Program Call ε α := call request ofExcept

/-- A program whose failure is a result, as a caller sees that logs it and goes on. -/
def attempt : Program Call ε α → Program Call ε (Except ε α)
  | done value => done (.ok value)
  | raise failure => done (.error failure)
  | call request rest => call request fun result => (rest result).attempt

/-- The body for each element, in order; the first failure ends the loop. -/
def forEach (body : α → Program Call ε Unit) : List α → Program Call ε Unit
  | [] => done ()
  | x :: rest => (body x).bind fun _ => forEach body rest

/-- The body for each element, in order, with a value carried from one to the next. -/
def foldEach (body : γ → α → Program Call ε γ) (carried : γ) : List α → Program Call ε γ
  | [] => done carried
  | x :: rest => (body carried x).bind fun carried => foldEach body carried rest

end Program

end Pool
