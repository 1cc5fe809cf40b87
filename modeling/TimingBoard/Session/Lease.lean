import TimingBoard.Session.Program

namespace TimingBoard

/-! Holding the terminal.

A lease gives the terminal back exactly once, at the first release or when the lease is dropped. -/

structure Lease where
  released : Bool
deriving DecidableEq, Repr

namespace Lease

def new : Lease := ⟨false⟩

/-- Gives the terminal back.  Whether that works or not, it is not tried again. -/
def release (lease : Lease) : Program (Except Error Unit × Lease) :=
  if lease.released then pure (.ok (), lease)
  else do
    let result ← Program.request .restore
    pure (result, ⟨true⟩)

def failureNote (error : Error) : String := "Failed to restore terminal: " ++ error.message

/-- The end of a lease, also while unwinding.  A failure can only be noted. -/
def drop (lease : Lease) : Program Unit := do
  match ← lease.release with
  | (.ok (), _) => pure ()
  | (.error error, _) => Program.log .terminal .error (failureNote error)

inductive Use where
  | release
  | draw (screen : Screen)
  | poll (nanoseconds : Nat)
  | unwind
deriving DecidableEq, Repr

inductive Used where
  | done
  | key (pressed : Option Key)
  | failed (error : Error)
deriving DecidableEq, Repr

def Used.ofExcept : Except Error Unit → Used
  | .ok () => .done
  | .error error => .failed error

/-- One use; absent when it unwinds. -/
def apply (lease : Lease) : Use → Program (Option (Used × Lease))
  | .release => do
      let (result, lease) ← lease.release
      pure (some (.ofExcept result, lease))
  | .draw screen => do
      match ← Program.request (.draw screen) with
      | .answer () => pure (some (.done, lease))
      | .error error => pure (some (.failed error, lease))
      | .unwinding => pure none
  | .poll nanoseconds => do
      match ← Program.request (.poll nanoseconds) with
      | .answer key => pure (some (.key key, lease))
      | .error error => pure (some (.failed error, lease))
      | .unwinding => pure none
  | .unwind => pure none

/-- Uses in their order, up to one that unwinds, and then the end of the lease.  The lease is kept
after every completed use. -/
def useAll (lease : Lease) : List Use → Program (List (Used × Lease))
  | [] => do
      lease.drop
      pure []
  | use :: rest => do
      match ← lease.apply use with
      | none => do
          lease.drop
          pure []
      | some (used, lease) => do
          let later ← lease.useAll rest
          pure ((used, lease) :: later)

end Lease

end TimingBoard
