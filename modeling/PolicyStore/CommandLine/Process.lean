import PolicyStore.CommandLine.Invocation

/-!
# A run of the program

The arguments are understood, the settings are taken from them, a record store is connected to, and
the command is performed on a service over it. Each of these may end the run, which then has an exit
code and leaves text on its output and lines on its error output.
-/

namespace PolicyStore

inductive Ending
  /-- The arguments ask for help or are not understood. -/
  | unread (fault : UsageFault)
  /-- There is no record store to work on. -/
  | unconnected (error : StoreError)
  /-- The settings are not acceptable, or the command failed. -/
  | failed (error : CommandError)
  | done (report : Report)
  deriving DecidableEq, Repr

/-- The exit code of a fault: help is given where it was asked for. -/
def UsageFault.exitCode : UsageFault → Nat
  | .helpAsked _ => 0
  | _ => 2

namespace Ending

/-- The failure of a run whose arguments were understood. -/
def error? : Ending → Option CommandError
  | .unread _ | .done _ => none
  | .unconnected error => some (.ofPolicyError (.ofStoreError error))
  | .failed error => some error

def exitCode : Ending → Nat
  | .unread fault => fault.exitCode
  | .unconnected error => (CommandError.ofPolicyError (.ofStoreError error)).exitCode
  | .failed error => error.exitCode
  | .done _ => 0

def output : Ending → String
  | .done report => report.text ++ "\n"
  | .unread (.helpAsked page) => page
  | _ => ""

/-- What a run writes to its error output. -/
def complaint (ending : Ending) : String :=
  match ending with
  | .done report =>
    String.join (report.warnings.map fun warning => "warning: " ++ warning ++ "\n")
  | .unread (.helpAsked _) => ""
  | .unread fault => "error: " ++ fault.message ++ "\n"
  | _ => (ending.error?.map fun error => "error: " ++ error.message ++ "\n").getD ""

end Ending

structure Surroundings (σ : Type) where
  environment : Environment
  files : Files
  connect : Settings → Except StoreError (Connection σ)
  /-- When the program is told to stop, in milliseconds after its command was begun. -/
  signal : Option Nat

namespace Surroundings

variable {σ : Type}

/-- Performs a command; gives how the run ends, which may be never, and the state of the store. -/
def perform (surroundings : Surroundings σ) (invocation : Invocation)
    (connection : Connection σ) : Option Ending × σ :=
  let (result, service, _) :=
    invocation.command.perform invocation.format surroundings.files
      (connection.service ⟨some .fresh, none⟩) surroundings.signal
  (result.map fun
    | .ok report => .done report
    | .error error => .failed error,
  service.state)

/-- Runs the program; the state of the store is there if it was connected to. -/
def run (surroundings : Surroundings σ) (arguments : List String) : Option Ending × Option σ :=
  match Invocation.parse surroundings.environment arguments with
  | .error fault => (some (.unread fault), none)
  | .ok invocation =>
    match invocation.settings with
    | .error error => (some (.failed (.ofPolicyError (.ofStoreError error))), none)
    | .ok settings =>
      match surroundings.connect settings with
      | .error error => (some (.unconnected error), none)
      | .ok connection =>
        let (ending, state) := surroundings.perform invocation connection
        (ending, some state)

end Surroundings

end PolicyStore
