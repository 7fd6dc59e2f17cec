import PolicyStore.StoreError

/-!
# Bringing a database up to date

A database keeps a list of the migrations applied to it. A migration that was begun and not finished
stops everything; a known one has to be there in the same wording, or is applied. Migrations that are
not known here are let be.
-/

namespace PolicyStore.Database

structure AppliedMigration where
  version : Nat
  /-- Whether it was applied in the wording that is known here. -/
  isSame : Bool
  isFinished : Bool
  deriving DecidableEq, Repr

inductive MigrationStep
  | apply (version : Nat)
  | stop (fault : MigrationFault)
  deriving DecidableEq, Repr

def knownVersions : List Nat := [1]

def migrationStep? (applied : List AppliedMigration) (version : Nat) : Option MigrationStep :=
  match applied.find? fun entry => entry.version == version with
  | none => some (.apply version)
  | some entry => if entry.isSame then none else some (.stop (.modified version))

def migrationSteps (applied : List AppliedMigration) : List MigrationStep :=
  match applied.find? fun entry => !entry.isFinished with
  | some entry => [.stop (.dirty entry.version)]
  | none => knownVersions.filterMap (migrationStep? applied)

/-- Takes steps until one of them fails. The database says whether it refuses a migration; the
versions whose migrations were sent to it are told as well. -/
def takeSteps (refusal? : Nat → Option DatabaseFault) :
    List MigrationStep → Except MigrationFault Unit × List Nat
  | [] => (.ok (), [])
  | .stop fault :: _ => (.error fault, [])
  | .apply version :: steps =>
    match refusal? version with
    | some fault => (.error (.refused version fault), [version])
    | none =>
      let (result, sent) := takeSteps refusal? steps
      (result, version :: sent)

def migrate (applied : List AppliedMigration) (refusal? : Nat → Option DatabaseFault) :
    Except MigrationFault Unit × List Nat :=
  takeSteps refusal? (migrationSteps applied)

end PolicyStore.Database
