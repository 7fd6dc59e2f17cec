import PolicyStore.Counter
import PolicyStore.Namespace.Key
import PolicyStore.RecordStore.Request
import Std.Data.ExtTreeMap

/-!
# Records in memory

A store that keeps its records in a table by name. Ids are given out in ascending order and never
again; time is a count of the writes that changed a row. A request that fails changes nothing.
-/

namespace PolicyStore

structure Row where
  id : RecordId
  value : String
  createdAt : Int
  updatedAt : Int
  deriving DecidableEq, Repr

def Row.record (name : String) (row : Row) : Record :=
  ⟨row.id, name, row.value, row.createdAt, row.updatedAt⟩

structure Memory where
  /-- The last id given out. -/
  lastId : RecordId
  rows : Std.ExtTreeMap String Row
  /-- The number of writes so far that changed a row. -/
  clock : Int

namespace Memory

def empty : Memory := ⟨0, ∅, 0⟩

/-- The records in the order of their names. -/
def records (memory : Memory) : List Record :=
  memory.rows.toList.map fun (name, row) => row.record name

def size (memory : Memory) : Nat := memory.rows.size

def isEmpty (memory : Memory) : Bool := memory.rows.isEmpty

/-- Records in the order of their ids; those of one id stay in the order given. -/
def sortedById (records : List Record) : List Record :=
  records.mergeSort fun a b => a.id ≤ b.id

def loadByName (memory : Memory) (name : String) : Option Record :=
  memory.rows[name]?.map (Row.record name)

/-- The records of the given names; a name given twice counts twice. -/
def loadRecords (memory : Memory) (names : List String) : List Record :=
  sortedById (names.filterMap memory.loadByName)

/-- The records whose names start with a text: in the order of names they follow one another, from
the first name that does not come before the text. -/
def loadByPrefix (memory : Memory) (namePrefix : String) : List Record :=
  sortedById ((memory.records.dropWhile fun record => record.name < namePrefix).takeWhile
    fun record => startsWith namePrefix record.name)

def loadById (memory : Memory) (id : RecordId) : Except StoreError Record :=
  match memory.records.find? fun record => record.id == id with
  | some record => .ok record
  | none => .error (.recordNotFound (.byId id))

def create (memory : Memory) (name value : String) : RecordId × Memory :=
  let id := memory.lastId + 1
  let now := memory.clock + 1
  (id, ⟨id, memory.rows.insert name ⟨id, value, now, now⟩, now⟩)

def overwrite (memory : Memory) (name value : String) (row : Row) : Memory :=
  let now := memory.clock + 1
  ⟨memory.lastId, memory.rows.insert name { row with value := value, updatedAt := now }, now⟩

/-- Writes a value under a name. The value that is already there is not written again. -/
def upsert (memory : Memory) (name value : String) : Except StoreError RecordId × Memory :=
  match overflow? name value with
  | some overflow => (.error (.boundExceeded overflow), memory)
  | none =>
    match memory.rows[name]? with
    | some row =>
      (.ok row.id, if row.value = value then memory else memory.overwrite name value row)
    | none =>
      let (id, memory) := memory.create name value
      (.ok id, memory)

def delete (memory : Memory) (name : String) : Bool × Memory :=
  if memory.rows.contains name then (true, { memory with rows := memory.rows.erase name })
  else (false, memory)

def increment (memory : Memory) (name : String) : Except StoreError Int64 × Memory :=
  match overflow? name "" with
  | some overflow => (.error (.boundExceeded overflow), memory)
  | none =>
    match memory.rows[name]? with
    | none => (.ok 1, (memory.create name "1").2)
    | some row =>
      match parseCounter name row.value with
      | .error fault => (.error fault, memory)
      | .ok n =>
        match nextCount? n with
        | none => (.error (.counterOverflow name), memory)
        | some next => (.ok next, memory.overwrite name (toString next) row)

def answer (memory : Memory) : (request : Request) → Answer request × Memory
  | .loadRecords names => (.ok (memory.loadRecords names), memory)
  | .loadByName name => (.ok (memory.loadByName name), memory)
  | .loadByPrefix namePrefix => (.ok (memory.loadByPrefix namePrefix), memory)
  | .loadById id => (memory.loadById id, memory)
  | .upsert name value => memory.upsert name value
  | .delete name =>
    let (existed, memory) := memory.delete name
    (.ok existed, memory)
  | .increment name => memory.increment name

/-- Waits that are put before and after each request, in milliseconds. -/
structure Pace where
  before : Nat
  after : Nat
  deriving DecidableEq, Repr

def Pace.instant : Pace := ⟨0, 0⟩

def paced (pace : Pace) : RecordStore Memory := fun memory request =>
  let (answer, memory) := memory.answer request
  ⟨pace.before, memory, some pace.after, answer⟩

end Memory

end PolicyStore
