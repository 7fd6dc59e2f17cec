import PolicyStore.RecordStore.Request

/-!
# Statements

A database keeps the record table behind stored functions. Every request to the record store is one
call of such a function, with the arguments of the request in their order.
-/

namespace PolicyStore.Database

inductive Argument
  | integer (n : Int64)
  | text (s : String)
  | texts (items : List String)
  deriving DecidableEq, Repr

structure Statement where
  text : String
  arguments : List Argument
  deriving DecidableEq, Repr

def statement : Request → Statement
  | .loadRecords names =>
    ⟨"SELECT * FROM rpcgate_config.fetch_configs_by_names(_names => $1)", [.texts names]⟩
  | .loadByName name =>
    ⟨"SELECT * FROM rpcgate_config.fetch_config_by_name(_name => $1)", [.text name]⟩
  | .loadByPrefix namePrefix =>
    ⟨"SELECT * FROM rpcgate_config.fetch_configs_by_prefix(_prefix => $1)", [.text namePrefix]⟩
  | .loadById id =>
    ⟨"SELECT * FROM rpcgate_config.fetch_config_by_id(_id => $1)", [.integer id]⟩
  | .upsert name value =>
    ⟨"SELECT rpcgate_config.upsert_config(_name => $1, _value => $2)", [.text name, .text value]⟩
  | .delete name =>
    ⟨"SELECT rpcgate_config.delete_config(_name => $1)", [.text name]⟩
  | .increment name =>
    ⟨"SELECT rpcgate_config.increment_counter(_name => $1)", [.text name]⟩

/-- What a request is called in failures. -/
def operationName : Request → String
  | .loadRecords _ => "load config records by names"
  | .loadByName _ => "load config record by name"
  | .loadByPrefix _ => "load config records by prefix"
  | .loadById _ => "load config record by id"
  | .upsert _ _ => "upsert config record"
  | .delete _ => "delete config record"
  | .increment _ => "increment config counter"

end PolicyStore.Database
