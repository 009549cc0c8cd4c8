import SqlLoom.ParamTable

/-!
# `SqlLoom.Connection.Binding`: parameters on their way to the engine

An engine binds parameters by name without the colon mark, some under an explicit type, and fills
output parameters in. `Binding.ofParams` sorts a parameter table into the three.
-/

set_option autoImplicit false

namespace SqlLoom

/-- A name without the colons in front. -/
def bareName (name : String) : String := String.ofList (name.toList.dropWhile (· == ':'))

/-- An output parameter. -/
structure OutSlot where
  type : BindType
  size : Int
  column : Option String

/-- Parameters as an engine binds them. -/
structure Binding where
  /-- The values under bare names. -/
  values : Entries Value
  /-- The names that are bound under an explicit type. -/
  typed : List (String × BindType)
  /-- The output parameters under bare names. -/
  outs : Entries OutSlot

namespace Binding

/-- A value in the form in which it is bound under a type: a large object is made of octets. -/
def boundForm (v : Value) (type : BindType) : Value :=
  match type, v.text? with
  | .lob, some s => .bytes s.toUTF8.toList
  | _, _ => v

/-- Adds one parameter. -/
def add (b : Binding) (name : String) (v : Value) : Binding :=
  let key := bareName name
  match v with
  | .out type size column _ => { b with outs := b.outs.put key ⟨type, size, column⟩ }
  | .typed v type =>
    { b with values := b.values.put key (boundForm v type), typed := b.typed ++ [(key, type)] }
  | v => { b with values := b.values.put key v }

/-- The binding of named parameters. -/
def ofParams (params : Entries Value) : Binding :=
  params.foldl (fun b e => b.add e.1 e.2) ⟨[], [], []⟩

/-- The names whose type is declared to the engine, which must stand in the statement. -/
def declared (b : Binding) : List String := b.typed.map Prod.fst ++ b.outs.names

end Binding

/-- The length under which an output parameter is declared. -/
def OutSlot.length? (o : OutSlot) : Option Int :=
  if o.type = .str && 0 < o.size then some o.size else none

/-- The name of the SQL type of a bind type. -/
def BindType.sqlType : BindType → String
  | .str => "String"
  | .int => "Integer"
  | .bool => "Boolean"
  | .null => "NullType"
  | .lob => "LargeBinary"

/-- The value is an output parameter. -/
def Value.isOut : Value → Bool
  | .out .. => true
  | _ => false

/-- An output parameter with a value that was returned. -/
def Value.filledWith (v returned : Value) : Value :=
  match v with
  | .out type size column _ => .out type size column returned
  | v => v

/-- The parameters with their output parameters filled from what the engine returned under bare
names. Of several output parameters of one bare name the last one is filled. -/
def fillOuts (returned : Entries Value) : Entries Value → Entries Value
  | [] => []
  | (name, v) :: rest =>
    let key := bareName name
    let later := rest.any fun e => e.2.isOut && bareName e.1 = key
    (name, if later then v else v.filledWith ((returned.get? key).getD .null))
      :: fillOuts returned rest

end SqlLoom
