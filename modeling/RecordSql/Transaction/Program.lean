import RecordSql.ResultSet
import RecordSql.Statement.Plan

/-!
What a transaction is asked to do: statements, each with those that its
callbacks issue once it has settled. Every statement has a place in this tree.
-/

namespace RecordSql

/-- A callback that is not set is `none`; one that issues nothing is `some []`. -/
structure Statement where
  sql : String
  params : List Value
  onSuccess : Option (List Statement)
  onFailure : Option (List Statement)

abbrev Outcome := Except Failure ResultSet

namespace Statement

instance : Inhabited Statement := ⟨⟨"", [], none, none⟩⟩

def planned (statement : Statement) (mode : CollectionMode) : Except Failure Plan :=
  plan mode statement.sql statement.params

/-- The callback that an outcome reaches. -/
def callback (statement : Statement) : Outcome → Option (List Statement)
  | .ok _ => statement.onSuccess
  | .error _ => statement.onFailure

mutual

/-- A bound on the turns that a statement and all that may follow it take: two
requests and a settlement each. -/
def turns : Statement → Nat
  | ⟨_, _, onSuccess, onFailure⟩ => 3 + callbackTurns onSuccess + callbackTurns onFailure

def callbackTurns : Option (List Statement) → Nat
  | none => 0
  | some statements => listTurns statements

def listTurns : List Statement → Nat
  | [] => 0
  | statement :: rest => turns statement + listTurns rest

end

theorem listTurns_getD (callback : Option (List Statement)) :
    listTurns (callback.getD []) = callbackTurns callback := by
  cases callback <;> rfl

end Statement

inductive Place where
  | top (index : Nat)
  | afterSuccess (parent : Place) (index : Nat)
  | afterFailure (parent : Place) (index : Nat)
deriving DecidableEq

namespace Place

def text : Place → String
  | .top index => Text.decimal index
  | .afterSuccess parent index => parent.text ++ ".ok." ++ Text.decimal index
  | .afterFailure parent index => parent.text ++ ".err." ++ Text.decimal index

/-- Where the statements stand that are issued after an outcome. -/
def following (place : Place) : Outcome → Nat → Place
  | .ok _ => .afterSuccess place
  | .error _ => .afterFailure place

end Place

structure Issued where
  place : Place
  statement : Statement

namespace Issued

/-- Statements issued together, from an index on. -/
def number (placed : Nat → Place) : Nat → List Statement → List Issued
  | _, [] => []
  | index, statement :: rest =>
      ⟨placed index, statement⟩ :: number placed (index + 1) rest

def hears (issued : Issued) (outcome : Outcome) : Bool :=
  (issued.statement.callback outcome).isSome

/-- What the callback that an outcome reaches issues. -/
def followers (issued : Issued) (outcome : Outcome) : List Issued :=
  number (issued.place.following outcome) 0 ((issued.statement.callback outcome).getD [])

def turns : List Issued → Nat
  | [] => 0
  | issued :: rest => issued.statement.turns + turns rest

end Issued

def issuedAtSetup (program : List Statement) : List Issued := Issued.number .top 0 program

namespace Issued

theorem turns_append (left right : List Issued) :
    turns (left ++ right) = turns left + turns right := by
  induction left with
  | nil => simp [turns]
  | cons issued rest ih => simp [turns, ih, Nat.add_assoc]

theorem turns_number (placed : Nat → Place) (index : Nat) (statements : List Statement) :
    turns (number placed index statements) = Statement.listTurns statements := by
  induction statements generalizing index with
  | nil => rfl
  | cons statement rest ih => simp [number, turns, Statement.listTurns, ih]

theorem turns_followers_lt (issued : Issued) (outcome : Outcome) :
    turns (issued.followers outcome) + 3 ≤ issued.statement.turns := by
  obtain ⟨place, sql, params, onSuccess, onFailure⟩ := issued
  rw [followers, turns_number, Statement.listTurns_getD]
  cases outcome with
  | ok result =>
    simp only [Statement.callback, Statement.turns]
    omega
  | error cause =>
    simp only [Statement.callback, Statement.turns]
    omega

end Issued

/-- A holder of two callbacks: which are set, in the order given. -/
def inspectHolder (name : String) (callbacks : List (String × Bool)) : String :=
  name ++ " \x7b " ++ Value.listed (callbacks.map fun (callback, set) =>
    callback ++ ": " ++ if set then "true" else "false") ++ " \x7d"

def Statement.inspectCallbacks (success failure : Bool) : String :=
  inspectHolder "StatementCallbacks" [("success", success), ("error", failure)]

end RecordSql
